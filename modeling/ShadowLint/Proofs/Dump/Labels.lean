import ShadowLint.Proofs.Dump.Format
import ShadowLint.Proofs.Json.Lexemes
import ShadowLint.Proofs.Tree.Search

/-!
The places of loaded nodes. What a dump gives as a line or a column is a numeral of limited
length, so the lines and columns of the trees that it stands for are short enough to be written
as numbers and read again (`Dump.hasShortPlace_of_loadTrees`).
-/

namespace ShadowLint

/-- Line and column have no more digits than are read. -/
def Label.HasShortPlace (label : Label) : Prop :=
  Json.IsShort label.line ∧ Json.IsShort label.column

namespace Dump

/-! ## Numerals -/

theorem numeralValue_lt {digits : List Char} (allDigits : ∀ char ∈ digits, char.isDigit = true) :
    numeralValue digits < 10 ^ digits.length := by
  have small : ∀ value ∈ digits.reverse.map fun digit => digit.toNat - '0'.toNat, value < 10 := by
    intro value inside
    rcases List.mem_map.mp inside with ⟨digit, member, rfl⟩
    have upper := (Char.isDigit_iff_toNat.mp (allDigits digit (List.mem_reverse.mp member))).2
    have zero : '0'.toNat = 48 := rfl
    have nine : '9'.toNat = 57 := rfl
    omega
  have bounded := Nat.ofDigits_lt_base_pow_length (by decide : 1 < 10) small
  rwa [List.length_map, List.length_reverse] at bounded

theorem isShort_numeralValue {digits : List Char} (isNumeral : IsNumeral digits)
    (short : digits.length ≤ numeralLimit) : Json.IsShort (numeralValue digits : Int) := by
  have within : (Nat.toDigits 10 (numeralValue digits)).length ≤ digits.length :=
    (Nat.length_toDigits_le_iff (by decide) (List.length_pos_iff.mpr isNumeral.nonempty)).mpr
      (numeralValue_lt isNumeral.digits)
  exact within.trans short

theorem isShort_zero : Json.IsShort 0 := by decide

/-! ## Attributes -/

theorem mem_numerals_of_lastPosition? {attributes : List Attribute} {line column : List Char}
    (last : lastPosition? attributes = some (line, column)) :
    line ∈ attributes.flatMap Attribute.numerals ∧
      column ∈ attributes.flatMap Attribute.numerals := by
  rcases List.mem_filterMap.mp (List.mem_of_getLast? last) with ⟨single, member, isPosition⟩
  cases single with
  | text content => cases isPosition
  | position first second =>
    cases isPosition
    exact ⟨List.mem_flatMap.mpr ⟨_, member, List.mem_cons_self⟩,
      List.mem_flatMap.mpr ⟨_, member, List.mem_cons_of_mem _ List.mem_cons_self⟩⟩

theorem RendersAttributes.isNumeral {attributes : List Attribute} {input rest : List Char}
    (renders : RendersAttributes attributes input rest) :
    ∀ digits ∈ attributes.flatMap Attribute.numerals, IsNumeral digits := by
  induction renders with
  | nil => nofun
  | cons first _ _ induction =>
    rw [List.flatMap_cons]
    refine List.forall_mem_append.mpr ⟨?_, induction⟩
    cases first with
    | text => nofun
    | position _ isLine isColumn =>
      exact List.forall_mem_cons.mpr ⟨isLine, List.forall_mem_singleton.mpr isColumn⟩

/-! ## Trees -/

theorem numeral_mem_partsOf_cons {name fromName digits : List Char}
    {attributes : List Attribute} {children others : List Written} :
    Part.numeral digits ∈ partsOf (.node name fromName attributes children :: others) ↔
      digits ∈ attributes.flatMap Attribute.numerals ∨ Part.numeral digits ∈ partsOf children ∨
        Part.numeral digits ∈ partsOf others := by
  simp only [partsOf, Written.parts, List.cons_append, List.mem_cons, List.mem_append,
    List.mem_map, Part.numeral.injEq, exists_eq_right, reduceCtorEq, false_or, or_assoc]

theorem Renders.isNumeral {forest : List Written} {input rest : List Char}
    (renders : Renders forest input rest) {digits : List Char}
    (member : Part.numeral digits ∈ partsOf forest) : IsNumeral digits := by
  induction renders with
  | nil => simp [partsOf] at member
  | cons _ _ _ rendersAttributes _ _ _ inductionChildren inductionOthers =>
    rcases numeral_mem_partsOf_cons.mp member with here | inChildren | inOthers
    · exact rendersAttributes.isNumeral digits here
    · exact inductionChildren inChildren
    · exact inductionOthers inOthers

theorem hasShortPlace_labelOf (kind : Kind) {attributes : List Attribute}
    (short : ∀ digits ∈ attributes.flatMap Attribute.numerals,
      IsNumeral digits ∧ digits.length ≤ numeralLimit) :
    (labelOf kind attributes).HasShortPlace := by
  unfold labelOf
  cases last : lastPosition? attributes with
  | none => exact ⟨isShort_zero, isShort_zero⟩
  | some position =>
    rcases mem_numerals_of_lastPosition? last with ⟨inLine, inColumn⟩
    exact ⟨isShort_numeralValue (short _ inLine).1 (short _ inLine).2,
      isShort_numeralValue (short _ inColumn).1 (short _ inColumn).2⟩

theorem hasShortPlace_of_denotes {forest : List Written} {trees : List Tree}
    (denotes : Denotes forest trees)
    (numerals : ∀ digits, Part.numeral digits ∈ partsOf forest → IsNumeral digits) :
    ∀ tree ∈ trees, ∀ node, tree.Has node → node.label.HasShortPlace := by
  induction denotes with
  | nil => nofun
  | @cons kind name _ attributes children _ below _ _ short _ _ inductionBelow inductionOthers =>
    have isNumeral (digits : List Char) := fun part =>
      numerals digits (numeral_mem_partsOf_cons.mpr part)
    have atRoot := hasShortPlace_labelOf kind fun digits member =>
      ⟨isNumeral digits (.inl member), short digits member⟩
    have inChildren := inductionBelow fun digits member => isNumeral digits (.inr (.inl member))
    have inOthers := inductionOthers fun digits member => isNumeral digits (.inr (.inr member))
    refine List.forall_mem_cons.mpr ⟨fun node inside => ?_, inOthers⟩
    rcases Tree.has_iff.mp inside with rfl | ⟨child, member, inChild⟩
    · exact atRoot
    · exact inChildren child member node inChild

theorem treesOf_of_loadTrees {text : List Char} {trees : List Tree}
    (loaded : loadTrees text = .ok trees) : treesOf text = .ok trees := by
  unfold loadTrees at loaded
  split at loaded
  · cases loaded
  · exact loaded

theorem hasShortPlace_of_loadTrees {text : List Char} {trees : List Tree}
    (loaded : loadTrees text = .ok trees) :
    ∀ tree ∈ trees, ∀ node, tree.Has node → node.label.HasShortPlace := by
  rcases isForest_of_treesOf (treesOf_of_loadTrees loaded) with
    ⟨forest, ⟨body, layout, renders⟩, denotes⟩
  exact hasShortPlace_of_denotes denotes fun _ member => renders.isNumeral member

end Dump

end ShadowLint
