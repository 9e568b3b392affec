import Mathlib.Data.Nat.Digits.Defs
import ShadowLint.Dump.Forest
import ShadowLint.Proofs.Dump.Grammar

/-!
What written trees stand for. `Denotes` says it tree by tree; `Part.Offends` says of
the names and numerals of written trees, listed in the order in which they are
written, which ones stand for nothing. Written trees denote trees unless a part of
them offends (`meanings_eq_ok_iff`), and then they are refused for the first such part
(`meanings_eq_error_iff`).
-/

namespace ShadowLint.Dump

/-! ## Attributes -/

namespace Attribute

def text? : Attribute → Option (List Char)
  | text content => some content
  | position _ _ => none

def position? : Attribute → Option (List Char × List Char)
  | text _ => none
  | position line column => some (line, column)

def numerals : Attribute → List (List Char)
  | text _ => []
  | position line column => [line, column]

end Attribute

def numeralValue (digits : List Char) : Nat :=
  Nat.ofDigits 10 (digits.reverse.map fun digit => digit.toNat - '0'.toNat)

def lastText? (attributes : List Attribute) : Option (List Char) :=
  (attributes.filterMap Attribute.text?).getLast?

def lastPosition? (attributes : List Attribute) : Option (List Char × List Char) :=
  (attributes.filterMap Attribute.position?).getLast?

/-- What a node carries: its last text, or the default text of its kind if that is
empty, and its last position, or zeros. -/
def labelOf (kind : Kind) (attributes : List Attribute) : Label :=
  .make kind (String.ofList ((lastText? attributes).getD []))
    (((lastPosition? attributes).map fun position => (numeralValue position.1 : Int)).getD 0)
    (((lastPosition? attributes).map fun position => (numeralValue position.2 : Int)).getD 0)

/-! ## Trees -/

def numeralLimit : Nat := 4300

/-- Written trees and the trees they stand for. -/
inductive Denotes : List Written → List Tree → Prop
  | nil : Denotes [] []
  | cons {kind : Kind} {name fromName : List Char} {attributes : List Attribute}
      {children others : List Written} {below trees : List Tree} :
      kind.name = String.ofList name →
      (∀ digits ∈ attributes.flatMap Attribute.numerals, digits.length ≤ numeralLimit) →
      Denotes children below → Denotes others trees →
      Denotes (.node name fromName attributes children :: others)
        (.node (labelOf kind attributes) below :: trees)

/-- What has to have a meaning: names and numerals. -/
inductive Part where
  | name (written fromName : List Char)
  | numeral (digits : List Char)

namespace Part

def Offends : Part → Prop
  | name written _ => ∀ kind : Kind, kind.name ≠ String.ofList written
  | numeral digits => numeralLimit < digits.length

def flaw : Part → Flaw
  | name written fromName => .unknownKind written fromName
  | numeral digits => .numberTooLong digits.length

end Part

mutual

def Written.parts : Written → List Part
  | .node name fromName attributes children =>
    .name name fromName ::
      ((attributes.flatMap Attribute.numerals).map Part.numeral ++ partsOf children)

def partsOf : List Written → List Part
  | [] => []
  | tree :: others => tree.parts ++ partsOf others

end

/-- The part is the first of the written trees that stands for nothing. -/
def FirstOffender (forest : List Written) (part : Part) : Prop :=
  part.Offends ∧ ∃ earlier later, partsOf forest = earlier ++ part :: later ∧
    ∀ other ∈ earlier, ¬ other.Offends

/-! ## Numerals and attributes -/

theorem numeralValue_eq (digits : List Char) :
    numeralValue digits =
      digits.foldl (fun value digit => 10 * value + (digit.toNat - 48)) 0 := by
  have zero : '0'.toNat = 48 := rfl
  rw [numeralValue, Nat.ofDigits_eq_foldr, List.foldr_map, List.foldr_reverse, zero]
  simp only [Nat.cast_id, Nat.add_comm]

theorem number_eq {digits : List Char} (short : digits.length ≤ numeralLimit) :
    number digits = .ok (numeralValue digits : Int) := by
  have notLong : ¬ Json.digitLimit < digits.length := not_lt.mpr short
  rw [number, if_neg notLong, numeralValue_eq]

theorem number_of_long {digits : List Char} (long : numeralLimit < digits.length) :
    number digits = .error (.numberTooLong digits.length) :=
  if_pos long

theorem lastText?_text (content : List Char) (rest : List Attribute) :
    lastText? (.text content :: rest) = some ((lastText? rest).getD content) := by
  simp [lastText?, Attribute.text?, List.getLast?_cons]

theorem lastPosition?_position (line column : List Char) (rest : List Attribute) :
    lastPosition? (.position line column :: rest) =
      some ((lastPosition? rest).getD (line, column)) := by
  simp [lastPosition?, Attribute.position?, List.getLast?_cons]

theorem readingOf_eq {attributes : List Attribute}
    (short : ∀ digits ∈ attributes.flatMap Attribute.numerals, digits.length ≤ numeralLimit)
    (reading : Reading) :
    readingOf reading attributes = .ok
      { text := (lastText? attributes).getD reading.text
        line := ((lastPosition? attributes).map
          fun position => (numeralValue position.1 : Int)).getD reading.line
        column := ((lastPosition? attributes).map
          fun position => (numeralValue position.2 : Int)).getD reading.column } := by
  induction attributes generalizing reading with
  | nil => rfl
  | cons single rest induction =>
    rw [List.flatMap_cons] at short
    have shortRest : ∀ digits ∈ rest.flatMap Attribute.numerals, digits.length ≤ numeralLimit :=
      fun digits member => short digits (List.mem_append_right _ member)
    cases single with
    | text content =>
      have position : lastPosition? (.text content :: rest) = lastPosition? rest := rfl
      rw [readingOf, induction shortRest, lastText?_text, position]
      rfl
    | position line column =>
      have shortLine : line.length ≤ numeralLimit := short line (by simp [Attribute.numerals])
      have shortColumn : column.length ≤ numeralLimit :=
        short column (by simp [Attribute.numerals])
      have text : lastText? (.position line column :: rest) = lastText? rest := rfl
      rw [readingOf, number_eq shortLine, number_eq shortColumn]
      dsimp only
      rw [induction shortRest, lastPosition?_position, text]
      cases lastPosition? rest <;> rfl

theorem readingOf_of_long {attributes : List Attribute} {digits : List Char}
    (found : (attributes.flatMap Attribute.numerals).find? (numeralLimit < ·.length) = some digits)
    (reading : Reading) : readingOf reading attributes = .error (.numberTooLong digits.length) := by
  induction attributes generalizing reading with
  | nil => cases found
  | cons single rest induction =>
    cases single with
    | text content => exact induction found _
    | position line column =>
      rw [readingOf]
      simp only [List.flatMap_cons, Attribute.numerals, List.cons_append, List.nil_append,
        List.find?_cons] at found
      by_cases longLine : numeralLimit < line.length
      · simp only [longLine, decide_true, Option.some.injEq] at found
        rw [number_of_long longLine, found]
      · rw [number_eq (not_lt.mp longLine)]
        simp only [longLine, decide_false] at found
        by_cases longColumn : numeralLimit < column.length
        · simp only [longColumn, decide_true, Option.some.injEq] at found
          rw [number_of_long longColumn, found]
        · rw [number_eq (not_lt.mp longColumn)]
          simp only [longColumn, decide_false] at found
          exact induction found _

/-! ## Trees -/

theorem ofName?_eq_none_iff {name : List Char} :
    Kind.ofName? (String.ofList name) = none ↔ ∀ kind : Kind, kind.name ≠ String.ofList name := by
  constructor
  · intro unknown kind equal
    rw [Kind.ofName?_eq_some_iff.mpr equal] at unknown
    cases unknown
  · intro unknown
    cases found : Kind.ofName? (String.ofList name) with
    | none => rfl
    | some kind => exact absurd (Kind.name_of_ofName? found) (unknown kind)

instance : DecidablePred Part.Offends
  | .name _ _ => decidable_of_iff _ ofName?_eq_none_iff
  | .numeral digits => inferInstanceAs (Decidable (numeralLimit < digits.length))

theorem Written.induction_forest {Holds : List Written → Prop} (nil : Holds [])
    (cons : ∀ name fromName attributes children others, Holds children → Holds others →
      Holds (.node name fromName attributes children :: others)) :
    ∀ forest, Holds forest
  | [] => nil
  | .node name fromName attributes children :: others =>
    cons name fromName attributes children others (induction_forest nil cons children)
      (induction_forest nil cons others)

theorem meanings_of_denotes {forest : List Written} {trees : List Tree}
    (denotes : Denotes forest trees) : meanings forest = .ok trees := by
  induction denotes with
  | nil => rw [meanings]
  | cons named short _ _ inductionBelow inductionOthers =>
    rw [meanings, meaning, Kind.ofName?_eq_some_iff.mpr named]
    dsimp only
    rw [readingOf_eq short, inductionBelow, inductionOthers]
    rfl

/-- The name of a tree comes before its numerals, these before its children, and
these before the other trees. -/
theorem find?_partsOf_cons (name fromName : List Char) (attributes : List Attribute)
    (children others : List Written) :
    (partsOf (.node name fromName attributes children :: others)).find? (·.Offends) =
      if (Part.name name fromName).Offends then some (.name name fromName)
      else (((attributes.flatMap Attribute.numerals).find? (numeralLimit < ·.length)).map
        Part.numeral).or (((partsOf children).find? (·.Offends)).or
          ((partsOf others).find? (·.Offends))) := by
  have numerals : (fun part : Part => decide part.Offends) ∘ Part.numeral =
      fun digits => decide (numeralLimit < digits.length) := rfl
  rw [partsOf, Written.parts, List.cons_append, List.find?_cons, List.append_assoc,
    List.find?_append, List.find?_append, List.find?_map, numerals]
  by_cases offends : (Part.name name fromName).Offends
  · simp [offends]
  · simp [offends]

theorem exists_denotes {forest : List Written}
    (sound : (partsOf forest).find? (·.Offends) = none) : ∃ trees, Denotes forest trees := by
  induction forest using Written.induction_forest with
  | nil => exact ⟨[], .nil⟩
  | cons name fromName attributes children others inductionChildren inductionOthers =>
    rw [find?_partsOf_cons] at sound
    split at sound
    · cases sound
    · rename_i known
      simp only [Option.or_eq_none_iff, Option.map_eq_none_iff] at sound
      rcases sound with ⟨short, soundChildren, soundOthers⟩
      rcases inductionChildren soundChildren with ⟨below, denotesChildren⟩
      rcases inductionOthers soundOthers with ⟨trees, denotesOthers⟩
      rcases not_forall.mp known with ⟨kind, named⟩
      have shortAll : ∀ digits ∈ attributes.flatMap Attribute.numerals,
          digits.length ≤ numeralLimit := by
        intro digits member
        simpa using List.find?_eq_none.mp short digits member
      exact ⟨_, .cons (not_not.mp named) shortAll denotesChildren denotesOthers⟩

theorem meanings_of_find? {forest : List Written} {part : Part}
    (found : (partsOf forest).find? (·.Offends) = some part) :
    meanings forest = .error part.flaw := by
  induction forest using Written.induction_forest with
  | nil => cases found
  | cons name fromName attributes children others inductionChildren inductionOthers =>
    rw [find?_partsOf_cons] at found
    rw [meanings, meaning]
    split at found
    · rename_i unknown
      cases found
      rw [ofName?_eq_none_iff.mpr unknown]
      rfl
    · rename_i known
      rcases not_forall.mp known with ⟨kind, named⟩
      rw [Kind.ofName?_eq_some_iff.mpr (not_not.mp named)]
      dsimp only
      cases long : (attributes.flatMap Attribute.numerals).find? (numeralLimit < ·.length) with
      | some digits =>
        rw [long] at found
        cases found
        rw [readingOf_of_long long]
        rfl
      | none =>
        have short : ∀ digits ∈ attributes.flatMap Attribute.numerals,
            digits.length ≤ numeralLimit := by
          intro digits member
          simpa using List.find?_eq_none.mp long digits member
        rw [long, Option.map_none, Option.none_or] at found
        rw [readingOf_eq short]
        dsimp only
        cases inside : (partsOf children).find? (·.Offends) with
        | some offender =>
          rw [inside, Option.some_or] at found
          cases found
          rw [inductionChildren inside]
        | none =>
          rw [inside, Option.none_or] at found
          rcases exists_denotes inside with ⟨below, denotes⟩
          rw [meanings_of_denotes denotes]
          dsimp only
          rw [inductionOthers found]

theorem firstOffender_iff {forest : List Written} {part : Part} :
    FirstOffender forest part ↔ (partsOf forest).find? (·.Offends) = some part := by
  rw [List.find?_eq_some_iff_append, FirstOffender, decide_eq_true_eq]
  simp only [Bool.not_eq_true', decide_eq_false_iff_not]

theorem meanings_eq_ok_iff {forest : List Written} {trees : List Tree} :
    meanings forest = .ok trees ↔ Denotes forest trees := by
  refine ⟨fun meant => ?_, meanings_of_denotes⟩
  cases found : (partsOf forest).find? (·.Offends) with
  | some part =>
    rw [meanings_of_find? found] at meant
    cases meant
  | none =>
    rcases exists_denotes found with ⟨denoted, denotes⟩
    rw [meanings_of_denotes denotes] at meant
    exact Except.ok.inj meant ▸ denotes

theorem meanings_eq_error_iff {forest : List Written} {flaw : Flaw} :
    meanings forest = .error flaw ↔ ∃ part, FirstOffender forest part ∧ part.flaw = flaw := by
  constructor
  · intro refused
    cases found : (partsOf forest).find? (·.Offends) with
    | some part =>
      rw [meanings_of_find? found] at refused
      exact ⟨part, firstOffender_iff.mpr found, Except.error.inj refused⟩
    | none =>
      rcases exists_denotes found with ⟨denoted, denotes⟩
      rw [meanings_of_denotes denotes] at refused
      cases refused
  · rintro ⟨part, first, rfl⟩
    exact meanings_of_find? (firstOffender_iff.mp first)

end ShadowLint.Dump
