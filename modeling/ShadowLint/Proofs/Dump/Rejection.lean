import ShadowLint.Proofs.Dump.Format
import ShadowLint.Proofs.Dump.Prefix

/-!
Why and where a text is refused. The nesting comes first, wherever in the text it
is exceeded; then what is not well formed, at the end of the longest well-formed
start; and then the names and numerals of the trees in the order in which they are
written.
-/

namespace ShadowLint.Dump

def placeAfter (start : List Char) : Text.Place := Text.Place.advance ⟨1, 1⟩ start

/-- The text is to be refused with the code and the place. -/
inductive Refused (text : List Char) : (code : String) → (place : Text.Place) → Prop
  /-- Too many parentheses are open; the place is that of the first one beyond the limit. -/
  | tooDeep {start rest : List Char} : text = start ++ '(' :: rest → ExceedsAt text rest →
      Refused text "HF-3003" (placeAfter start)
  /-- The place is where the longest well-formed start ends. -/
  | malformed {start rest : List Char} : (∀ rest, ¬ ExceedsAt text rest) →
      ¬ IsWellFormed text → IsLongest text start rest → Refused text "HF-3001" (placeAfter start)
  /-- The first offender is a name; the place is that of its first character. -/
  | unknownName {forest : List Written} {name fromName start : List Char} :
      (∀ rest, ¬ ExceedsAt text rest) → IsForest forest text →
      FirstOffender forest (.name name fromName) → text = start ++ fromName →
      Refused text "HF-3002" (placeAfter start)
  /-- The first offender is a numeral; it is given no place. -/
  | longNumeral {forest : List Written} {digits : List Char} :
      (∀ rest, ¬ ExceedsAt text rest) → IsForest forest text →
      FirstOffender forest (.numeral digits) → Refused text "HF-3001" ⟨0, 0⟩

variable {text : List Char}

theorem placeOfRest_append (start rest : List Char) :
    placeOfRest (start ++ rest) rest = placeAfter start := by
  rw [placeOfRest, Text.placeAt, List.length_append, Nat.add_sub_cancel, List.take_left, placeAfter]

theorem checkNesting_of_within (within : ∀ rest, ¬ ExceedsAt text rest) :
    ∃ depth, checkNesting text = .ok depth := by
  rcases nesting_cases text with ⟨depth, counted⟩ | ⟨rest, exceeds⟩
  · exact ⟨depth, checkNesting_of_ok counted⟩
  · exact absurd exceeds (within rest)

theorem Renders.suffix_of_name {forest : List Written} {input rest : List Char}
    (renders : Renders forest input rest) {name fromName : List Char}
    (member : Part.name name fromName ∈ partsOf forest) : fromName <:+ input := by
  induction renders with
  | nil => simp [partsOf] at member
  | @cons named attributes children others opened afterName described inside closed next rest
      layoutOpened _ layoutName rendersAttributes rendersChildren layoutClosed _
      inductionChildren inductionOthers =>
    have opening : opened <:+ '(' :: opened := List.suffix_cons _ _
    have insideOpened : inside <:+ opened := rendersAttributes.suffix.trans
      (layoutName.suffix.trans ((List.suffix_append named afterName).trans layoutOpened.suffix))
    have nextOpened : next <:+ opened := layoutClosed.suffix.trans
      ((List.suffix_cons ')' closed).trans (rendersChildren.suffix.trans insideOpened))
    simp only [partsOf, Written.parts, List.cons_append, List.mem_cons, List.mem_append,
      Part.name.injEq, List.mem_map, reduceCtorEq, and_false, exists_false, false_or] at member
    rcases member with ⟨-, here⟩ | inChildren | inOthers
    · exact here ▸ layoutOpened.suffix.trans opening
    · exact (inductionChildren inChildren).trans (insideOpened.trans opening)
    · exact (inductionOthers inOthers).trans (nextOpened.trans opening)

theorem IsForest.suffix_of_name {forest : List Written} (isForest : IsForest forest text)
    {name fromName : List Char} (first : FirstOffender forest (.name name fromName)) :
    ∃ start, text = start ++ fromName := by
  rcases isForest with ⟨body, layout, renders⟩
  rcases first with ⟨-, earlier, later, split, -⟩
  have member : Part.name name fromName ∈ partsOf forest := by simp [split]
  rcases (renders.suffix_of_name member).trans layout.suffix with ⟨start, whole⟩
  exact ⟨start, whole.symm⟩

/-! ## What loading answers -/

theorem loadTrees_of_exceedsAt {start rest : List Char} (split : text = start ++ '(' :: rest)
    (exceeds : ExceedsAt text rest) :
    loadTrees text = .error (.tooDeep nestingLimit (placeAfter start)) := by
  rw [loadTrees, checkNesting, nesting_of_exceedsAt exceeds, split]
  dsimp only
  rw [placeOfRest_append]

theorem loadTrees_of_malformed {start rest : List Char} (within : ∀ rest, ¬ ExceedsAt text rest)
    (malformed : ¬ IsWellFormed text) (isLongest : IsLongest text start rest) :
    loadTrees text = .error (.extraText (placeAfter start)) := by
  rcases checkNesting_of_within within with ⟨depth, counted⟩
  rcases readForest_isLongest text with ⟨other, isLongestToo⟩
  rcases isLongest.unique isLongestToo with ⟨rfl, sameRest⟩
  cases read : readForest text with
  | mk forest left =>
    rw [read] at sameRest
    subst sameRest
    cases rest with
    | nil => exact absurd ⟨forest, isForest_iff.mpr read⟩ malformed
    | cons char rest =>
      have place := placeOfRest_append start (char :: rest)
      rw [← isLongest.split] at place
      rw [loadTrees, counted, treesOf, read, ← place]

theorem loadTrees_of_offender {forest : List Written} {part : Part}
    (within : ∀ rest, ¬ ExceedsAt text rest) (isForest : IsForest forest text)
    (first : FirstOffender forest part) :
    loadTrees text = match part with
      | .name name fromName =>
        .error (.unknownKind (String.ofList name) (placeOfRest text fromName))
      | .numeral digits => .error (.numberTooLong digits.length) := by
  rcases checkNesting_of_within within with ⟨depth, counted⟩
  have refused := meanings_eq_error_iff.mpr ⟨part, first, rfl⟩
  rw [loadTrees, counted, treesOf, isForest_iff.mp isForest]
  dsimp only
  rw [refused]
  cases part <;> rfl

/-! ## Which texts are refused -/

theorem Refused.loadTrees_eq {code : String} {place : Text.Place}
    (refused : Refused text code place) :
    ∃ error, loadTrees text = .error error ∧ error.code.identifier = code ∧
      error.place = place := by
  cases refused with
  | tooDeep split exceeds => exact ⟨_, loadTrees_of_exceedsAt split exceeds, rfl, rfl⟩
  | malformed within malformed isLongest =>
    exact ⟨_, loadTrees_of_malformed within malformed isLongest, rfl, rfl⟩
  | @unknownName forest name fromName start within isForest first split =>
    have place := placeOfRest_append start fromName
    rw [← split] at place
    exact ⟨_, loadTrees_of_offender within isForest first, rfl, place⟩
  | longNumeral within isForest first =>
    exact ⟨_, loadTrees_of_offender within isForest first, rfl, rfl⟩

theorem loads_or_refused (text : List Char) :
    (∃ trees, loadTrees text = .ok trees) ∨ ∃ code place, Refused text code place := by
  by_cases within : ∀ rest, ¬ ExceedsAt text rest
  · by_cases wellFormed : IsWellFormed text
    · rcases wellFormed with ⟨forest, isForest⟩
      cases meant : meanings forest with
      | ok trees =>
        left
        rcases checkNesting_of_within within with ⟨depth, counted⟩
        rw [loadTrees, counted]
        exact ⟨trees, treesOf_of_isForest isForest (meanings_eq_ok_iff.mp meant)⟩
      | error flaw =>
        right
        rcases meanings_eq_error_iff.mp meant with ⟨part, first, -⟩
        cases part with
        | name name fromName =>
          rcases isForest.suffix_of_name first with ⟨start, split⟩
          exact ⟨_, _, .unknownName within isForest first split⟩
        | numeral digits => exact ⟨_, _, .longNumeral within isForest first⟩
    · rcases readForest_isLongest text with ⟨start, isLongest⟩
      exact .inr ⟨_, _, .malformed within wellFormed isLongest⟩
  · right
    rcases not_forall.mp within with ⟨rest, exceeds⟩
    have exceedsAt := not_not.mp exceeds
    rcases exceedsAt with ⟨most, fits, scans⟩
    rcases scans.suffix with ⟨start, split⟩
    exact ⟨_, _, .tooDeep split.symm ⟨most, fits, scans⟩⟩

/-- Every text that does not load is refused with the code and at the place that it is
to be refused with, and no other text is. -/
theorem refused_iff (text : List Char) (code : String) (place : Text.Place) :
    Refused text code place ↔
      ∃ error, loadTrees text = .error error ∧ error.code.identifier = code ∧
        error.place = place := by
  refine ⟨Refused.loadTrees_eq, ?_⟩
  rintro ⟨error, failed, rfl, rfl⟩
  rcases loads_or_refused text with ⟨trees, loaded⟩ | ⟨code, place, refused⟩
  · rw [loaded] at failed
    cases failed
  · rcases refused.loadTrees_eq with ⟨other, failedToo, rfl, rfl⟩
    rw [failed] at failedToo
    cases failedToo
    exact refused

end ShadowLint.Dump
