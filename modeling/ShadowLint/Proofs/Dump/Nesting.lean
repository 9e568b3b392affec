import Mathlib.Data.Int.Order.Basic
import ShadowLint.Dump.Nesting
import ShadowLint.Proofs.Dump.Parsing

/-!
Counting parentheses as steps through a text. A step passes a quoted text, a comment
or a single character, and only a parenthesis that stands outside of the former two
changes the count. The nesting of a text is the most that is open on the way to its
end (`nesting_of_scans`), unless the count exceeds the limit, and then the text is
refused where it first does (`nesting_of_exceedsAt`). On the way over trees the
count rises by just their levels and returns (`Renders.scans`).
-/

namespace ShadowLint.Dump

/-- How many parentheses are open and what is left to be passed. -/
structure Point where
  depth : Int
  input : List Char

def countedMarks : List Char := ['"', ';', '(', ')']

inductive Step : Point → Point → Prop
  | quoted {depth : Int} {input content rest : List Char} : Quoted input content rest →
      Step ⟨depth, '"' :: input⟩ ⟨depth, rest⟩
  /-- A quote that starts no complete text. -/
  | stray {depth : Int} {input : List Char} : (∀ content rest, ¬ Quoted input content rest) →
      Step ⟨depth, '"' :: input⟩ ⟨depth, input⟩
  | comment {depth : Int} {body after : List Char} : '\n' ∉ body →
      (∀ char ∈ after.head?, char = '\n') → Step ⟨depth, ';' :: (body ++ after)⟩ ⟨depth, after⟩
  | opening {depth : Int} {input : List Char} : Step ⟨depth, '(' :: input⟩ ⟨depth + 1, input⟩
  | closing {depth : Int} {input : List Char} : Step ⟨depth, ')' :: input⟩ ⟨depth - 1, input⟩
  | other {depth : Int} {char : Char} {input : List Char} : char ∉ countedMarks →
      Step ⟨depth, char :: input⟩ ⟨depth, input⟩

/-- Steps lead from one point to another, and `most` is the most that is open at any
point on the way, the two included. -/
inductive Scans : Point → (most : Int) → Point → Prop
  | here (point : Point) : Scans point point.depth point
  | step {first second last : Point} {most : Int} : Step first second → Scans second most last →
      Scans first (max first.depth most) last

/-- Behind a start of the text where as many parentheses are open as the limit
allows, and never more before, stands another opening one and then `rest`. -/
def ExceedsAt (text rest : List Char) : Prop :=
  ∃ most ≤ (nestingLimit : Int), Scans ⟨0, text⟩ most ⟨nestingLimit, '(' :: rest⟩

/-! ## Steps -/

namespace Step

theorem length_lt {first second : Point} (step : Step first second) :
    second.input.length < first.input.length := by
  cases step with
  | quoted quoted =>
    have shorter := quoted.length_lt
    simp only [List.length_cons]
    omega
  | comment =>
    simp only [List.length_cons, List.length_append]
    omega
  | stray => simp
  | opening => simp
  | closing => simp
  | other => simp

theorem suffix {first second : Point} (step : Step first second) :
    second.input <:+ first.input := by
  cases step with
  | quoted quoted => exact quoted.suffix.trans (List.suffix_cons _ _)
  | comment => exact (List.suffix_append _ _).trans (List.suffix_cons _ _)
  | stray => exact List.suffix_cons _ _
  | opening => exact List.suffix_cons _ _
  | closing => exact List.suffix_cons _ _
  | other => exact List.suffix_cons _ _

theorem exists_next (depth : Int) (char : Char) (input : List Char) :
    ∃ next, Step ⟨depth, char :: input⟩ next := by
  by_cases quote : char = '"'
  · subst quote
    cases found : quotedText? input with
    | none =>
      refine ⟨_, .stray ?_⟩
      intro content rest quoted
      rw [quoted.quotedText?_eq] at found
      cases found
    | some read => exact ⟨_, .quoted (quoted_of_quotedText? found)⟩
  by_cases semicolon : char = ';'
  · subst semicolon
    have split : input.takeWhile (· ≠ '\n') ++ skipComment input = input :=
      List.takeWhile_append_dropWhile
    rw [← split]
    exact ⟨_, .comment (lineFeed_not_mem_takeWhile input) (head_skipComment input)⟩
  by_cases opening : char = '('
  · subst opening
    exact ⟨_, .opening⟩
  by_cases closing : char = ')'
  · subst closing
    exact ⟨_, .closing⟩
  exact ⟨_, .other (by simp [countedMarks, quote, semicolon, opening, closing])⟩

theorem opening_of_exceeds {first second : Point} {limit : Int} (step : Step first second)
    (inside : first.depth ≤ limit) (outside : limit < second.depth) :
    ∃ rest, first = ⟨limit, '(' :: rest⟩ := by
  cases step with
  | @opening depth input =>
    have same : depth = limit := by
      dsimp only at inside outside
      omega
    exact ⟨input, by rw [same]⟩
  | quoted => exact absurd inside (by dsimp only at *; omega)
  | stray => exact absurd inside (by dsimp only at *; omega)
  | comment => exact absurd inside (by dsimp only at *; omega)
  | closing => exact absurd inside (by dsimp only at *; omega)
  | other => exact absurd inside (by dsimp only at *; omega)

end Step

/-! ## Ways -/

namespace Scans

variable {first second last : Point} {most mostToo limit : Int}

theorem depth_le (scans : Scans first most last) : first.depth ≤ most := by
  cases scans with
  | here => exact le_rfl
  | step => exact le_max_left _ _

theorem suffix (scans : Scans first most last) : last.input <:+ first.input := by
  induction scans with
  | here => exact List.suffix_rfl
  | step step _ induction => exact induction.trans step.suffix

theorem trans (scans : Scans first most second) (scansToo : Scans second mostToo last) :
    Scans first (max most mostToo) last := by
  induction scans with
  | here point =>
    rw [max_eq_right scansToo.depth_le]
    exact scansToo
  | step step _ induction =>
    rw [max_assoc]
    exact .step step (induction scansToo)

theorem ofStep {depth : Int} {input rest : List Char} (step : Step ⟨depth, input⟩ ⟨depth, rest⟩) :
    Scans ⟨depth, input⟩ depth ⟨depth, rest⟩ := by
  have scans := Scans.step step (.here ⟨depth, rest⟩)
  rwa [max_self] at scans

theorem chain {depth : Int} {input middle : List Char}
    (scans : Scans ⟨depth, input⟩ depth ⟨depth, middle⟩)
    (scansToo : Scans ⟨depth, middle⟩ most last) : Scans ⟨depth, input⟩ most last := by
  have both := scans.trans scansToo
  rwa [max_eq_right scansToo.depth_le] at both

theorem exists_exceeding (scans : Scans first most last) (inside : first.depth ≤ limit)
    (exceeds : limit < most) :
    ∃ fewer ≤ limit, ∃ rest, Scans first fewer ⟨limit, '(' :: rest⟩ := by
  induction scans with
  | here => exact absurd exceeds (not_lt.mpr inside)
  | @step first second last most step scans induction =>
    by_cases insideToo : second.depth ≤ limit
    · have later : limit < most := by omega
      rcases induction insideToo later with ⟨fewer, bound, rest, way⟩
      exact ⟨_, max_le inside bound, rest, .step step way⟩
    · rcases step.opening_of_exceeds inside (not_le.mp insideToo) with ⟨rest, rfl⟩
      exact ⟨limit, le_rfl, rest, .here _⟩

theorem exists_end_or_exceeding (inside : first.depth ≤ limit) :
    ∃ most ≤ limit, (∃ depth, Scans first most ⟨depth, []⟩) ∨
      ∃ rest, Scans first most ⟨limit, '(' :: rest⟩ := by
  induction size : first.input.length using Nat.strong_induction_on generalizing first with
  | _ size induction =>
    subst size
    rcases first with ⟨depth, input⟩
    cases input with
    | nil => exact ⟨depth, inside, .inl ⟨depth, .here _⟩⟩
    | cons char input =>
      rcases Step.exists_next depth char input with ⟨next, step⟩
      by_cases insideToo : next.depth ≤ limit
      · rcases induction _ step.length_lt insideToo rfl with ⟨most, bound, ends | exceeds⟩
        · rcases ends with ⟨last, way⟩
          exact ⟨_, max_le inside bound, .inl ⟨last, .step step way⟩⟩
        · rcases exceeds with ⟨rest, way⟩
          exact ⟨_, max_le inside bound, .inr ⟨rest, .step step way⟩⟩
      · rcases step.opening_of_exceeds inside (not_le.mp insideToo) with ⟨rest, equal⟩
        rw [equal]
        exact ⟨limit, le_rfl, .inr ⟨rest, .here _⟩⟩

end Scans

/-! ## The nesting of a text -/

/-- The count follows the steps, as long as they stay within the limit. -/
theorem nestingFrom_step {first second : Point} (step : Step first second) {fuel deepest : Nat}
    (fits : second.depth ≤ nestingLimit) (counted : first.depth.toNat ≤ deepest) :
    nestingFrom (fuel + 1) first.depth deepest first.input =
      nestingFrom fuel second.depth (max deepest second.depth.toNat) second.input := by
  cases step with
  | quoted quoted =>
    rw [nestingFrom, if_pos rfl, quoted.quotedText?_eq, max_eq_left counted]
  | @stray depth input stray =>
    have none : quotedText? input = none := by
      cases found : quotedText? input with
      | none => rfl
      | some read => exact absurd (quoted_of_quotedText? found) (stray _ _)
    rw [nestingFrom, if_pos rfl, none, max_eq_left counted]
  | comment inside ends =>
    rw [nestingFrom, if_neg (by decide), if_pos rfl, skipComment_body inside ends,
      max_eq_left counted]
  | opening =>
    rw [nestingFrom, if_neg (by decide), if_neg (by decide), if_pos rfl,
      if_neg (not_lt.mpr fits)]
  | @closing depth input =>
    have fewer : (depth - 1).toNat ≤ deepest := by
      dsimp only at counted
      omega
    rw [nestingFrom, if_neg (by decide), if_neg (by decide), if_neg (by decide), if_pos rfl,
      max_eq_left fewer]
  | other other =>
    simp only [countedMarks, List.mem_cons, List.not_mem_nil, or_false, not_or] at other
    rcases other with ⟨quote, semicolon, opening, closing⟩
    rw [nestingFrom, if_neg quote, if_neg semicolon, if_neg opening, if_neg closing,
      max_eq_left counted]

theorem nestingFrom_scans {first last : Point} {most : Int} (scans : Scans first most last)
    {fuel deepest : Nat} (fits : most ≤ nestingLimit) (counted : first.depth.toNat ≤ deepest)
    (enough : first.input.length ≤ fuel) :
    ∃ left, last.input.length ≤ left ∧
      nestingFrom fuel first.depth deepest first.input =
        nestingFrom left last.depth (max deepest most.toNat) last.input := by
  induction scans generalizing fuel deepest with
  | here point => exact ⟨fuel, enough, by rw [max_eq_left counted]⟩
  | @step first second last most step scans induction =>
    have shorter := step.length_lt
    have fitsToo : most ≤ nestingLimit := le_trans (le_max_right _ _) fits
    cases fuel with
    | zero => omega
    | succ fuel =>
      rcases @induction fuel (max deepest second.depth.toNat) fitsToo (le_max_right _ _)
        (by omega) with ⟨left, enoughLeft, equal⟩
      refine ⟨left, enoughLeft, ?_⟩
      have peak : max (max deepest second.depth.toNat) most.toNat =
          max deepest (max first.depth most).toNat := by
        have start := scans.depth_le
        omega
      rw [nestingFrom_step step (le_trans scans.depth_le fitsToo) counted, equal, peak]

theorem nesting_of_scans {text : List Char} {most depth : Int}
    (scans : Scans ⟨0, text⟩ most ⟨depth, []⟩) (fits : most ≤ nestingLimit) :
    nesting text = .ok most.toNat := by
  rcases @nestingFrom_scans _ _ _ scans text.length 0 fits le_rfl le_rfl with ⟨left, -, equal⟩
  rw [nesting, equal]
  cases left <;> simp [nestingFrom]

theorem nesting_of_exceedsAt {text rest : List Char} (exceeds : ExceedsAt text rest) :
    nesting text = .error ('(' :: rest) := by
  rcases exceeds with ⟨most, fits, scans⟩
  rcases @nestingFrom_scans _ _ _ scans text.length 0 fits le_rfl le_rfl with
    ⟨left, enough, equal⟩
  rw [nesting, equal]
  cases left with
  | zero => simp at enough
  | succ left =>
    rw [nestingFrom, if_neg (by decide), if_neg (by decide), if_pos rfl,
      if_pos (Int.lt_succ _)]

theorem nesting_cases (text : List Char) :
    (∃ depth, nesting text = .ok depth) ∨ ∃ rest, ExceedsAt text rest := by
  rcases @Scans.exists_end_or_exceeding ⟨0, text⟩ nestingLimit (by simp) with
    ⟨most, fits, ⟨depth, scans⟩ | ⟨rest, scans⟩⟩
  · exact .inl ⟨_, nesting_of_scans scans fits⟩
  · exact .inr ⟨rest, most, fits, scans⟩

/-! ## Ways over the parts of a dump -/

theorem not_counted_of {holds : Char → Bool} (excludes : countedMarks.any holds = false)
    {char : Char} (held : holds char = true) : char ∉ countedMarks := by
  intro counted
  exact List.any_eq_false.mp excludes char counted held

theorem not_counted_of_blank {char : Char} (blank : Text.isLayoutBlank char = true) :
    char ∉ countedMarks :=
  not_counted_of rfl blank

theorem not_counted_of_isNamePart {char : Char} (part : isNamePart char = true) :
    char ∉ countedMarks :=
  not_counted_of rfl part

theorem scans_run {run : List Char} (passed : ∀ char ∈ run, char ∉ countedMarks) (depth : Int)
    (rest : List Char) : Scans ⟨depth, run ++ rest⟩ depth ⟨depth, rest⟩ := by
  induction run with
  | nil => exact .here _
  | cons char others induction =>
    have first : Scans ⟨depth, char :: (others ++ rest)⟩ depth ⟨depth, others ++ rest⟩ :=
      .ofStep (.other (passed char List.mem_cons_self))
    exact first.chain (induction fun other member => passed other (List.mem_cons_of_mem _ member))

theorem IsName.scans {name rest : List Char} (isName : IsName name rest) (depth : Int) :
    Scans ⟨depth, name ++ rest⟩ depth ⟨depth, rest⟩ := by
  apply scans_run
  intro char member
  apply not_counted_of_isNamePart
  rcases isName.start with ⟨first, isFirst, starts⟩
  cases name with
  | nil => cases member
  | cons head others =>
    rcases List.mem_cons.mp member with equal | inside
    · cases isFirst
      rw [equal]
      exact isNamePart_of_start starts
    · exact isName.parts char inside

theorem IsNumeral.scans {digits : List Char} (numeral : IsNumeral digits) (depth : Int)
    (rest : List Char) : Scans ⟨depth, digits ++ rest⟩ depth ⟨depth, rest⟩ := by
  apply scans_run
  intro char member
  exact not_counted_of_isNamePart (isNamePart_of_isDigit (numeral.digits char member))

theorem Layout.scans {input rest : List Char} (layout : Layout input rest) (depth : Int) :
    Scans ⟨depth, input⟩ depth ⟨depth, rest⟩ := by
  induction layout with
  | done => exact .here _
  | blank blank _ induction =>
    exact (Scans.ofStep (.other (not_counted_of_blank blank))).chain induction
  | comment inside ends _ induction => exact (Scans.ofStep (.comment inside ends)).chain induction

theorem RendersAttribute.scans {single : Attribute} {input rest : List Char}
    (renders : RendersAttribute single input rest) (depth : Int) :
    Scans ⟨depth, input⟩ depth ⟨depth, rest⟩ := by
  cases renders with
  | text quoted => exact .ofStep (.quoted quoted)
  | @position line column _ isLine isColumn =>
    have sign : Scans ⟨depth, '@' :: (line ++ ':' :: (column ++ rest))⟩ depth
        ⟨depth, line ++ ':' :: (column ++ rest)⟩ := .ofStep (.other (by decide))
    have colon : Scans ⟨depth, ':' :: (column ++ rest)⟩ depth ⟨depth, column ++ rest⟩ :=
      .ofStep (.other (by decide))
    exact sign.chain ((isLine.scans depth _).chain (colon.chain (isColumn.scans depth rest)))

theorem RendersAttributes.scans {attributes : List Attribute} {input rest : List Char}
    (renders : RendersAttributes attributes input rest) (depth : Int) :
    Scans ⟨depth, input⟩ depth ⟨depth, rest⟩ := by
  induction renders with
  | nil => exact .here _
  | cons first layout _ induction =>
    exact (first.scans depth).chain ((layout.scans depth).chain induction)

/-- On the way over trees the count rises by their levels, and returns. -/
theorem Renders.scans {forest : List Written} {input rest : List Char}
    (renders : Renders forest input rest) (depth : Int) :
    Scans ⟨depth, input⟩ (depth + levelsOf forest) ⟨depth, rest⟩ := by
  induction renders generalizing depth with
  | nil input =>
    have none : depth + (levelsOf [] : Int) = depth := by simp [levelsOf]
    rw [none]
    exact .here _
  | @cons name attributes children others opened afterName described inside closed next rest
      layoutOpened isName layoutName rendersAttributes _ layoutClosed _
      inductionChildren inductionOthers =>
    have toChildren : Scans ⟨depth + 1, opened⟩ (depth + 1) ⟨depth + 1, inside⟩ :=
      (layoutOpened.scans _).chain ((isName.scans _).chain
        ((layoutName.scans _).chain (rendersAttributes.scans _)))
    have closing : Step ⟨depth + 1, ')' :: closed⟩ ⟨depth, closed⟩ := by
      have step : Step ⟨depth + 1, ')' :: closed⟩ ⟨depth + 1 - 1, closed⟩ := .closing
      rwa [Int.add_sub_cancel] at step
    have behind : Scans ⟨depth, closed⟩ (depth + levelsOf others) ⟨depth, rest⟩ :=
      (layoutClosed.scans depth).chain (inductionOthers depth)
    have way : Scans ⟨depth, '(' :: opened⟩ _ ⟨depth, rest⟩ :=
      .step .opening ((toChildren.chain (inductionChildren (depth + 1))).trans
        (.step closing behind))
    have most : max depth (max (depth + 1 + (levelsOf children : Int))
        (max (depth + 1) (depth + (levelsOf others : Int)))) =
        depth +
          (levelsOf (.node name (name ++ afterName) attributes children :: others) : Int) := by
      rw [levelsOf, Written.levels]
      omega
    rwa [most] at way

theorem IsForest.scans {forest : List Written} {text : List Char}
    (isForest : IsForest forest text) :
    Scans ⟨0, text⟩ (levelsOf forest) ⟨0, []⟩ := by
  rcases isForest with ⟨body, layout, renders⟩
  have way := renders.scans 0
  rw [Int.zero_add] at way
  exact (layout.scans 0).chain way

theorem IsForest.exceedsAt_iff {forest : List Written} {text : List Char}
    (isForest : IsForest forest text) :
    (∃ rest, ExceedsAt text rest) ↔ nestingLimit < levelsOf forest := by
  constructor
  · rintro ⟨rest, exceeds⟩
    by_contra within
    have fits : (levelsOf forest : Int) ≤ nestingLimit := by omega
    have counted := nesting_of_scans isForest.scans fits
    rw [nesting_of_exceedsAt exceeds] at counted
    cases counted
  · intro exceeds
    have more : (nestingLimit : Int) < levelsOf forest := by omega
    rcases isForest.scans.exists_exceeding (by simp) more with ⟨most, fits, rest, scans⟩
    exact ⟨rest, most, fits, scans⟩

end ShadowLint.Dump
