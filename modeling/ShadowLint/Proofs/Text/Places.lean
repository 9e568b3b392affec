import Mathlib.Data.List.Induction
import ShadowLint.Text.Place

/-!
What a place tells. The start of a text up to an offset is made of whole lines, each with its
line feed, and of a piece of one more line; the place counts the lines and the characters of
the piece, however it is found. So every place belongs to one offset only, and places stand in
the order of their offsets (`Text.placeAt_identifies`).
-/

namespace ShadowLint.Text

/-! ## Lines -/

def lines (text : List Char) : List (List Char) := text.splitOn '\n'

/-- The offset at which a line starts, lines counted from one: before it stand the lines with
smaller numbers, each with its line feed. -/
def lineStart (text : List Char) (line : Nat) : Nat :=
  (((lines text).take (line - 1)).flatMap (· ++ ['\n'])).length

theorem lines_cons (char : Char) (rest : List Char) :
    lines (char :: rest) =
      if char = '\n' then [] :: lines rest else (lines rest).modifyHead (char :: ·) := by
  simp only [lines, List.splitOn_cons_eq_if_modifyHead, beq_iff_eq]

theorem exists_lines_eq_cons (text : List Char) : ∃ first others, lines text = first :: others :=
  List.exists_cons_of_ne_nil (List.splitOn_ne_nil '\n' text)

theorem length_lines (text : List Char) : (lines text).length = text.count '\n' + 1 := by
  induction text with
  | nil => rfl
  | cons char rest induction =>
    rw [lines_cons]
    by_cases lineFeed : char = '\n'
    · simp [lineFeed, induction]
    · simp [lineFeed, induction]

theorem lines_append_of_unbroken {piece : List Char} (unbroken : '\n' ∉ piece)
    {rest first : List Char} {others : List (List Char)} (split : lines rest = first :: others) :
    lines (piece ++ rest) = (piece ++ first) :: others := by
  induction piece with
  | nil => exact split
  | cons char more induction =>
    have different : char ≠ '\n' := fun equal => unbroken (equal ▸ List.mem_cons_self)
    have unbrokenMore : '\n' ∉ more := fun inside => unbroken (List.mem_cons_of_mem _ inside)
    rw [List.cons_append, lines_cons, if_neg different, induction unbrokenMore]
    rfl

/-! ## The text before an offset -/

/-- The start of a text is made of whole lines, each with its line feed, and a piece of a line. -/
structure IsCut (start : List Char) (whole : List (List Char)) (piece : List Char) : Prop where
  split : start = whole.flatMap (· ++ ['\n']) ++ piece
  wholeUnbroken : ∀ line ∈ whole, '\n' ∉ line
  pieceUnbroken : '\n' ∉ piece

namespace IsCut

variable {start : List Char} {whole : List (List Char)} {piece : List Char}

theorem lines_append (cut : IsCut start whole piece) {rest first : List Char}
    {others : List (List Char)} (split : lines rest = first :: others) :
    lines (start ++ rest) = whole ++ (piece ++ first) :: others := by
  rcases cut with ⟨rfl, wholeUnbroken, pieceUnbroken⟩
  induction whole with
  | nil => exact lines_append_of_unbroken pieceUnbroken split
  | cons line more induction =>
    have inMore := induction fun other inside => wholeUnbroken other (List.mem_cons_of_mem _ inside)
    have lineUnbroken := wholeUnbroken line List.mem_cons_self
    rw [lines] at inMore ⊢
    simp only [List.flatMap_cons, List.append_assoc, List.cons_append, List.nil_append] at inMore ⊢
    rw [List.splitOn_append_cons_self_of_not_mem lineUnbroken, inMore]

theorem next_char (cut : IsCut start whole piece) {char : Char} (different : char ≠ '\n') :
    IsCut (start ++ [char]) whole (piece ++ [char]) := by
  refine ⟨?_, cut.wholeUnbroken, ?_⟩
  · rw [cut.split, List.append_assoc]
  · simp [cut.pieceUnbroken, Ne.symm different]

theorem next_line (cut : IsCut start whole piece) :
    IsCut (start ++ ['\n']) (whole ++ [piece]) [] := by
  refine ⟨?_, ?_, List.not_mem_nil⟩
  · rw [cut.split]
    simp
  · intro line inside
    rcases List.mem_append.mp inside with inWhole | isPiece
    · exact cut.wholeUnbroken line inWhole
    · rw [List.mem_singleton.mp isPiece]
      exact cut.pieceUnbroken

end IsCut

theorem exists_cut (start : List Char) :
    ∃ whole piece, IsCut start whole piece ∧
      Place.advance ⟨1, 1⟩ start = ⟨whole.length + 1, piece.length + 1⟩ := by
  induction start using List.reverseRecOn with
  | nil => exact ⟨[], [], ⟨rfl, nofun, List.not_mem_nil⟩, rfl⟩
  | append_singleton start char induction =>
    rcases induction with ⟨whole, piece, cut, place⟩
    rw [Place.advance_append, place, Place.advance]
    by_cases lineFeed : char = '\n'
    · subst lineFeed
      refine ⟨whole ++ [piece], [], cut.next_line, ?_⟩
      simp [Place.advance]
    · refine ⟨whole, piece ++ [char], cut.next_char lineFeed, ?_⟩
      simp [lineFeed, Place.advance]

/-! ## Places from two scans -/

/-- The index of the last such character; minus one where there is none. -/
def lastIndexOf (char : Char) (text : List Char) : Int :=
  match text.reverse.idxOf? char with
  | some behind => text.length - 1 - behind
  | none => -1

/-- The line and the column of an offset, from two scans of the text before it: the one counts
the line feeds, the other looks for the last of them. -/
def scannedPlace (text : List Char) (offset : Nat) : Int × Int :=
  let before := text.take offset
  (before.count '\n' + 1, offset - (lastIndexOf '\n' before + 1) + 1)

theorem idxOf?_of_not_mem {char : Char} {before rest : List Char} (fresh : char ∉ before) :
    (before ++ char :: rest).idxOf? char = some before.length := by
  have notBefore : before.findIdx? (· == char) = none := List.idxOf?_eq_none_iff.mpr fresh
  rw [List.idxOf?, List.findIdx?_append, notBefore, List.findIdx?_cons]
  simp

theorem lastIndexOf_of_not_mem {char : Char} {text : List Char} (absent : char ∉ text) :
    lastIndexOf char text = -1 := by
  rw [lastIndexOf, List.idxOf?_eq_none_iff.mpr (List.mem_reverse.not.mpr absent)]

theorem lastIndexOf_append {char : Char} {before behind : List Char} (fresh : char ∉ behind) :
    lastIndexOf char (before ++ char :: behind) = before.length := by
  have found : (before ++ char :: behind).reverse.idxOf? char = some behind.length := by
    rw [List.reverse_append, List.reverse_cons, List.append_assoc, List.singleton_append,
      idxOf?_of_not_mem (List.mem_reverse.not.mpr fresh), List.length_reverse]
  rw [lastIndexOf, found]
  simp only [List.length_append, List.length_cons]
  omega

namespace IsCut

variable {start : List Char} {whole : List (List Char)} {piece : List Char}

theorem count_eq (cut : IsCut start whole piece) : start.count '\n' = whole.length := by
  rcases cut with ⟨rfl, wholeUnbroken, pieceUnbroken⟩
  rw [List.count_append, List.count_eq_zero.mpr pieceUnbroken, Nat.add_zero]
  induction whole with
  | nil => rfl
  | cons line more induction =>
    rcases List.forall_mem_cons.mp wholeUnbroken with ⟨lineUnbroken, moreUnbroken⟩
    rw [List.flatMap_cons, List.count_append, List.count_append,
      List.count_eq_zero.mpr lineUnbroken, induction moreUnbroken, List.length_cons]
    simp only [List.count_singleton_self]
    omega

/-- The scan from behind stops where the piece starts; with no whole line before the piece, it
finds nothing, and the piece is all that there is. -/
theorem lastIndexOf_eq (cut : IsCut start whole piece) :
    lastIndexOf '\n' start + 1 + piece.length = start.length := by
  rcases cut with ⟨rfl, -, pieceUnbroken⟩
  rcases List.eq_nil_or_concat whole with rfl | ⟨earlier, line, rfl⟩
  · rw [List.flatMap_nil, List.nil_append, lastIndexOf_of_not_mem pieceUnbroken]
    omega
  · have split : (earlier.concat line).flatMap (· ++ ['\n']) ++ piece =
        (earlier.flatMap (· ++ ['\n']) ++ line) ++ '\n' :: piece := by
      simp
    rw [split, lastIndexOf_append pieceUnbroken]
    simp only [List.length_append, List.length_cons]
    omega

end IsCut

theorem scannedPlace_eq {text : List Char} {offset : Nat} (within : offset ≤ text.length) :
    scannedPlace text offset =
      (((placeAt text offset).line : Int), ((placeAt text offset).column : Int)) := by
  rcases exists_cut (text.take offset) with ⟨whole, piece, cut, counted⟩
  have lastOne := cut.lastIndexOf_eq
  rw [List.length_take_of_le within] at lastOne
  rw [placeAt, counted, scannedPlace, cut.count_eq]
  refine Prod.ext rfl ?_
  dsimp only
  omega

/-! ## The order of places -/

/-- The one place is read before the other: it is on an earlier line, or earlier on the same. -/
def Place.Precedes (left right : Place) : Prop :=
  left.line < right.line ∨ left.line = right.line ∧ left.column < right.column

theorem Place.Precedes.trans {left middle right : Place} (first : left.Precedes middle)
    (second : middle.Precedes right) : left.Precedes right := by
  unfold Precedes at first second ⊢
  omega

theorem Place.not_precedes_self (place : Place) : ¬ place.Precedes place := by
  unfold Precedes
  omega

theorem Place.precedes_advance (place : Place) {piece : List Char} (nonempty : piece ≠ []) :
    place.Precedes (place.advance piece) := by
  induction piece generalizing place with
  | nil => exact absurd rfl nonempty
  | cons char rest induction =>
    let next : Place := place.advance [char]
    have step : place.Precedes next := by
      by_cases lineFeed : char = '\n'
      · simp [next, advance, Precedes, lineFeed]
      · simp [next, advance, Precedes, lineFeed]
    have onward : place.advance (char :: rest) = next.advance rest :=
      advance_append place [char] rest
    rw [onward]
    cases rest with
    | nil => exact step
    | cons other more => exact step.trans (induction next (List.cons_ne_nil other more))

theorem placeAt_precedes {text : List Char} {left right : Nat} (before : left < right)
    (within : right ≤ text.length) : (placeAt text left).Precedes (placeAt text right) := by
  let piece := (text.drop left).take (right - left)
  have split : text.take right = text.take left ++ piece := by
    rw [← List.take_add, Nat.add_sub_cancel' (Nat.le_of_lt before)]
  have nonempty : piece ≠ [] := by
    apply List.ne_nil_of_length_pos
    rw [List.length_take, List.length_drop]
    omega
  rw [placeAt, placeAt, split, Place.advance_append]
  exact Place.precedes_advance _ nonempty

theorem placeAt_precedes_iff {text : List Char} {left right : Nat}
    (leftWithin : left ≤ text.length) (rightWithin : right ≤ text.length) :
    (placeAt text left).Precedes (placeAt text right) ↔ left < right := by
  refine ⟨fun precedes => ?_, fun before => placeAt_precedes before rightWithin⟩
  rcases Nat.lt_trichotomy left right with before | same | behind
  · exact before
  · subst same
    exact absurd precedes (Place.not_precedes_self _)
  · exact absurd (precedes.trans (placeAt_precedes behind leftWithin)) (Place.not_precedes_self _)

theorem placeAt_inj {text : List Char} {left right : Nat} (leftWithin : left ≤ text.length)
    (rightWithin : right ≤ text.length) (same : placeAt text left = placeAt text right) :
    left = right := by
  have notBefore : ¬ left < right := by
    rw [← placeAt_precedes_iff leftWithin rightWithin, same]
    exact Place.not_precedes_self _
  have notBehind : ¬ right < left := by
    rw [← placeAt_precedes_iff rightWithin leftWithin, same]
    exact Place.not_precedes_self _
  omega

/-! ## Places and offsets -/

/-- A place identifies its offset. The two scans agree on it; it names a line of the text and a
column of that line, or the one behind its end, and the offset can be told from where the line
starts. Different offsets have different places, in the same order. -/
theorem placeAt_identifies {text : List Char} {offset : Nat} (within : offset ≤ text.length) :
    let place := placeAt text offset
    scannedPlace text offset = ((place.line : Int), (place.column : Int)) ∧
    (1 ≤ place.line ∧ place.line ≤ text.count '\n' + 1) ∧
    (∃ line, (lines text)[place.line - 1]? = some line ∧
      1 ≤ place.column ∧ place.column ≤ line.length + 1) ∧
    lineStart text place.line + place.column - 1 = offset ∧
    ∀ other ≤ text.length, (placeAt text other = place → other = offset) ∧
      ((placeAt text other).Precedes place ↔ other < offset) := by
  rcases exists_cut (text.take offset) with ⟨whole, piece, cut, counted⟩
  rcases exists_lines_eq_cons (text.drop offset) with ⟨first, others, behind⟩
  have split : lines text = whole ++ (piece ++ first) :: others := by
    rw [← cut.lines_append behind, List.take_append_drop]
  have length : offset = (whole.flatMap (· ++ ['\n'])).length + piece.length := by
    rw [← List.length_append, ← cut.split, List.length_take_of_le within]
  have numbered : (lines text).length = text.count '\n' + 1 := length_lines text
  have place : placeAt text offset = ⟨whole.length + 1, piece.length + 1⟩ := counted
  intro here
  refine ⟨scannedPlace_eq within, ?_⟩
  simp only [here, place]
  refine ⟨⟨by omega, ?_⟩, ⟨piece ++ first, ?_, by omega, ?_⟩, ?_, ?_⟩
  · rw [← numbered, split]
    simp
  · simp [split]
  · simp
  · rw [lineStart, split, Nat.add_sub_cancel, List.take_left, length]
    rfl
  · intro other otherWithin
    rw [← place]
    exact ⟨placeAt_inj otherWithin within, placeAt_precedes_iff otherWithin within⟩

theorem place_behind_last_lineFeed :
    let text := "ab\n\nc\n".toList
    placeAt text 6 = ⟨4, 1⟩ ∧ scannedPlace text 6 = (4, 1) ∧
      lines text = [['a', 'b'], [], ['c'], []] ∧ lineStart text 4 + 1 - 1 = 6 ∧
      ∀ other ≤ 6, (placeAt text other = ⟨4, 1⟩ → other = 6) ∧
        ((placeAt text other).Precedes ⟨4, 1⟩ ↔ other < 6) := by
  intro text
  have within : 6 ≤ text.length := by decide
  have place : placeAt text 6 = ⟨4, 1⟩ := by decide
  have identified := placeAt_identifies within
  rw [place] at identified
  rcases identified with ⟨scanned, -, -, atStart, ordered⟩
  exact ⟨place, scanned, by decide, atStart, ordered⟩

end ShadowLint.Text
