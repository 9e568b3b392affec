import Mathlib.Data.List.TakeWhile
import ShadowLint.Text.Blank

/-!
Runs of characters. White space at the ends of a text is a run at its start and one at its
end, and trimming leaves what stands between them (`Text.isTrimmed_iff`).
-/

namespace ShadowLint.Text

section runs

variable {holds : Char → Bool} {run rest : List Char}

theorem takeWhile_run (inside : ∀ char ∈ run, holds char = true)
    (ends : ∀ char ∈ rest.head?, holds char = false) :
    (run ++ rest).takeWhile holds = run := by
  rw [List.takeWhile_append_of_pos inside]
  cases rest with
  | nil => simp
  | cons char others => simp [ends char rfl]

theorem dropWhile_run (inside : ∀ char ∈ run, holds char = true)
    (ends : ∀ char ∈ rest.head?, holds char = false) :
    (run ++ rest).dropWhile holds = rest := by
  rw [List.dropWhile_append_of_pos inside]
  cases rest with
  | nil => rfl
  | cons char others => simp [ends char rfl]

theorem head_dropWhile (holds : Char → Bool) (input : List Char) :
    ∀ char ∈ (input.dropWhile holds).head?, holds char = false := by
  intro char first
  have found := List.head?_dropWhile_not holds input
  rw [first] at found
  simpa using found

end runs

theorem not_mem_of_mem_splitOn {mark : Char} {text piece : List Char}
    (isPiece : piece ∈ text.splitOn mark) : mark ∉ piece := by
  induction text generalizing piece with
  | nil => simp_all
  | cons char rest induction =>
    rw [List.splitOn_cons_eq_if_modifyHead] at isPiece
    split at isPiece
    · rcases List.mem_cons.mp isPiece with rfl | inRest
      · exact List.not_mem_nil
      · exact induction inRest
    · rename_i different
      cases split : rest.splitOn mark with
      | nil => exact absurd split (List.splitOn_ne_nil mark rest)
      | cons first others =>
        rw [split, List.modifyHead_cons] at isPiece
        rw [split] at induction
        rcases List.mem_cons.mp isPiece with rfl | inRest
        · have marked : mark ≠ char := fun same => different (beq_iff_eq.mpr same.symm)
          exact List.not_mem_cons_of_ne_of_not_mem marked (induction List.mem_cons_self)
        · exact induction (List.mem_cons_of_mem _ inRest)

/-! ## White space at the ends -/

/-- What is left of a text when the white space at both its ends is taken off. -/
structure IsTrimmed (chars inner : List Char) : Prop where
  around : ∃ front back, chars = front ++ inner ++ back ∧
    (∀ char ∈ front, isBlank char = true) ∧ ∀ char ∈ back, isBlank char = true
  head : ∀ char ∈ inner.head?, isBlank char = false
  last : ∀ char ∈ inner.getLast?, isBlank char = false

variable {chars inner : List Char}

theorem trimBlanks_of_isTrimmed (trimmed : IsTrimmed chars inner) : trimBlanks chars = inner := by
  rcases trimmed with ⟨⟨front, back, rfl, blankFront, blankBack⟩, head, last⟩
  have behind : (front ++ inner ++ back).dropWhile isBlank = (inner ++ back).dropWhile isBlank := by
    rw [List.append_assoc, List.dropWhile_append_of_pos blankFront]
  rw [trimBlanks, behind]
  cases inner with
  | nil =>
    have nothing : back.dropWhile isBlank = [] := List.dropWhile_eq_nil_iff.mpr blankBack
    rw [List.nil_append, nothing]
    rfl
  | cons first rest =>
    have kept : (first :: rest ++ back).dropWhile isBlank = first :: rest ++ back :=
      List.dropWhile_cons_of_neg (by simp [head first rfl])
    have blankReversed : ∀ char ∈ back.reverse, isBlank char = true := by
      intro char inside
      exact blankBack char (List.mem_reverse.mp inside)
    have lastReversed : ∀ char ∈ (first :: rest).reverse.head?, isBlank char = false := by
      rw [List.head?_reverse]
      exact last
    rw [kept, List.reverse_append, dropWhile_run blankReversed lastReversed, List.reverse_reverse]

theorem isTrimmed_trimBlanks (chars : List Char) : IsTrimmed chars (trimBlanks chars) := by
  let rest := chars.dropWhile isBlank
  have split : rest = trimBlanks chars ++ (rest.reverse.takeWhile isBlank).reverse := by
    rw [trimBlanks, ← List.reverse_append, List.takeWhile_append_dropWhile, List.reverse_reverse]
  refine ⟨⟨chars.takeWhile isBlank, (rest.reverse.takeWhile isBlank).reverse, ?_, ?_, ?_⟩, ?_, ?_⟩
  · rw [List.append_assoc, ← split, List.takeWhile_append_dropWhile]
  · intro char inside
    exact List.mem_takeWhile_imp inside
  · intro char inside
    exact List.mem_takeWhile_imp (List.mem_reverse.mp inside)
  · intro char isHead
    have isHeadOfRest : char ∈ rest.head? := by
      rw [split, List.head?_append, Option.mem_def.mp isHead]
      rfl
    exact head_dropWhile isBlank chars char isHeadOfRest
  · intro char isLast
    rw [trimBlanks, List.getLast?_reverse] at isLast
    exact head_dropWhile isBlank rest.reverse char isLast

theorem isTrimmed_iff : IsTrimmed chars inner ↔ inner = trimBlanks chars := by
  constructor
  · intro trimmed
    exact (trimBlanks_of_isTrimmed trimmed).symm
  · rintro rfl
    exact isTrimmed_trimBlanks chars

theorem isTrimmed_toList_iff {text inner : String} :
    IsTrimmed text.toList inner.toList ↔ trim text = inner := by
  rw [isTrimmed_iff, trim, eq_comm, ← String.toList_inj, String.toList_ofList]

theorem trim_trim (text : String) : trim (trim text) = trim text := by
  have trimmed := isTrimmed_trimBlanks text.toList
  have again : IsTrimmed (trimBlanks text.toList) (trimBlanks text.toList) :=
    ⟨⟨[], [], by simp, nofun, nofun⟩, trimmed.head, trimmed.last⟩
  rw [trim, trim, String.toList_ofList, trimBlanks_of_isTrimmed again]

end ShadowLint.Text
