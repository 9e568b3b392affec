import Mathlib.Data.List.Nodup
import ShadowLint.File.Folder
import ShadowLint.Proofs.Text.Runs
import ShadowLint.Value

/-!
Reading from a folder. A path is followed by its steps, so bringing it into its normal form
changes nothing (`pathSteps_normalPath`). Where nothing is inside of a file, a path that never
goes up is read if and only if its steps are the name of a file, and then gives the bytes of
that file (`Folder.read_eq_ok_iff`); what cannot be read is reported under the path that was
asked for (`Folder.path_of_read`).
-/

namespace ShadowLint

/-! ## Steps of a path -/

theorem pathParts_eq (path : List Char) : pathParts path = path.splitOn '/' := by
  induction path with
  | nil => rfl
  | cons char rest induction =>
    rw [pathParts, induction, List.splitOn_cons_eq_if_modifyHead]
    cases parts : rest.splitOn '/' with
    | nil => exact absurd parts (List.splitOn_ne_nil '/' rest)
    | cons part others => simp only [beq_iff_eq, List.modifyHead_cons]

theorem pathSteps_append_slash (left right : List Char) :
    pathSteps (left ++ '/' :: right) = pathSteps left ++ pathSteps right := by
  simp only [pathSteps, pathParts_eq, List.splitOn_append_cons_self, List.filter_append]

theorem pathSteps_intercalate {parts : List (List Char)} (apart : ∀ part ∈ parts, '/' ∉ part) :
    pathSteps (['/'].intercalate parts) =
      parts.filter fun part => part ≠ [] && part ≠ ['.'] := by
  cases parts with
  | nil => rfl
  | cons part others =>
    rw [pathSteps, pathParts_eq, List.splitOn_intercalate '/' apart (List.cons_ne_nil _ _)]

theorem pathSteps_pathRoot_append (path rest : List Char) :
    pathSteps (pathRoot path ++ rest) = pathSteps rest := by
  unfold pathRoot
  split
  · exact pathSteps_append_slash [] rest
  · exact (pathSteps_append_slash [] ('/' :: rest)).trans (pathSteps_append_slash [] rest)
  · exact pathSteps_append_slash [] rest
  · rfl

theorem pathSteps_normalPath (path : String) :
    pathSteps (normalPath path).toList = pathSteps path.toList := by
  have apart : ∀ step ∈ pathSteps path.toList, '/' ∉ step := by
    intro step isStep
    have isPart := List.mem_of_mem_filter isStep
    rw [pathParts_eq] at isPart
    exact Text.not_mem_of_mem_splitOn isPart
  have same : pathSteps (pathRoot path.toList ++ ['/'].intercalate (pathSteps path.toList)) =
      pathSteps path.toList := by
    rw [pathSteps_pathRoot_append, pathSteps_intercalate apart, pathSteps, List.filter_filter]
    simp only [Bool.and_self]
  unfold normalPath
  dsimp only
  split
  · rename_i isEmpty
    rw [← same, List.isEmpty_iff.mp isEmpty]
    rfl
  · rw [String.toList_ofList, same]

/-! ## Following steps -/

namespace Folder

variable {folder : Folder} {path : String} {place : List (List Char)} {steps : List (List Char)}

def stepFrom (place : List (List Char)) (step : List Char) : List (List Char) :=
  if step = ['.', '.'] then place.dropLast else place ++ [step]

theorem contentAt?_of_follow {content : FileContent}
    (reached : folder.follow path place steps = .ok content) :
    folder.contentAt? (steps.foldl stepFrom place) = some content := by
  induction steps generalizing place with
  | nil =>
    rw [follow] at reached
    split at reached
    · rename_i found
      cases reached
      exact found
    · cases reached
  | cons step rest induction =>
    rw [follow] at reached
    split at reached
    · cases reached
    · cases reached
    · rw [List.foldl_cons, stepFrom]
      split at reached
      · rename_i isUp
        rw [if_pos isUp]
        exact induction reached
      · rename_i isNotUp
        rw [if_neg isNotUp]
        exact induction reached

theorem path_of_follow {fault : FileFault}
    (failed : folder.follow path place steps = .error fault) : fault.path = path := by
  induction steps generalizing place with
  | nil =>
    rw [follow] at failed
    split at failed
    · cases failed
    · cases failed
      rfl
  | cons step rest induction =>
    rw [follow] at failed
    split at failed
    · cases failed
      rfl
    · cases failed
      rfl
    · split at failed
      · exact induction failed
      · exact induction failed

theorem foldl_stepFrom (direct : ['.', '.'] ∉ steps) :
    steps.foldl stepFrom place = place ++ steps := by
  induction steps generalizing place with
  | nil => exact (List.append_nil place).symm
  | cons step rest induction =>
    have notUp : step ≠ ['.', '.'] := (List.ne_of_not_mem_cons direct).symm
    rw [List.foldl_cons, stepFrom, if_neg notUp,
      induction (List.not_mem_of_not_mem_cons direct), List.append_assoc]
    rfl

theorem follow_of_contentAt? {content : FileContent} (direct : ['.', '.'] ∉ steps)
    (through : ∀ before after, before ++ after = steps → after ≠ [] →
      folder.contentAt? (place ++ before) = some .directory)
    (found : folder.contentAt? (place ++ steps) = some content) :
    folder.follow path place steps = .ok content := by
  induction steps generalizing place with
  | nil =>
    rw [List.append_nil] at found
    rw [follow, found]
  | cons step rest induction =>
    have notUp : step ≠ ['.', '.'] := (List.ne_of_not_mem_cons direct).symm
    have here := through [] (step :: rest) rfl nofun
    rw [List.append_nil] at here
    rw [follow, here]
    dsimp only
    rw [if_neg notUp]
    refine induction (List.not_mem_of_not_mem_cons direct) (fun before after split further => ?_) ?_
    · rw [List.append_assoc]
      exact through (step :: before) after (congrArg (step :: ·) split) further
    · rw [List.append_assoc]
      exact found

/-! ## Reading -/

/-- Every name is given once, and nothing is inside of a file. -/
structure IsKept (folder : Folder) : Prop where
  distinct : (folder.items.map Prod.fst).Nodup
  leaves : ∀ {place bytes}, (place, .bytes bytes) ∈ folder.items →
    ∀ item ∈ folder.items, place <+: item.1 → item.1 = place

theorem contentAt?_eq_bytes_iff (kept : folder.IsKept) {bytes : List UInt8} :
    folder.contentAt? place = some (.bytes bytes) ↔ (place, .bytes bytes) ∈ folder.items := by
  rw [← lookup_eq_some_iff_mem kept.distinct]
  unfold contentAt?
  split
  · rename_i content found
    rw [found]
  · rename_i none
    simp [none]

theorem contentAt?_above (kept : folder.IsKept) {item : List (List Char) × FileContent}
    (member : item ∈ folder.items) {before after : List (List Char)}
    (split : before ++ after = item.1) (further : after ≠ []) :
    folder.contentAt? before = some .directory := by
  have isAbove : before <+: item.1 := ⟨after, split⟩
  rw [contentAt?]
  cases found : folder.items.lookup before with
  | none =>
    have some : folder.items.any (fun other => before.isPrefixOf other.1) = true :=
      List.any_eq_true.mpr ⟨item, member, List.isPrefixOf_iff_prefix.mpr isAbove⟩
    simp only [some, Bool.or_true, if_true]
  | some content =>
    cases content with
    | directory => rfl
    | bytes bytes =>
      have same := kept.leaves (mem_of_lookup found) item member isAbove
      exact absurd (List.append_right_eq_self.mp (split.trans same)) further

theorem path_of_read {fault : FileFault} (failed : folder.files.read path = .error fault) :
    fault.path = path := by
  unfold files at failed
  dsimp only at failed
  split at failed
  · cases failed
    rfl
  · split at failed
    · rename_i followed
      cases failed
      exact path_of_follow followed
    · cases failed
      rfl
    · cases failed

/-- Where nothing is inside of a file, a path that never goes up is read if and only if it is
the path of a file with steps that are not too long, and then what is read is that file. -/
theorem read_eq_ok_iff (kept : folder.IsKept) (direct : ['.', '.'] ∉ pathSteps path.toList)
    (bytes : List UInt8) :
    folder.files.read path = .ok bytes ↔
      (∀ step ∈ pathSteps path.toList, (String.ofList step).utf8ByteSize ≤ nameLimit) ∧
        (pathSteps path.toList, .bytes bytes) ∈ folder.items := by
  have fits_iff : (∀ step ∈ pathSteps path.toList,
      (String.ofList step).utf8ByteSize ≤ nameLimit) ↔
      ¬ (pathSteps path.toList).any (fun step =>
        nameLimit < (String.ofList step).utf8ByteSize) = true := by
    simp
  rw [fits_iff, ← contentAt?_eq_bytes_iff kept]
  unfold files
  dsimp only
  split
  · rename_i tooLong
    exact ⟨nofun, fun fits => absurd tooLong fits.1⟩
  · rename_i fits
    have follows : folder.follow path [] (pathSteps path.toList) = .ok (.bytes bytes) ↔
        folder.contentAt? (pathSteps path.toList) = some (.bytes bytes) := by
      constructor
      · intro reached
        have found := contentAt?_of_follow reached
        rwa [foldl_stepFrom direct, List.nil_append] at found
      · intro found
        have member := (contentAt?_eq_bytes_iff kept).mp found
        exact follow_of_contentAt? direct
          (fun before after split further => contentAt?_above kept member split further) found
    rw [← follows]
    cases folder.follow path [] (pathSteps path.toList) with
    | error fault => simp [fits]
    | ok content => cases content <;> simp [fits]

end Folder

end ShadowLint
