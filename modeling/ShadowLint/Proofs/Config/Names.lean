import Mathlib.Data.List.Forall2
import ShadowLint.Config.Conversion
import ShadowLint.Proofs.Success
import ShadowLint.Proofs.Text.Runs

/-!
The names that a value gives. They are told without the way in which they are read: a text
is cut at its commas, white space is taken off both ends of each entry, and entries that are
then empty are dropped. What is read are just these (`Conversion.toNames_eq_ok_iff`).
-/

namespace ShadowLint.Conversion

open List (Forall₂)

/-! ## Entries -/

/-- The entries in a value: the pieces of a text between its commas, the items of a list if
they are all texts, or the names of the members of an object. -/
inductive GivesEntries : Value → List String → Prop
  | text {text : String} {pieces : List (List Char)} (nonempty : pieces ≠ [])
      (apart : ∀ piece ∈ pieces, ',' ∉ piece) (whole : [','].intercalate pieces = text.toList) :
      GivesEntries (.text text) (pieces.map String.ofList)
  | list (texts : List String) : GivesEntries (.list (texts.map .text)) texts
  | object (members : List (String × Value)) :
      GivesEntries (.object members) (members.map Prod.fst)

theorem partsBetweenCommas_ne_nil (text : List Char) : partsBetweenCommas text ≠ [] := by
  cases text with
  | nil => exact List.cons_ne_nil _ _
  | cons char rest =>
    rw [partsBetweenCommas]
    split
    · exact List.cons_ne_nil _ _
    · split <;> exact List.cons_ne_nil _ _

theorem partsBetweenCommas_cons (char : Char) (rest : List Char) :
    partsBetweenCommas (char :: rest) =
      if char = ',' then [] :: partsBetweenCommas rest
      else (partsBetweenCommas rest).modifyHead (char :: ·) := by
  rw [partsBetweenCommas]
  cases split : partsBetweenCommas rest with
  | nil => exact absurd split (partsBetweenCommas_ne_nil rest)
  | cons part others => rfl

theorem partsBetweenCommas_eq (text : List Char) :
    partsBetweenCommas text = text.splitOn ',' := by
  induction text with
  | nil => rfl
  | cons char rest induction =>
    rw [partsBetweenCommas_cons, induction, List.splitOn_cons_eq_if_modifyHead]
    simp only [beq_iff_eq]

theorem textsOf_eq_ok_iff {items : List Value} {texts : List String} :
    textsOf items = .ok texts ↔ items = texts.map .text := by
  induction items generalizing texts with
  | nil => cases texts <;> simp [textsOf]
  | cons item rest induction =>
    constructor
    · intro read
      cases item with
      | text first =>
        rcases Success.of_map read with ⟨others, inOthers, rfl⟩
        rw [List.map_cons, ← induction.mp inOthers]
      | _ => cases read
    · intro split
      cases texts with
      | nil => cases split
      | cons first others =>
        rw [List.map_cons] at split
        rcases List.cons.inj split with ⟨rfl, later⟩
        rw [textsOf, induction.mpr later]
        rfl

theorem givesEntries_text_iff {text : String} {entries : List String} :
    GivesEntries (.text text) entries ↔
      entries = (partsBetweenCommas text.toList).map String.ofList := by
  rw [partsBetweenCommas_eq]
  constructor
  · intro gives
    cases gives with
    | text nonempty apart whole => rw [← whole, List.splitOn_intercalate ',' apart nonempty]
  · rintro rfl
    exact .text (List.splitOn_ne_nil ',' _) (fun _ => Text.not_mem_of_mem_splitOn)
      (List.intercalate_splitOn ',')

/-! ## Names -/

/-- The names among entries: what is left of the entries when white space at their ends is
taken off, without those of which nothing is left. -/
def AreNamesAmong (entries names : List String) : Prop :=
  ∃ trimmed : List String,
    Forall₂ (fun entry inner => Text.IsTrimmed entry.toList inner.toList) entries trimmed ∧
      names = trimmed.filter (· ≠ "")

/-- The names that a value gives, in their order and as often as they are given. -/
def GivesNames (value : Value) (names : List String) : Prop :=
  ∃ entries, GivesEntries value entries ∧ AreNamesAmong entries names

theorem areNamesAmong_iff {entries names : List String} :
    AreNamesAmong entries names ↔ names = namesAmong entries := by
  have trimmed_iff (trimmed : List String) :
      Forall₂ (fun entry inner => Text.IsTrimmed entry.toList inner.toList) entries trimmed ↔
        entries.map Text.trim = trimmed := by
    simp only [Text.isTrimmed_toList_iff]
    rw [← List.forall₂_map_left_iff, List.forall₂_eq_eq_eq]
  constructor
  · rintro ⟨trimmed, each, rfl⟩
    rw [← (trimmed_iff trimmed).mp each, namesAmong]
  · rintro rfl
    exact ⟨entries.map Text.trim, (trimmed_iff _).mpr rfl, rfl⟩

theorem toNames_eq_ok_iff {value : Value} {names : List String} :
    toNames value = .ok names ↔ GivesNames value names := by
  simp only [GivesNames, areNamesAmong_iff]
  cases value with
  | text text =>
    simp only [givesEntries_text_iff, exists_eq_left, toNames, Except.ok.injEq, eq_comm]
  | list items =>
    constructor
    · intro read
      rcases Success.of_map read with ⟨texts, among, rfl⟩
      rw [textsOf_eq_ok_iff.mp among]
      exact ⟨texts, .list texts, rfl⟩
    · rintro ⟨entries, gives, rfl⟩
      cases gives with
      | list texts =>
        rw [toNames, textsOf_eq_ok_iff.mpr rfl]
        rfl
  | object members =>
    constructor
    · intro read
      cases read
      exact ⟨_, .object members, rfl⟩
    · rintro ⟨entries, gives, rfl⟩
      cases gives with
      | object members => rfl
  | _ =>
    constructor
    · intro read
      cases read
    · rintro ⟨entries, gives, -⟩
      cases gives

theorem givesNames_text_iff {text : String} {names : List String} :
    GivesNames (.text text) names ↔
      names = namesAmong ((partsBetweenCommas text.toList).map String.ofList) := by
  rw [← toNames_eq_ok_iff, toNames, Except.ok.injEq, eq_comm]

theorem GivesNames.trim {value : Value} {names : List String} (gives : GivesNames value names) :
    ∀ name ∈ names, Text.trim name = name := by
  rcases gives with ⟨entries, -, among⟩
  rw [areNamesAmong_iff.mp among]
  intro name inside
  rcases List.mem_map.mp (List.mem_filter.mp inside).1 with ⟨entry, -, rfl⟩
  exact Text.trim_trim entry

end ShadowLint.Conversion
