import Mathlib.Data.List.Perm.Basic

/-!
Lists whose entries are related, in their order or in some order (`Matched`), and what is
found in one of them if something is found in the other.
-/

namespace ShadowLint

open List (Forall₂)

variable {First Second : Type} {Related : First → Second → Prop}

theorem exists_forall₂ {first : List First} (each : ∀ one ∈ first, ∃ other, Related one other) :
    ∃ second, Forall₂ Related first second := by
  induction first with
  | nil => exact ⟨[], .nil⟩
  | cons one rest induction =>
    rcases List.forall_mem_cons.mp each with ⟨⟨other, related⟩, eachLater⟩
    rcases induction eachLater with ⟨others, eachRelated⟩
    exact ⟨other :: others, .cons related eachRelated⟩

theorem exists_mem_of_forall₂ {first : List First} {second : List Second}
    (each : Forall₂ Related first second) : ∀ one ∈ first, ∃ other ∈ second, Related one other := by
  induction each with
  | nil => exact nofun
  | @cons one other _ _ related _ induction =>
    refine List.forall_mem_cons.mpr ⟨⟨other, List.mem_cons_self, related⟩, ?_⟩
    intro later inside
    rcases induction later inside with ⟨partner, member, relatedToo⟩
    exact ⟨partner, List.mem_cons_of_mem _ member, relatedToo⟩

theorem filterMap_eq_of_forall₂ {Found : Type} {first : List First} {second : List Second}
    {find : First → Option Found} {findOther : Second → Option Found}
    (same : ∀ one other, Related one other → find one = findOther other)
    (each : Forall₂ Related first second) : first.filterMap find = second.filterMap findOther := by
  induction each with
  | nil => rfl
  | cons related _ induction =>
    rw [List.filterMap_cons, List.filterMap_cons, same _ _ related, induction]

theorem find?_of_forall₂ {first : List First} {second : List Second} {wanted : First → Bool}
    {wantedOther : Second → Bool}
    (same : ∀ one other, Related one other → wanted one = wantedOther other)
    (each : Forall₂ Related first second) :
    Option.Rel Related (first.find? wanted) (second.find? wantedOther) := by
  induction each with
  | nil => exact .none
  | cons related _ induction =>
    rw [List.find?_cons, List.find?_cons, same _ _ related]
    split
    · exact .some related
    · exact induction

theorem head?_of_forall₂ {first : List First} {second : List Second}
    (each : Forall₂ Related first second) : Option.Rel Related first.head? second.head? := by
  cases each with
  | nil => exact .none
  | cons related _ => exact .some related

theorem tail_of_forall₂ {first : List First} {second : List Second}
    (each : Forall₂ Related first second) : Forall₂ Related first.tail second.tail := by
  cases each with
  | nil => exact .nil
  | cons _ others => exact others

theorem exists_mem_iff_of_forall₂ {first : List First} {second : List Second}
    {Holds : First → Prop} {HoldsOther : Second → Prop}
    (same : ∀ one other, Related one other → (Holds one ↔ HoldsOther other))
    (each : Forall₂ Related first second) :
    (∃ one ∈ first, Holds one) ↔ ∃ other ∈ second, HoldsOther other := by
  induction each with
  | nil => simp
  | cons related _ induction =>
    simp only [List.exists_mem_cons_iff, same _ _ related, induction]

theorem exists_mem_congr {one : Option First} {other : Option Second}
    (related : Option.Rel Related one other) {Holds : First → Prop} {HoldsOther : Second → Prop}
    (same : ∀ first second, Related first second → (Holds first ↔ HoldsOther second)) :
    (∃ first ∈ one, Holds first) ↔ ∃ second ∈ other, HoldsOther second := by
  cases related with
  | none => simp
  | some related => simpa using same _ _ related

theorem rel_cases {one : Option First} {other : Option Second}
    (related : Option.Rel Related one other) :
    (one = none ∧ other = none) ∨
      ∃ first second, one = some first ∧ other = some second ∧ Related first second := by
  cases related with
  | none => exact .inl ⟨rfl, rfl⟩
  | some related => exact .inr ⟨_, _, rfl, rfl, related⟩

/-! ## Related in some order -/

/-- Each thing on one side has one on the other that it is related to, in some order. -/
def Matched (Related : First → Second → Prop) (first : List First) (second : List Second) :
    Prop :=
  ∃ arranged, Forall₂ Related first arranged ∧ arranged.Perm second

namespace Matched

variable {first more : List First} {second others : List Second}

theorem append (matched : Matched Related first second) (rest : Matched Related more others) :
    Matched Related (first ++ more) (second ++ others) := by
  rcases matched with ⟨arranged, each, permuted⟩
  rcases rest with ⟨arrangedRest, eachRest, permutedRest⟩
  exact ⟨arranged ++ arrangedRest, List.rel_append each eachRest, permuted.append permutedRest⟩

theorem imp {RelatedToo : First → Second → Prop}
    (each : ∀ one ∈ first, ∀ other, Related one other → RelatedToo one other)
    (matched : Matched Related first second) : Matched RelatedToo first second := by
  rcases matched with ⟨arranged, related, permuted⟩
  refine ⟨arranged, ?_, permuted⟩
  refine Forall₂.imp ?_ ((List.forall₂_and_left _ _).mpr ⟨each, related⟩)
  intro one other both
  exact both.1 other both.2

theorem flatMap {Part Whole : Type} {parts : List Part} {wholes : List Whole}
    {items : Part → List First} {itemsToo : Whole → List Second}
    (matched : Matched (fun part whole => Matched Related (items part) (itemsToo whole))
      parts wholes) :
    Matched Related (parts.flatMap items) (wholes.flatMap itemsToo) := by
  rcases matched with ⟨arranged, each, permuted⟩
  have inOrder : Matched Related (parts.flatMap items) (arranged.flatMap itemsToo) := by
    clear permuted
    induction each with
    | nil => exact ⟨[], .nil, .refl _⟩
    | cons related _ induction => exact related.append induction
  rcases inOrder with ⟨arrangedItems, eachItem, permutedItems⟩
  exact ⟨arrangedItems, eachItem, permutedItems.trans (permuted.flatMap_right itemsToo)⟩

theorem filterMap_perm {Found : Type} {find : First → Option Found}
    {findOther : Second → Option Found}
    (same : ∀ one other, Related one other → find one = findOther other)
    (matched : Matched Related first second) :
    (first.filterMap find).Perm (second.filterMap findOther) := by
  rcases matched with ⟨arranged, each, permuted⟩
  rw [filterMap_eq_of_forall₂ same each]
  exact permuted.filterMap findOther

theorem map_perm {Image : Type} {image : First → Image} {imageToo : Second → Image}
    (same : ∀ one other, Related one other → image one = imageToo other)
    (matched : Matched Related first second) : (first.map image).Perm (second.map imageToo) := by
  rw [← List.filterMap_eq_map, ← List.filterMap_eq_map]
  exact matched.filterMap_perm fun one other related => congrArg some (same one other related)

theorem exists_mem_iff {Holds : First → Prop} {HoldsOther : Second → Prop}
    (same : ∀ one other, Related one other → (Holds one ↔ HoldsOther other))
    (matched : Matched Related first second) :
    (∃ one ∈ first, Holds one) ↔ ∃ other ∈ second, HoldsOther other := by
  rcases matched with ⟨arranged, each, permuted⟩
  simp only [exists_mem_iff_of_forall₂ same each, permuted.mem_iff]

end Matched

end ShadowLint
