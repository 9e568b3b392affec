import Mathlib.Data.List.Induction
import ShadowLint.Proofs.Tree.Links

/-!
Nodes made and adopted in any order. As long as a node that is adopted exists, was not adopted
before and is neither its new parent nor above it, the arena stays linked, whether a branch is
grown before or after it is attached, and the children of every node are the nodes that it
adopted, in the order in which it did (`Arena.Orderly.isLinked`, `Arena.Orderly.children_eq`).
-/

namespace ShadowLint.Arena

inductive Deed where
  | make (label : Label)
  | adopt (parent child : Nat)
  deriving DecidableEq, Repr

def enact (arena : Arena) : Deed → Arena
  | .make label => (arena.make label none).1
  | .adopt parent child => arena.adopt parent child

def grown (deeds : List Deed) : Arena := deeds.foldl enact empty

/-- The deed may be done next: a node that is adopted was not adopted before, and it is not its
new parent, nor is that one below it. -/
inductive Allows (done : List Deed) : Deed → Prop
  | make (label : Label) : Allows done (.make label)
  | adopt {parent child : Nat} : parent < (grown done).size → child < (grown done).size →
      (∀ other, .adopt other child ∉ done) → ¬ (grown done).IsBelow parent child →
      Allows done (.adopt parent child)

inductive Orderly : List Deed → Prop
  | nil : Orderly []
  | concat {done : List Deed} {deed : Deed} : Orderly done → Allows done deed →
      Orderly (done ++ [deed])

def Deed.adopted? (parent : Nat) : Deed → Option Nat
  | make _ => none
  | adopt other child => if other = parent then some child else none

def adoptedBy (parent : Nat) (deeds : List Deed) : List Nat :=
  deeds.filterMap (Deed.adopted? parent)

theorem orderly_concat_iff {done : List Deed} {deed : Deed} :
    Orderly (done ++ [deed]) ↔ Orderly done ∧ Allows done deed := by
  refine ⟨fun orderly => ?_, fun both => both.1.concat both.2⟩
  generalize whole : done ++ [deed] = deeds at orderly
  cases orderly with
  | nil => simp at whole
  | concat orderly allowed =>
    rcases List.append_inj' whole rfl with ⟨rfl, last⟩
    cases last
    exact ⟨orderly, allowed⟩

theorem grown_concat (done : List Deed) (deed : Deed) :
    grown (done ++ [deed]) = (grown done).enact deed := by
  rw [grown, List.foldl_append]
  rfl

theorem adoptedBy_concat (parent : Nat) (done : List Deed) (deed : Deed) :
    adoptedBy parent (done ++ [deed]) = adoptedBy parent done ++ (deed.adopted? parent).toList := by
  rw [adoptedBy, List.filterMap_append, ← adoptedBy]
  cases adopted : deed.adopted? parent with
  | none =>
    rw [List.filterMap_cons_none adopted]
    rfl
  | some child =>
    rw [List.filterMap_cons_some adopted]
    rfl

theorem mem_adoptedBy {parent child : Nat} {deeds : List Deed} :
    child ∈ adoptedBy parent deeds ↔ .adopt parent child ∈ deeds := by
  rw [adoptedBy, List.mem_filterMap]
  constructor
  · rintro ⟨deed, member, adopted⟩
    cases deed with
    | make label => cases adopted
    | adopt other number =>
      rw [Deed.adopted?] at adopted
      split at adopted
      · rename_i same
        cases same
        cases adopted
        exact member
      · cases adopted
  · intro member
    exact ⟨_, member, if_pos rfl⟩

/-! ## What an orderly sequence comes to -/

namespace Orderly

variable {deeds : List Deed}

theorem isLinked_and_children (orderly : Orderly deeds) :
    (grown deeds).IsLinked ∧ ∀ parent, (grown deeds).children parent = adoptedBy parent deeds := by
  induction orderly with
  | nil => exact ⟨isLinked_empty, fun parent => children_eq_nil_of_size_le (Nat.zero_le _)⟩
  | @concat done deed _ allowed induction =>
    rcases induction with ⟨linked, listed⟩
    rw [grown_concat]
    cases allowed with
    | make label =>
      refine ⟨linked.make label, fun parent => ?_⟩
      rw [enact, children_make, adoptedBy_concat, listed]
      exact (List.append_nil _).symm
    | @adopt parent child parentIsNode isNode fresh notBelow =>
      have isRoot : (grown done).parent? child = none := by
        rw [Option.eq_none_iff_forall_ne_some]
        intro other hasParent
        rw [← linked.mem_children_iff, listed, mem_adoptedBy] at hasParent
        exact fresh other hasParent
      refine ⟨linked.adopt isNode isRoot notBelow parentIsNode, fun number => ?_⟩
      rw [enact, children_adopt number child parentIsNode, adoptedBy_concat, listed, Deed.adopted?]
      by_cases isParent : number = parent
      · simp [isParent]
      · simp [isParent, Ne.symm isParent]

theorem isLinked (orderly : Orderly deeds) : (grown deeds).IsLinked :=
  orderly.isLinked_and_children.1

theorem children_eq (orderly : Orderly deeds) (parent : Nat) :
    (grown deeds).children parent = adoptedBy parent deeds :=
  orderly.isLinked_and_children.2 parent

theorem parent?_eq_some_iff (orderly : Orderly deeds) {parent child : Nat} :
    (grown deeds).parent? child = some parent ↔ .adopt parent child ∈ deeds := by
  rw [← orderly.isLinked.mem_children_iff, orderly.children_eq, mem_adoptedBy]

theorem parent?_eq_none_iff (orderly : Orderly deeds) {child : Nat} :
    (grown deeds).parent? child = none ↔ ∀ parent, .adopt parent child ∉ deeds := by
  rw [Option.eq_none_iff_forall_ne_some]
  simp only [ne_eq, orderly.parent?_eq_some_iff]

end Orderly

/-! ## Checking a sequence -/

def allows (arena : Arena) : Deed → Bool
  | .make _ => true
  | .adopt parent child =>
    parent < arena.size && child < arena.size && (arena.parent? child).isNone &&
      !(parent :: arena.ancestors parent).contains child

def allowsAll (arena : Arena) : List Deed → Bool
  | [] => true
  | deed :: rest => arena.allows deed && (arena.enact deed).allowsAll rest

namespace Orderly

variable {done rest : List Deed}

/-- The arena knows what may be done next: a node was adopted if it has a parent, and what is
above its new parent are the ancestors of that one. -/
theorem allows_iff (orderly : Orderly done) {deed : Deed} :
    (grown done).allows deed = true ↔ Allows done deed := by
  cases deed with
  | make label => exact ⟨fun _ => .make label, fun _ => rfl⟩
  | adopt parent child =>
    simp only [allows, Bool.and_eq_true, decide_eq_true_eq, Option.isNone_iff_eq_none,
      Bool.not_eq_true', List.contains_eq_mem, decide_eq_false_iff_not, orderly.parent?_eq_none_iff,
      orderly.isLinked.mem_ancestors_iff]
    constructor
    · rintro ⟨⟨⟨parentIsNode, isNode⟩, fresh⟩, notBelow⟩
      exact .adopt parentIsNode isNode fresh notBelow
    · intro allowed
      cases allowed with
      | adopt parentIsNode isNode fresh notBelow =>
        exact ⟨⟨⟨parentIsNode, isNode⟩, fresh⟩, notBelow⟩

theorem of_append (orderly : Orderly (done ++ rest)) : Orderly done := by
  induction rest using List.reverseRecOn with
  | nil => rwa [List.append_nil] at orderly
  | append_singleton rest deed induction =>
    rw [← List.append_assoc] at orderly
    exact induction (orderly_concat_iff.mp orderly).1

theorem append_iff (orderly : Orderly done) :
    Orderly (done ++ rest) ↔ (grown done).allowsAll rest = true := by
  induction rest generalizing done with
  | nil =>
    rw [List.append_nil]
    exact ⟨fun _ => rfl, fun _ => orderly⟩
  | cons deed rest induction =>
    have split : done ++ deed :: rest = (done ++ [deed]) ++ rest := by simp
    rw [split, allowsAll, Bool.and_eq_true, orderly.allows_iff, ← grown_concat]
    constructor
    · intro all
      have next := all.of_append
      exact ⟨(orderly_concat_iff.mp next).2, (induction next).mp all⟩
    · rintro ⟨allowed, later⟩
      exact (induction (orderly.concat allowed)).mpr later

end Orderly

instance (deeds : List Deed) : Decidable (Orderly deeds) :=
  decidable_of_iff' (empty.allowsAll deeds = true) (Orderly.append_iff .nil)

/-- A branch may be attached before it is grown on, and no node goes below itself. -/
example :
    Orderly [.make default, .make default, .adopt 0 1, .make default, .adopt 1 2] ∧
      ¬ Orderly [.make default, .make default, .adopt 0 1, .adopt 1 0] := by
  decide

/-! ## Arenas that come from orderly sequences -/

def IsGrown (arena : Arena) : Prop := ∃ deeds, Orderly deeds ∧ grown deeds = arena

namespace IsGrown

variable {arena : Arena}

theorem isLinked (isGrown : arena.IsGrown) : arena.IsLinked := by
  rcases isGrown with ⟨deeds, orderly, rfl⟩
  exact orderly.isLinked

theorem empty : empty.IsGrown := ⟨[], .nil, rfl⟩

theorem make (isGrown : arena.IsGrown) (label : Label) : (arena.make label none).1.IsGrown := by
  rcases isGrown with ⟨deeds, orderly, rfl⟩
  exact ⟨_, orderly.concat (.make label), grown_concat deeds _⟩

theorem adopt (isGrown : arena.IsGrown) {parent child : Nat} (parentIsNode : parent < arena.size)
    (isNode : child < arena.size) (isRoot : arena.parent? child = none)
    (notBelow : ¬ arena.IsBelow parent child) : (arena.adopt parent child).IsGrown := by
  rcases isGrown with ⟨deeds, orderly, rfl⟩
  have fresh := orderly.parent?_eq_none_iff.mp isRoot
  exact ⟨_, orderly.concat (.adopt parentIsNode isNode fresh notBelow), grown_concat deeds _⟩

end IsGrown

end ShadowLint.Arena
