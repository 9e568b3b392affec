import Mathlib.Logic.Function.Iterate
import ShadowLint.Proofs.Tree.Search

/-!
Searches with a list of pending trees, in any order. A turn looks at one of the pending
trees, whichever it is, and puts its children anywhere among the others. No turn changes
whether the pending trees hold the kind, and every turn leaves fewer nodes to be looked at;
so a search ends, with one answer only, and that is whether the kind stands at the node or
somewhere below it (`Tree.branchContains_in_any_order`).
-/

namespace ShadowLint

namespace Tree

theorem totalSize_perm {trees others : List Tree} (same : trees.Perm others) :
    totalSize trees = totalSize others := by
  induction same with
  | nil => rfl
  | cons tree _ induction => rw [totalSize_cons, totalSize_cons, induction]
  | swap tree other rest => simp only [totalSize_cons, Nat.add_left_comm]
  | trans _ _ first second => exact first.trans second

/-! ## Turns -/

/-- How far a search is: there are trees to be looked at, or it has its answer. -/
inductive Search where
  | pending (trees : List Tree)
  | answered (found : Bool)

/-- One turn of a search that may take any of the pending trees and put its children anywhere. -/
inductive Turn (kind : Kind) : Search → Search → Prop
  | found {tree : Tree} {trees : List Tree} : tree ∈ trees → tree.kind = kind →
      Turn kind (.pending trees) (.answered true)
  | opened {tree : Tree} {trees others next : List Tree} : trees.Perm (tree :: others) →
      tree.kind ≠ kind → next.Perm (tree.children ++ others) →
      Turn kind (.pending trees) (.pending next)
  | exhausted : Turn kind (.pending []) (.answered false)

inductive Turns (kind : Kind) : Nat → Search → Search → Prop
  | none {search : Search} : Turns kind 0 search search
  | more {turns : Nat} {search next last : Search} : Turn kind search next →
      Turns kind turns next last → Turns kind (turns + 1) search last

namespace Search

def takeLast (kind : Kind) : Search → Search
  | pending [] => answered false
  | pending (tree :: rest) =>
    if tree.kind = kind then answered true else pending (tree.children.reverse ++ rest)
  | answered found => answered found

def Finds (kind : Kind) : Search → Prop
  | pending trees => ∃ tree ∈ trees, tree.Holds kind
  | answered found => found = true

def remaining : Search → Nat
  | pending trees => totalSize trees + 1
  | answered _ => 0

end Search

theorem turn_takeLast (kind : Kind) (trees : List Tree) :
    Turn kind (.pending trees) (Search.takeLast kind (.pending trees)) := by
  cases trees with
  | nil => exact .exhausted
  | cons tree rest =>
    rw [Search.takeLast]
    split
    · rename_i equal
      exact .found List.mem_cons_self equal
    · rename_i different
      exact .opened (.refl _) different (tree.children.reverse_perm.append_right rest)

variable {kind : Kind} {search next : Search}

theorem Turn.finds_iff (turn : Turn kind search next) : search.Finds kind ↔ next.Finds kind := by
  cases turn with
  | @found tree trees member equal =>
    have holds : ∃ other ∈ trees, other.Holds kind := ⟨tree, member, .atRoot equal⟩
    exact iff_of_true holds rfl
  | @opened tree trees others next taken different put =>
    have here : tree.Holds kind ↔ ∃ child ∈ tree.children, child.Holds kind := by
      rw [holds_iff, or_iff_right different]
    simp only [Search.Finds, taken.mem_iff, put.mem_iff, List.mem_cons, List.mem_append,
      or_and_right, exists_or, exists_eq_left, here]
  | exhausted => simp [Search.Finds]

theorem Turn.remaining_lt (turn : Turn kind search next) :
    next.remaining < search.remaining := by
  cases turn with
  | found _ _ => exact Nat.succ_pos _
  | @opened tree trees others next taken _ put =>
    have taken := totalSize_perm taken
    have put := totalSize_perm put
    rw [totalSize_cons, size_eq] at taken
    rw [totalSize_append] at put
    simp only [Search.remaining]
    omega
  | exhausted => exact Nat.succ_pos _

theorem exists_turn_or_answered (kind : Kind) (search : Search) :
    (∃ next, Turn kind search next) ∨ ∃ found, search = .answered found := by
  cases search with
  | pending trees => exact .inl ⟨_, turn_takeLast kind trees⟩
  | answered found => exact .inr ⟨found, rfl⟩

/-! ## Whole searches -/

theorem Turns.finds_iff {turns : Nat} (run : Turns kind turns search next) :
    search.Finds kind ↔ next.Finds kind := by
  induction run with
  | none => exact Iff.rfl
  | more turn _ induction => exact turn.finds_iff.trans induction

theorem Turns.add_remaining_le {turns : Nat} (run : Turns kind turns search next) :
    turns + next.remaining ≤ search.remaining := by
  induction run with
  | none => omega
  | more turn _ induction =>
    have less := turn.remaining_lt
    omega

theorem takeLast_answers (kind : Kind) (pending : List Tree) :
    ∃ turns ≤ totalSize pending + 1,
      (Search.takeLast kind)^[turns] (.pending pending) = .answered (anyHolds kind pending) := by
  induction pending using anyHolds.induct kind with
  | case1 => exact ⟨1, by simp, by simp [Search.takeLast, anyHolds]⟩
  | case2 tree pending equal =>
    exact ⟨1, by omega, by simp [Search.takeLast, anyHolds, equal]⟩
  | case3 tree pending different induction =>
    rcases induction with ⟨turns, few, answers⟩
    refine ⟨turns + 1, ?_, ?_⟩
    · rw [totalSize_append, totalSize_reverse] at few
      rw [totalSize_cons, size_eq]
      omega
    · rw [Function.iterate_succ_apply, Search.takeLast, if_neg different, answers, anyHolds,
        if_neg different]

/-- The search below a node ends and answers whether the node itself or one below it, at any
depth, is of the kind. It always takes the tree that was put last, but the order does not
matter: no search, whichever pending tree it takes at each turn and wherever it puts the
children, takes more turns than one for each node and a last one, and when it cannot go on,
it has given the same answer. -/
theorem branchContains_in_any_order (tree : Tree) (kind : Kind) :
    (tree.branchContains kind = true ↔ ∃ node, tree.Has node ∧ node.kind = kind) ∧
    (∃ turns ≤ tree.size + 1, (Search.takeLast kind)^[turns] (.pending [tree]) =
      .answered (tree.branchContains kind)) ∧
    (∀ trees, Turn kind (.pending trees) (Search.takeLast kind (.pending trees))) ∧
    ∀ turns last, Turns kind turns (.pending [tree]) last →
      turns ≤ tree.size + 1 ∧
        ((∃ next, Turn kind last next) ∨ last = .answered (tree.branchContains kind)) := by
  have bound : totalSize [tree] = tree.size := by simp
  refine ⟨branchContains_iff.trans holds_iff_has, ?_, turn_takeLast kind, ?_⟩
  · have answers := takeLast_answers kind [tree]
    rwa [bound] at answers
  · intro turns last run
    have few := run.add_remaining_le
    rw [Search.remaining, bound] at few
    refine ⟨by omega, (exists_turn_or_answered kind last).imp_right ?_⟩
    rintro ⟨found, rfl⟩
    have same : tree.Holds kind ↔ found = true := by simpa [Search.Finds] using run.finds_iff
    rw [← branchContains_iff, ← Bool.eq_iff_iff] at same
    rw [same]

/-- The modifier that counts stands two levels down, before another one. -/
def nestedStatic : Tree :=
  .node (.make .modifiers "" 1 0) [
    .node (.make .expr "" 1 0) [.node (.make .literalStatic "" 1 1) []],
    .node (.make .literalPublic "" 1 8) []]

/-- Here the first child is taken first, and three turns are enough; taking the last child first
needs four. -/
theorem nestedStatic_found_in_three_turns :
    Turns .literalStatic 3 (.pending [nestedStatic]) (.answered true) ∧ 3 ≤ nestedStatic.size + 1 ∧
      ((∃ next, Turn .literalStatic (.answered true) next) ∨
        .answered true = Search.answered (nestedStatic.branchContains .literalStatic)) := by
  have run : Turns .literalStatic 3 (.pending [nestedStatic]) (.answered true) :=
    .more (.opened (.refl _) (by decide) (.refl _))
      (.more (.opened (.refl _) (by decide) (.refl _))
        (.more (.found List.mem_cons_self rfl) .none))
  exact ⟨run, (branchContains_in_any_order nestedStatic .literalStatic).2.2.2 3 _ run⟩

end Tree

end ShadowLint
