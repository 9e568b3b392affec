import Mathlib.Data.List.Induction
import ShadowLint.Scope.Handle

/-!
A plain list of scopes, as a specification of stacks whose frames are held on to. A scope
is known by its name and has the names that were added to it, in their order; scopes that
are not in the list do not exist. What stands between an enter and the leave that it is
matched by changes the scopes outside by what is added to them only
(`PlainScopes.scopes_of_balanced`).
-/

namespace ShadowLint

inductive ScopeOp where
  | reset
  | enter (isStatic : Bool)
  | leave
  | add (frame : FrameName) (isStatic : Bool) (name : String)
  deriving DecidableEq, Repr

namespace ScopeOp

/-- What the operations add to a frame: the names, each with whether it is that of a static
field. -/
def addedTo (frame : FrameName) (ops : List ScopeOp) : List (Bool × String) :=
  ops.filterMap fun
    | add other isStatic name => if other = frame then some (isStatic, name) else none
    | _ => none

theorem mem_addedTo {frame : FrameName} {ops : List ScopeOp} {isStatic : Bool} {name : String} :
    (isStatic, name) ∈ addedTo frame ops ↔ add frame isStatic name ∈ ops := by
  rw [addedTo, List.mem_filterMap]
  constructor
  · intro found
    rcases found with ⟨op, inside, isAdded⟩
    cases op with
    | add other ofStatic added =>
      dsimp only at isAdded
      split at isAdded
      · rename_i same
        cases isAdded
        exact same ▸ inside
      · cases isAdded
    | _ => cases isAdded
  · intro inside
    exact ⟨_, inside, if_pos rfl⟩

theorem addedTo_append (frame : FrameName) (first second : List ScopeOp) :
    addedTo frame (first ++ second) = addedTo frame first ++ addedTo frame second :=
  List.filterMap_append

theorem addedTo_of_ne {frame other : FrameName} (different : other ≠ frame) (isStatic : Bool)
    (name : String) : addedTo frame [.add other isStatic name] = [] := by
  simp [addedTo, different]

/-- How many scopes are entered and not left since the last reset. -/
def openEnters (ops : List ScopeOp) : Nat :=
  ops.foldl (fun entered op =>
    match op with
    | reset => 0
    | enter _ => entered + 1
    | leave => entered - 1
    | add _ _ _ => entered) 0

theorem openEnters_append_singleton (ops : List ScopeOp) (op : ScopeOp) :
    openEnters (ops ++ [op]) =
      match op with
      | reset => 0
      | enter _ => openEnters ops + 1
      | leave => openEnters ops - 1
      | add _ _ _ => openEnters ops := by
  rw [openEnters, List.foldl_append]
  rfl

/-- Every scope that is entered is left again, and no other is left. -/
inductive Balanced : List ScopeOp → Prop
  | nil : Balanced []
  | add {frame : FrameName} {isStatic : Bool} {name : String} {rest : List ScopeOp}
      (later : Balanced rest) : Balanced (.add frame isStatic name :: rest)
  | nest {isStatic : Bool} {inside rest : List ScopeOp} (inner : Balanced inside)
      (later : Balanced rest) : Balanced (.enter isStatic :: (inside ++ .leave :: rest))

theorem Balanced.append {first second : List ScopeOp} (left : Balanced first)
    (right : Balanced second) : Balanced (first ++ second) := by
  induction left with
  | nil => exact right
  | add _ induction => exact .add induction
  | nest inner _ _ induction =>
    rw [List.cons_append, List.append_assoc, List.cons_append]
    exact .nest inner induction

/-- If scopes are open, the innermost was entered by one of the operations, and what was
done since is balanced. -/
theorem exists_matching_enter {ops : List ScopeOp} {depth : Nat}
    (opened : openEnters ops = depth + 1) :
    ∃ before isStatic inside, ops = before ++ .enter isStatic :: inside ∧ Balanced inside ∧
      openEnters before = depth := by
  induction measured : ops.length using Nat.strongRecOn generalizing ops depth with
  | ind size induction =>
    rcases List.eq_nil_or_concat ops with rfl | ⟨rest, op, isLast⟩
    · cases opened
    · rw [List.concat_eq_append] at isLast
      subst isLast
      rw [List.length_append, List.length_singleton] at measured
      rw [openEnters_append_singleton] at opened
      cases op with
      | reset => cases opened
      | enter isStatic =>
        exact ⟨rest, isStatic, [], rfl, .nil, Nat.succ.inj opened⟩
      | add frame isStatic name =>
        rcases induction rest.length (by omega) opened rfl with
          ⟨before, entered, inside, rfl, balanced, outside⟩
        refine ⟨before, entered, inside ++ [.add frame isStatic name], ?_, ?_, outside⟩
        · rw [List.append_assoc, List.cons_append]
        · exact balanced.append (.add .nil)
      | leave =>
        -- The last leave is matched by an enter further inside, which has one around it.
        have deeper : openEnters rest = (depth + 1) + 1 := by
          dsimp only at opened
          omega
        rcases induction rest.length (by omega) deeper rfl with
          ⟨middle, inner, inside, rfl, balanced, around⟩
        have shorter : middle.length < size := by
          rw [List.length_append] at measured
          omega
        rcases induction middle.length shorter around rfl with
          ⟨before, entered, between, rfl, balancedBetween, outside⟩
        refine ⟨before, entered, between ++ .enter inner :: (inside ++ .leave :: []), ?_, ?_,
          outside⟩
        · simp only [List.append_assoc, List.cons_append]
        · exact balancedBetween.append (.nest balanced .nil)

end ScopeOp

/-! ## The plain list -/

structure Scope where
  frame : FrameName
  isStatic : Bool
  added : List (Bool × String)

namespace Scope

def grow (ops : List ScopeOp) (scope : Scope) : Scope :=
  { scope with added := scope.added ++ ScopeOp.addedTo scope.frame ops }

theorem grow_of_addedTo_eq_nil {scope : Scope} {ops : List ScopeOp}
    (nothing : ScopeOp.addedTo scope.frame ops = []) : scope.grow ops = scope := by
  rw [grow, nothing, List.append_nil]

theorem grow_append (first second : List ScopeOp) (scope : Scope) :
    scope.grow (first ++ second) = (scope.grow first).grow second := by
  simp only [grow, ScopeOp.addedTo_append, List.append_assoc]

theorem map_grow_append (scopes : List Scope) (first second : List ScopeOp) :
    (scopes.map (grow first)).map (grow second) = scopes.map (grow (first ++ second)) := by
  rw [List.map_map]
  apply List.map_congr_left
  intro scope _
  exact (grow_append first second scope).symm

end Scope

/-- The open scopes, outermost first, and how often scopes were entered and reset. -/
structure PlainScopes where
  scopes : List Scope
  entered : Nat
  resets : Nat

namespace PlainScopes

def initial : PlainScopes := ⟨[⟨.outermost 0, true, []⟩], 0, 0⟩

def step (plain : PlainScopes) : ScopeOp → PlainScopes
  | .reset =>
    { plain with
      scopes := [⟨.outermost (plain.resets + 1), true, []⟩]
      resets := plain.resets + 1 }
  | .enter isStatic =>
    { plain with
      scopes := plain.scopes ++ [⟨.entered plain.entered, isStatic, []⟩]
      entered := plain.entered + 1 }
  | .leave =>
    if plain.scopes.length ≤ 1 then plain else { plain with scopes := plain.scopes.dropLast }
  | .add frame isStatic name =>
    { plain with scopes := plain.scopes.map (Scope.grow [.add frame isStatic name]) }

def run (ops : List ScopeOp) : PlainScopes := ops.foldl step initial

theorem run_append (first second : List ScopeOp) :
    run (first ++ second) = second.foldl step (run first) :=
  List.foldl_append

variable {plain : PlainScopes}

theorem step_ne_nil (nonempty : plain.scopes ≠ []) (op : ScopeOp) :
    (plain.step op).scopes ≠ [] := by
  cases op with
  | reset => exact List.cons_ne_nil _ _
  | enter isStatic => exact List.append_ne_nil_of_right_ne_nil _ (List.cons_ne_nil _ _)
  | leave =>
    rw [step]
    split
    · exact nonempty
    · rw [ne_eq, ← List.length_eq_zero_iff, List.length_dropLast]
      omega
  | add frame isStatic name =>
    rw [step, ne_eq, List.map_eq_nil_iff]
    exact nonempty

theorem step_leave_enter {scopes : List Scope} {scope : Scope} (nonempty : scopes ≠ [])
    (last : plain.scopes = scopes ++ [scope]) : (plain.step .leave).scopes = scopes := by
  have many : 0 < scopes.length := List.length_pos_iff.mpr nonempty
  rw [step, last, List.length_append, List.length_singleton, if_neg (by omega),
    List.dropLast_concat]

theorem length_scopes_run (ops : List ScopeOp) :
    (run ops).scopes.length = ScopeOp.openEnters ops + 1 := by
  induction ops using List.reverseRecOn with
  | nil => rfl
  | append_singleton rest op induction =>
    rw [run_append, ScopeOp.openEnters_append_singleton, List.foldl_cons, List.foldl_nil]
    cases op with
    | reset => rfl
    | enter isStatic => rw [step, List.length_append, List.length_singleton, induction]
    | leave =>
      dsimp only
      rw [step]
      split
      · omega
      · rw [List.length_dropLast]
        omega
    | add frame isStatic name => rw [step, List.length_map, induction]

theorem step_add_of_forall_ne {frame : FrameName}
    (closed : ∀ scope ∈ plain.scopes, scope.frame ≠ frame) (isStatic : Bool) (name : String) :
    plain.step (.add frame isStatic name) = plain := by
  have same : plain.scopes.map (Scope.grow [.add frame isStatic name]) = plain.scopes := by
    refine (List.map_congr_left ?_).trans (List.map_id _)
    intro scope inside
    exact Scope.grow_of_addedTo_eq_nil
      (ScopeOp.addedTo_of_ne (closed scope inside).symm isStatic name)
  rw [step, same]

/-- What is balanced only adds to the scopes that are there. -/
theorem scopes_of_balanced {ops : List ScopeOp} (balanced : ScopeOp.Balanced ops)
    (nonempty : plain.scopes ≠ []) :
    (ops.foldl step plain).scopes = plain.scopes.map (Scope.grow ops) := by
  induction balanced generalizing plain with
  | nil =>
    refine ((List.map_congr_left ?_).trans (List.map_id _)).symm
    intro scope _
    exact Scope.grow_of_addedTo_eq_nil rfl
  | @add frame isStatic name rest _ induction =>
    have added := induction (step_ne_nil nonempty (.add frame isStatic name))
    rw [List.foldl_cons, added, step, Scope.map_grow_append, List.singleton_append]
  | @nest isStatic inside rest _ _ inner later =>
    let entered := plain.step (.enter isStatic)
    let nested := inside.foldl step entered
    have enteredScopes : entered.scopes =
        plain.scopes ++ [⟨.entered plain.entered, isStatic, []⟩] := rfl
    have nestedScopes := inner (step_ne_nil nonempty (.enter isStatic))
    rw [enteredScopes, List.map_append] at nestedScopes
    have grown : plain.scopes.map (Scope.grow inside) ≠ [] := by
      rw [ne_eq, List.map_eq_nil_iff]
      exact nonempty
    have left : (nested.step .leave).scopes = plain.scopes.map (Scope.grow inside) :=
      step_leave_enter grown nestedScopes
    have leftNonempty : (nested.step .leave).scopes ≠ [] := left ▸ grown
    rw [List.foldl_cons, List.foldl_append, List.foldl_cons, later leftNonempty, left,
      Scope.map_grow_append]
    apply List.map_congr_left
    intro scope _
    have same : ScopeOp.addedTo scope.frame (inside ++ rest) =
        ScopeOp.addedTo scope.frame (.enter isStatic :: (inside ++ .leave :: rest)) := by
      simp [ScopeOp.addedTo]
    rw [Scope.grow, Scope.grow, same]

end PlainScopes

end ShadowLint
