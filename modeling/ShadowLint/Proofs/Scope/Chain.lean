import ShadowLint.Scope.Stack

/-!
Following the frames outwards. In a stack that was only ever entered and left every
frame names the one below it as the enclosing one, so the frames met on the way out
are all the frames, the innermost first (`ScopeStack.Linked.chain_eq`).
-/

namespace ShadowLint

namespace ScopeStack

/-- Every frame names the position below its own, and the base names none. -/
structure Linked (scopes : ScopeStack) : Prop where
  base : scopes.base.parent = none
  opened : ∀ (position : Nat) (frame : FieldFrame),
    scopes.opened[position]? = some frame → frame.parent = some position

theorem frameAt?_eq (scopes : ScopeStack) (position : Nat) :
    scopes.frameAt? position = scopes.frames[position]? := by
  cases position with
  | zero => rfl
  | succ position => simp [frameAt?, frames]

@[simp] theorem length_frames (scopes : ScopeStack) :
    scopes.frames.length = scopes.depth + 1 := by
  simp [frames, depth]

namespace Linked

variable {scopes : ScopeStack} (linked : scopes.Linked)

include linked in
theorem chainFrom_eq (position : Nat) (inside : position ≤ scopes.depth) :
    scopes.chainFrom position = (scopes.frames.take (position + 1)).reverse := by
  induction position with
  | zero =>
    rw [chainFrom]
    simp [frameAt?, frames, linked.base]
  | succ position induction =>
    have bound : position < scopes.opened.size := inside
    have opened : scopes.opened[position]? = some scopes.opened[position] :=
      Array.getElem?_eq_getElem bound
    have below := linked.opened position _ opened
    have atPosition : scopes.frames[position + 1]? = some scopes.opened[position] := by
      rw [← frameAt?_eq]
      exact opened
    rw [chainFrom, frameAt?_eq, atPosition, List.take_add_one, atPosition]
    simp [below, induction (by omega)]

include linked in
theorem chain_eq : scopes.chain = scopes.frames.reverse := by
  rw [chain, linked.chainFrom_eq _ (Nat.le_refl _), ← length_frames, List.take_length]

include linked in
theorem seesStatic_eq (name : String) :
    scopes.seesStatic name = scopes.frames.any (·.holdsStatic name) := by
  rw [seesStatic, linked.chain_eq, List.any_reverse]

include linked in
theorem seesInstance_eq (name : String) :
    scopes.seesInstance name = reachesInstance name scopes.frames.reverse := by
  rw [seesInstance, linked.chain_eq]

end Linked

theorem linked_initial : initial.Linked := by
  constructor
  · rfl
  · simp [initial]

theorem Linked.push {scopes : ScopeStack} (linked : scopes.Linked) {frame : FieldFrame}
    (parent : frame.parent = some scopes.depth) :
    ({ scopes with opened := scopes.opened.push frame } : ScopeStack).Linked := by
  constructor
  · exact linked.base
  · intro position other found
    rw [Array.getElem?_push] at found
    split at found
    · rename_i last
      rw [← Option.some.inj found, parent, depth, last]
    · exact linked.opened position other found

end ScopeStack

end ShadowLint
