import ShadowLint.Proofs.Scope.Held

/-!
What is visible in stacks whose frames are held on to. Looking up follows the frames from
one to the one around it; in every stack that can come about this meets all open frames, so
that the lookups and what leaving returns to can be told from the open frames alone
(`HeldScopes.refines_plain_list`).
-/

namespace ShadowLint

namespace ScopeStack

theorem reachesInstance_reverse_iff (name : String) (frames : List FieldFrame) :
    reachesInstance name frames.reverse = true ↔
      ∃ (position : Nat) (frame : FieldFrame),
        frames[position]? = some frame ∧ frame.holdsInstance name = true ∧
        ∀ (inner : Nat) (other : FieldFrame),
          position < inner → frames[inner]? = some other → other.isStatic = false := by
  induction frames using List.reverseRecOn with
  | nil => simp [reachesInstance]
  | append_singleton outer last induction =>
    rw [List.reverse_append, List.reverse_singleton, List.singleton_append, reachesInstance,
      Bool.or_eq_true, Bool.and_eq_true, Bool.not_eq_true', induction]
    simp only [getElem?_append_singleton_eq_some_iff]
    constructor
    · intro reached
      rcases reached with here | ⟨notStatic, position, frame, isOuter, holds, open_⟩
      · refine ⟨outer.length, last, .inr ⟨rfl, rfl⟩, here, ?_⟩
        intro inner other inside found
        rcases found with isOuter | ⟨isLast, -⟩
        · rw [List.getElem?_eq_none (by omega)] at isOuter
          cases isOuter
        · omega
      · refine ⟨position, frame, .inl isOuter, holds, ?_⟩
        intro inner other inside found
        rcases found with isOuterToo | ⟨-, rfl⟩
        · exact open_ inner other inside isOuterToo
        · exact notStatic
    · intro found
      rcases found with ⟨position, frame, isOuter | ⟨-, rfl⟩, holds, open_⟩
      · rcases List.getElem?_eq_some_iff.mp isOuter with ⟨inside, -⟩
        refine .inr ⟨open_ outer.length last inside (.inr ⟨rfl, rfl⟩), position, frame, isOuter,
          holds, ?_⟩
        intro inner other beyond isOuterToo
        exact open_ inner other beyond (.inl isOuterToo)
      · exact .inl holds

namespace Linked

variable {scopes : ScopeStack} (linked : scopes.Linked) (name : String)

include linked

theorem seesStatic_iff :
    scopes.seesStatic name = true ↔
      ∃ position frame, scopes.frameAt? position = some frame ∧
        frame.holdsStatic name = true := by
  simp only [linked.seesStatic_eq, List.any_eq_true, List.mem_iff_getElem?, frameAt?_eq]
  constructor
  · intro seen
    rcases seen with ⟨frame, ⟨position, found⟩, holds⟩
    exact ⟨position, frame, found, holds⟩
  · intro seen
    rcases seen with ⟨position, frame, found, holds⟩
    exact ⟨frame, ⟨position, found⟩, holds⟩

theorem seesInstance_iff :
    scopes.seesInstance name = true ↔
      ∃ position frame, scopes.frameAt? position = some frame ∧
        frame.holdsInstance name = true ∧
        ∀ inner other, position < inner → scopes.frameAt? inner = some other →
          other.isStatic = false := by
  simp only [linked.seesInstance_eq, frameAt?_eq]
  exact reachesInstance_reverse_iff name scopes.frames

end Linked

end ScopeStack

namespace HeldScopes

namespace Refines

variable {held : HeldScopes} {plain : PlainScopes} (refines : held.Refines plain)

include refines

theorem parent_frameAt? {position : Nat} {frame : FieldFrame}
    (found : held.stack.frameAt? position = some frame) :
    frame.parent = Scope.parentAt position := by
  rw [refines.frameAt?_eq] at found
  rcases Option.map_eq_some_iff.mp found with ⟨scope, -, rfl⟩
  exact Scope.parent_shownAt position scope

theorem linked : held.stack.Linked := by
  constructor
  · have outermost : held.stack.frameAt? 0 = some held.stack.base := rfl
    exact refines.parent_frameAt? outermost
  · intro position frame found
    have above : held.stack.frameAt? (position + 1) = some frame := found
    exact refines.parent_frameAt? above

theorem exists_current :
    ∃ scope, plain.scopes[held.stack.depth]? = some scope ∧
      held.stack.current = scope.shownAt held.stack.depth ∧
      held.handle? scope.frame = some (.inStack held.stack.depth) := by
  have last := refines.frameAt?_eq held.stack.depth
  rw [ScopeStack.frameAt?_depth] at last
  rcases Option.map_eq_some_iff.mp last.symm with ⟨scope, found, shown⟩
  refine ⟨scope, found, shown.symm, ?_⟩
  rw [refines.handles, List.getElem?_map, found, Option.map_some]

end Refines

theorem depth_run (ops : List ScopeOp) : (run ops).stack.depth = ScopeOp.openEnters ops := by
  have length := (refines_run ops).length_scopes
  rw [PlainScopes.length_scopes_run] at length
  omega

/-! ## Leaving -/

/-- The current frame is the one that was current in the other stack, with what the
operations added to it. -/
structure ReturnsTo (held outer : HeldScopes) (ops : List ScopeOp) : Prop where
  depth : held.stack.depth = outer.stack.depth
  current : ∃ frame,
    outer.handle? frame = some (.inStack outer.stack.depth) ∧
    held.handle? frame = some (.inStack held.stack.depth) ∧
    held.stack.current.isStatic = outer.stack.current.isStatic ∧
    ∀ isStatic name, held.stack.current.holds isStatic name = true ↔
      outer.stack.current.holds isStatic name = true ∨ .add frame isStatic name ∈ ops

/-- Where a plain list has the scopes of another one with what operations added, the
stacks that refine them agree in what is current. -/
theorem Refines.returnsTo {held outer : HeldScopes} {plain around : PlainScopes}
    {ops : List ScopeOp} (refines : held.Refines plain) (refinesOuter : outer.Refines around)
    (grown : plain.scopes = around.scopes.map (Scope.grow ops)) : held.ReturnsTo outer ops := by
  have depth : held.stack.depth = outer.stack.depth := by
    have length := refines.length_scopes
    rw [grown, List.length_map, refinesOuter.length_scopes] at length
    omega
  rcases refinesOuter.exists_current with ⟨scope, found, current, handle⟩
  rcases refines.exists_current with ⟨same, foundToo, currentToo, handleToo⟩
  rw [grown, List.getElem?_map, depth, found] at foundToo
  cases foundToo
  refine ⟨depth, scope.frame, handle, handleToo, ?_, ?_⟩
  · rw [current, currentToo, Scope.isStatic_shownAt, Scope.isStatic_shownAt]
    rfl
  · intro isStatic name
    rw [current, currentToo, Scope.holds_shownAt, Scope.holds_shownAt, Scope.grow,
      List.mem_append, ScopeOp.mem_addedTo]

theorem leave_returnsTo {inside : List ScopeOp} (balanced : ScopeOp.Balanced inside)
    (before : List ScopeOp) (isStatic : Bool) :
    ∃ left, (run (before ++ .enter isStatic :: inside)).leave = .ok left ∧
      left.ReturnsTo (run before) inside := by
  let around := PlainScopes.run before
  let ops := before ++ .enter isStatic :: inside
  have refinesOuter : (run before).Refines around := refines_run before
  have refinesInner : (run ops).Refines (PlainScopes.run ops) := refines_run ops
  have entered : (PlainScopes.run ops).scopes =
      around.scopes.map (Scope.grow inside) ++
        [Scope.grow inside ⟨.entered around.entered, isStatic, []⟩] := by
    have nonempty := PlainScopes.step_ne_nil refinesOuter.ne_nil (.enter isStatic)
    rw [PlainScopes.run_append, List.foldl_cons,
      PlainScopes.scopes_of_balanced balanced nonempty, PlainScopes.step, List.map_append]
    rfl
  have outerNonempty : around.scopes.map (Scope.grow inside) ≠ [] := by
    rw [ne_eq, List.map_eq_nil_iff]
    exact refinesOuter.ne_nil
  have deep : (run ops).stack.depth ≠ 0 := by
    have length := refinesInner.length_scopes
    rw [entered, List.length_append, List.length_singleton, List.length_map,
      refinesOuter.length_scopes] at length
    omega
  rcases refinesInner.exists_leave deep with ⟨left, isLeft, -⟩
  have refinesLeft := refinesInner.leave
  rw [step, isLeft] at refinesLeft
  exact ⟨left, isLeft,
    refinesLeft.returnsTo refinesOuter (PlainScopes.step_leave_enter outerNonempty entered)⟩

/-! ## Frames that are not open -/

theorem stack_run_of_closed {before : List ScopeOp} {frame : FrameName}
    (closed : ∀ position, (run before).handle? frame ≠ some (.inStack position))
    (isStatic : Bool) (name : String) (later : List ScopeOp) :
    (run (before ++ .add frame isStatic name :: later)).stack = (run (before ++ later)).stack := by
  have notOpen := (refines_run before).forall_ne_of_closed closed
  apply ScopeStack.eq_of_frames_eq
  rw [(refines_run _).frames, (refines_run _).frames, PlainScopes.run_append,
    PlainScopes.run_append, List.foldl_cons, PlainScopes.step_add_of_forall_ne notOpen]

/-! ## The whole -/

theorem Refines.modifyCurrent_eq {held : HeldScopes} {plain : PlainScopes}
    (refines : held.Refines plain) :
    ∃ frame, held.handle? frame = some (.inStack held.stack.depth) ∧
      ∀ change, held.modifyCurrent change = held.modifyFrame frame change := by
  rcases refines.exists_current with ⟨scope, -, -, handle⟩
  refine ⟨scope.frame, handle, ?_⟩
  intro change
  rw [modifyFrame, handle]
  rfl

theorem Refines.leave_error_iff {held : HeldScopes} {plain : PlainScopes}
    (refines : held.Refines plain) :
    (∃ error, held.leave = .error error) ↔ held.stack.depth = 0 := by
  constructor
  · intro failed
    rcases failed with ⟨error, failed⟩
    by_contra entered
    rcases refines.exists_leave entered with ⟨left, isLeft, -⟩
    cases failed.symm.trans isLeft
  · intro outside
    exact ⟨_, refines.leave_of_depth_eq_zero outside⟩

/-- A stack refines a plain list of scopes, whatever is done with it and with the frames it
handed out: each frame names the one below it, the depth is the number of enters that were
not left, a static field is seen if an open frame has it, and an instance field if an open
frame has it that has no static frame inside. Leaving fails where no scope is entered, and
changes nothing then. Else the frame is current again that was before the matching enter,
with what was added to it since. What is added to a frame that is not open is never seen. -/
theorem refines_plain_list (ops : List ScopeOp) :
    let held := run ops
    let stack := held.stack
    held.Refines (PlainScopes.run ops) ∧
    (∃ frame, held.handle? frame = some (.inStack stack.depth) ∧
      ∀ change, held.modifyCurrent change = held.modifyFrame frame change) ∧
    (∀ position frame, stack.frameAt? position = some frame →
      frame.parent = if position = 0 then none else some (position - 1)) ∧
    stack.depth = ScopeOp.openEnters ops ∧
    (∀ name, stack.seesStatic name = true ↔
      ∃ position frame, stack.frameAt? position = some frame ∧
        frame.holdsStatic name = true) ∧
    (∀ name, stack.seesInstance name = true ↔
      ∃ position frame, stack.frameAt? position = some frame ∧
        frame.holdsInstance name = true ∧
        ∀ inner other, position < inner → stack.frameAt? inner = some other →
          other.isStatic = false) ∧
    ((∃ error, held.leave = .error error) ↔ stack.depth = 0) ∧
    (∀ error, held.leave = .error error →
      error.code.identifier = "HF-2002" ∧ held.step .leave = held) ∧
    (stack.depth ≠ 0 → ∃ before isStatic inside, ops = before ++ .enter isStatic :: inside ∧
      ScopeOp.Balanced inside) ∧
    (∀ before isStatic inside, ops = before ++ .enter isStatic :: inside →
      ScopeOp.Balanced inside →
      ∃ left, held.leave = .ok left ∧ left.ReturnsTo (run before) inside) ∧
    ∀ frame, (∀ position, held.handle? frame ≠ some (.inStack position)) →
      ∀ isStatic name later,
        (run (ops ++ .add frame isStatic name :: later)).stack = (run (ops ++ later)).stack := by
  intro held stack
  have refines : held.Refines (PlainScopes.run ops) := refines_run ops
  refine ⟨refines, refines.modifyCurrent_eq, ?_, depth_run ops, refines.linked.seesStatic_iff,
    refines.linked.seesInstance_iff, refines.leave_error_iff, ?_, ?_, ?_, ?_⟩
  · intro position frame found
    rw [refines.parent_frameAt? found]
    cases position <;> rfl
  · intro error failed
    have outside := refines.leave_error_iff.mp ⟨error, failed⟩
    have unbalanced := refines.leave_of_depth_eq_zero outside
    cases failed.symm.trans unbalanced
    exact ⟨rfl, by rw [step, unbalanced]⟩
  · intro inside
    rcases Nat.exists_eq_succ_of_ne_zero inside with ⟨depth, entered⟩
    have opened : ScopeOp.openEnters ops = depth + 1 := (depth_run ops).symm.trans entered
    rcases ScopeOp.exists_matching_enter opened with ⟨before, isStatic, since, split, balanced, -⟩
    exact ⟨before, isStatic, since, split, balanced⟩
  · intro before isStatic inside split balanced
    have left := leave_returnsTo balanced before isStatic
    rw [← split] at left
    exact left
  · intro frame closed isStatic name later
    exact stack_run_of_closed closed isStatic name later

end HeldScopes

end ShadowLint
