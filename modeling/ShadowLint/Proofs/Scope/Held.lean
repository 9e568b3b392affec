import ShadowLint.Proofs.Scope.Chain
import ShadowLint.Proofs.Scope.Plain

/-!
Stacks whose frames are held on to refine a plain list of scopes. Whatever is done with a
stack and with any frame that it handed out, the frames in it are those of the plain list,
each below the next (`HeldScopes.refines_run`). A frame outside of the stack, left or never
entered, changes by what is added to it and by nothing else
(`HeldScopes.handle?_foldl_step_of_detached`).
-/

namespace ShadowLint

theorem getElem?_append_singleton_eq_some_iff {Item : Type} (items : List Item)
    (last item : Item) (position : Nat) :
    (items ++ [last])[position]? = some item ↔
      items[position]? = some item ∨ position = items.length ∧ last = item := by
  rcases Nat.lt_trichotomy position items.length with inside | rfl | beyond
  · have different : position ≠ items.length := by omega
    simp [List.getElem?_append_left inside, different]
  · simp
  · have different : position ≠ items.length := by omega
    have outside : (items ++ [last])[position]? = none := by
      rw [List.getElem?_eq_none_iff, List.length_append, List.length_singleton]
      omega
    have outsideToo : items[position]? = none := List.getElem?_eq_none (by omega)
    simp [outside, outsideToo, different]

/-! ## Frames of scopes -/

namespace FieldFrame

def addAll (frame : FieldFrame) (entries : List (Bool × String)) : FieldFrame :=
  entries.foldl (fun frame entry => frame.add entry.1 entry.2) frame

theorem addAll_append (frame : FieldFrame) (first second : List (Bool × String)) :
    frame.addAll (first ++ second) = (frame.addAll first).addAll second :=
  List.foldl_append

theorem parent_addAll (frame : FieldFrame) (entries : List (Bool × String)) :
    (frame.addAll entries).parent = frame.parent := by
  induction entries generalizing frame with
  | nil => rfl
  | cons entry rest induction => exact (induction _).trans (parent_add frame entry.1 entry.2)

theorem isStatic_addAll (frame : FieldFrame) (entries : List (Bool × String)) :
    (frame.addAll entries).isStatic = frame.isStatic := by
  induction entries generalizing frame with
  | nil => rfl
  | cons entry rest induction => exact (induction _).trans (isStatic_add frame entry.1 entry.2)

theorem holds_addAll (frame : FieldFrame) (entries : List (Bool × String)) (isStatic : Bool)
    (name : String) :
    (frame.addAll entries).holds isStatic name = true ↔
      frame.holds isStatic name = true ∨ (isStatic, name) ∈ entries := by
  induction entries generalizing frame with
  | nil => simp [addAll]
  | cons entry rest induction =>
    refine (induction _).trans ?_
    rw [holds_add, List.mem_cons, or_assoc]

end FieldFrame

namespace Scope

def parentAt : (position : Nat) → Option Nat
  | 0 => none
  | position + 1 => some position

/-- The frame at a position that shows a scope. -/
def shownAt (position : Nat) (scope : Scope) : FieldFrame :=
  (FieldFrame.empty scope.isStatic (parentAt position)).addAll scope.added

variable (position : Nat) (scope : Scope)

@[simp] theorem parent_shownAt : (scope.shownAt position).parent = parentAt position :=
  FieldFrame.parent_addAll _ _

@[simp] theorem isStatic_shownAt : (scope.shownAt position).isStatic = scope.isStatic :=
  FieldFrame.isStatic_addAll _ _

theorem holds_shownAt (isStatic : Bool) (name : String) :
    (scope.shownAt position).holds isStatic name = true ↔ (isStatic, name) ∈ scope.added := by
  rw [shownAt, FieldFrame.holds_addAll]
  cases isStatic <;> simp [FieldFrame.holds]

theorem shownAt_grow (ops : List ScopeOp) :
    (scope.grow ops).shownAt position =
      (scope.shownAt position).addAll (ScopeOp.addedTo scope.frame ops) := by
  exact FieldFrame.addAll_append _ _ _

end Scope

namespace ScopeStack

theorem frames_enter (scopes : ScopeStack) (isStatic : Bool) :
    (scopes.enter isStatic).frames = scopes.frames ++ [.empty isStatic (some scopes.depth)] := by
  simp [frames, enter]

theorem frames_modifyAt (scopes : ScopeStack) (position : Nat) (change : FieldFrame → FieldFrame) :
    (scopes.modifyAt position change).frames = scopes.frames.modify position change := by
  cases position with
  | zero => rfl
  | succ position => simp [frames, modifyAt]

theorem eq_of_frames_eq {scopes other : ScopeStack} (same : scopes.frames = other.frames) :
    scopes = other := by
  rcases scopes with ⟨base, opened⟩
  rcases other with ⟨otherBase, otherOpened⟩
  rcases List.cons.inj same with ⟨sameBase, sameOpened⟩
  rw [ScopeStack.mk.injEq]
  exact ⟨sameBase, Array.toList_inj.mp sameOpened⟩

theorem frameAt?_depth (scopes : ScopeStack) :
    scopes.frameAt? scopes.depth = some scopes.current := by
  rw [current, Array.back?, depth]
  cases size : scopes.opened.size with
  | zero => simp [frameAt?, Array.eq_empty_of_size_eq_zero size]
  | succ below =>
    have last : scopes.opened[below]? = some scopes.opened[below] :=
      Array.getElem?_eq_getElem (by omega)
    simp [frameAt?, last]

theorem leave_eq (scopes : ScopeStack) :
    scopes.leave =
      if scopes.current.parent = none then .error .unbalanced
      else .ok { scopes with opened := scopes.opened.pop } := by
  rw [leave]
  cases scopes.current.parent <;> rfl

theorem frames_pop (scopes : ScopeStack) (entered : scopes.depth ≠ 0) :
    ({ scopes with opened := scopes.opened.pop } : ScopeStack).frames = scopes.frames.dropLast := by
  have nonempty : scopes.opened.toList ≠ [] := by
    intro empty
    apply entered
    rw [depth, ← Array.length_toList, empty]
    rfl
  rw [frames, frames, Array.toList_pop, List.dropLast_cons_of_ne_nil nonempty]

end ScopeStack

namespace HeldScopes

def step (held : HeldScopes) : ScopeOp → HeldScopes
  | .reset => held.reset
  | .enter isStatic => held.enter isStatic
  | .leave =>
    match held.leave with
    | .ok left => left
    | .error _ => held
  | .add frame isStatic name => held.modifyFrame frame (·.add isStatic name)

def run (ops : List ScopeOp) : HeldScopes := ops.foldl step initial

/-- The frames show the plain scopes at their positions, and the handles of their names lead
to them and those of all other names elsewhere. -/
structure Refines (held : HeldScopes) (plain : PlainScopes) : Prop where
  frames : held.stack.frames = plain.scopes.mapIdx Scope.shownAt
  handles : ∀ name position, held.handle? name = some (.inStack position) ↔
    (plain.scopes.map Scope.frame)[position]? = some name
  entered : held.handles.size = plain.entered
  resets : held.outermost.size = plain.resets + 1

/-! ## Handles -/

theorem handle?_enter (held : HeldScopes) (isStatic : Bool) (name : FrameName) :
    (held.enter isStatic).handle? name =
      if name = .entered held.handles.size then some (.inStack (held.stack.depth + 1))
      else held.handle? name := by
  cases name with
  | entered number => simp [enter, handle?, Array.getElem?_push]
  | outermost number => rfl

theorem handle?_reset (held : HeldScopes) (name : FrameName) :
    held.reset.handle? name =
      if name = .outermost held.outermost.size then some (.inStack 0)
      else (held.handle? name).map (held.detachFrom 0) := by
  cases name with
  | entered number => simp [reset, handle?]
  | outermost number => simp [reset, handle?, Array.getElem?_push]

theorem handle?_setHandle {held : HeldScopes} {name : FrameName} {old : FrameHandle}
    (known : held.handle? name = some old) (handle : FrameHandle) (other : FrameName) :
    (held.setHandle name handle).handle? other =
      if other = name then some handle else held.handle? other := by
  cases name with
  | entered number =>
    rcases Array.getElem?_eq_some_iff.mp known with ⟨inside, -⟩
    cases other with
    | entered asked =>
      by_cases same : asked = number
      · simp [setHandle, handle?, same, inside]
      · simp [setHandle, handle?, same, Array.getElem?_setIfInBounds_ne (Ne.symm same)]
    | outermost asked => rfl
  | outermost number =>
    rcases Array.getElem?_eq_some_iff.mp known with ⟨inside, -⟩
    cases other with
    | entered asked => rfl
    | outermost asked =>
      by_cases same : asked = number
      · simp [setHandle, handle?, same, inside]
      · simp [setHandle, handle?, same, Array.getElem?_setIfInBounds_ne (Ne.symm same)]

@[simp] theorem stack_setHandle (held : HeldScopes) (name : FrameName) (handle : FrameHandle) :
    (held.setHandle name handle).stack = held.stack := by
  cases name <;> rfl

@[simp] theorem size_handles_setHandle (held : HeldScopes) (name : FrameName)
    (handle : FrameHandle) : (held.setHandle name handle).handles.size = held.handles.size := by
  cases name <;> simp [setHandle]

@[simp] theorem size_outermost_setHandle (held : HeldScopes) (name : FrameName)
    (handle : FrameHandle) :
    (held.setHandle name handle).outermost.size = held.outermost.size := by
  cases name <;> simp [setHandle]

theorem map_detachFrom_eq_inStack_iff (held : HeldScopes) (lowest : Nat)
    (handle : Option FrameHandle) (position : Nat) :
    handle.map (held.detachFrom lowest) = some (.inStack position) ↔
      handle = some (.inStack position) ∧ position < lowest := by
  cases handle with
  | none => simp
  | some handle =>
    cases handle with
    | detached frame => simp [detachFrom]
    | inStack place =>
      by_cases kept : place < lowest
      · simp only [detachFrom, Option.map_some, kept, if_true, Option.some.injEq,
          FrameHandle.inStack.injEq]
        constructor
        · intro same
          exact ⟨same, same ▸ kept⟩
        · exact And.left
      · simp only [detachFrom, Option.map_some, kept, if_false, Option.some.injEq,
          FrameHandle.inStack.injEq, reduceCtorEq, false_iff, not_and]
        intro same
        exact same ▸ kept

/-! ## One operation -/

namespace Refines

variable {held : HeldScopes} {plain : PlainScopes} (refines : held.Refines plain)

include refines

theorem length_scopes : plain.scopes.length = held.stack.depth + 1 := by
  rw [← ScopeStack.length_frames, refines.frames, List.length_mapIdx]

theorem ne_nil : plain.scopes ≠ [] := by
  intro empty
  have length := refines.length_scopes
  rw [empty] at length
  cases length

theorem frameAt?_eq (position : Nat) :
    held.stack.frameAt? position = plain.scopes[position]?.map (Scope.shownAt position) := by
  rw [ScopeStack.frameAt?_eq, refines.frames, List.getElem?_mapIdx]

theorem forall_ne_of_closed {name : FrameName}
    (closed : ∀ position, held.handle? name ≠ some (.inStack position)) :
    ∀ scope ∈ plain.scopes, scope.frame ≠ name := by
  intro scope inside same
  have named : name ∈ plain.scopes.map Scope.frame := same ▸ List.mem_map_of_mem inside
  rcases List.getElem?_of_mem named with ⟨position, found⟩
  exact closed position ((refines.handles name position).mpr found)

theorem parent_current : held.stack.current.parent = Scope.parentAt held.stack.depth := by
  have last := refines.frameAt?_eq held.stack.depth
  rw [ScopeStack.frameAt?_depth] at last
  rcases Option.map_eq_some_iff.mp last.symm with ⟨scope, -, shown⟩
  rw [← shown, Scope.parent_shownAt]

theorem leave_of_depth_eq_zero (closed : held.stack.depth = 0) :
    held.leave = .error .unbalanced := by
  have outermost : held.stack.current.parent = none := by
    rw [refines.parent_current, closed, Scope.parentAt]
  rw [HeldScopes.leave, ScopeStack.leave_eq, if_pos outermost]

theorem exists_leave (entered : held.stack.depth ≠ 0) :
    ∃ left, held.leave = .ok left ∧ left.stack.frames = held.stack.frames.dropLast ∧
      (∀ name, left.handle? name =
        (held.handle? name).map (held.detachFrom held.stack.depth)) ∧
      left.handles.size = held.handles.size ∧ left.outermost.size = held.outermost.size := by
  have inner : held.stack.current.parent ≠ none := by
    rw [refines.parent_current]
    cases depth : held.stack.depth with
    | zero => exact absurd depth entered
    | succ _ => exact Option.some_ne_none _
  have depthAfter : ({ held.stack with opened := held.stack.opened.pop } : ScopeStack).depth + 1 =
      held.stack.depth := by
    rw [ScopeStack.depth, Array.size_pop]
    exact Nat.sub_add_cancel (Nat.pos_of_ne_zero entered)
  refine ⟨⟨{ held.stack with opened := held.stack.opened.pop },
      held.handles.map (held.detachFrom held.stack.depth),
      held.outermost.map (held.detachFrom held.stack.depth)⟩,
    ?_, ScopeStack.frames_pop held.stack entered, ?_, ?_, ?_⟩
  · rw [HeldScopes.leave, ScopeStack.leave_eq, if_neg inner]
    dsimp only
    rw [depthAfter]
  · intro name
    cases name <;> exact Array.getElem?_map
  · exact Array.size_map
  · exact Array.size_map

theorem reset : held.reset.Refines (plain.step .reset) := by
  refine ⟨rfl, ?_, ?_, ?_⟩
  · intro name position
    have single := getElem?_append_singleton_eq_some_iff [] (.outermost (plain.resets + 1)) name
      position
    rw [handle?_reset, refines.resets]
    refine Iff.trans ?_ single.symm
    by_cases isNew : name = .outermost (plain.resets + 1)
    · simp [isNew, eq_comm]
    · rw [if_neg isNew, map_detachFrom_eq_inStack_iff]
      simp [Ne.symm isNew]
  · exact Array.size_map.trans refines.entered
  · exact (Array.size_push _).trans (congrArg (· + 1) (Array.size_map.trans refines.resets))

theorem enter (isStatic : Bool) :
    (held.enter isStatic).Refines (plain.step (.enter isStatic)) := by
  refine ⟨?_, ?_, ?_, refines.resets⟩
  · have position : Scope.parentAt plain.scopes.length = some held.stack.depth := by
      rw [refines.length_scopes, Scope.parentAt]
    have frames := ScopeStack.frames_enter held.stack isStatic
    rw [refines.frames, ← position] at frames
    rw [PlainScopes.step, List.mapIdx_concat]
    exact frames
  · intro name position
    have last := getElem?_append_singleton_eq_some_iff (plain.scopes.map Scope.frame)
      (.entered plain.entered) name position
    rw [PlainScopes.step, List.map_append, List.map_singleton, last, List.length_map,
      refines.length_scopes, ← refines.handles, handle?_enter, refines.entered]
    by_cases isNew : name = .entered plain.entered
    · have unknown : held.handle? name = none := by
        rw [isNew, ← refines.entered, handle?]
        exact Array.getElem?_size
      rw [if_pos isNew, unknown]
      simp [isNew, eq_comm]
    · simp [isNew, Ne.symm isNew]
  · exact (Array.size_push _).trans (congrArg (· + 1) refines.entered)

theorem leave : (held.step .leave).Refines (plain.step .leave) := by
  have length := refines.length_scopes
  by_cases entered : held.stack.depth = 0
  · rw [HeldScopes.step, refines.leave_of_depth_eq_zero entered, PlainScopes.step,
      if_pos (by omega)]
    exact refines
  · rcases refines.exists_leave entered with
      ⟨left, isLeft, frames, handles, sizeHandles, sizeOutermost⟩
    rw [HeldScopes.step, isLeft, PlainScopes.step, if_neg (by omega)]
    refine ⟨?_, ?_, sizeHandles.trans refines.entered, sizeOutermost.trans refines.resets⟩
    · rw [frames, refines.frames]
      apply List.ext_getElem?
      intro position
      simp only [List.getElem?_dropLast, List.getElem?_mapIdx, List.length_mapIdx]
      split <;> rfl
    · intro name position
      rw [handles, map_detachFrom_eq_inStack_iff, refines.handles, List.map_dropLast,
        List.getElem?_dropLast, List.length_map, length, Nat.add_sub_cancel]
      by_cases kept : position < held.stack.depth <;> simp [kept]

theorem of_setHandle {frame : FrameName} {detached : FieldFrame}
    (found : held.handle? frame = some (.detached detached)) (changed : FieldFrame) :
    (held.setHandle frame (.detached changed)).Refines plain := by
  refine ⟨?_, ?_, ?_, ?_⟩
  · rw [stack_setHandle]
    exact refines.frames
  · intro other position
    rw [handle?_setHandle found, ← refines.handles]
    by_cases same : other = frame <;> simp [same, found]
  · rw [size_handles_setHandle]
    exact refines.entered
  · rw [size_outermost_setHandle]
    exact refines.resets

theorem frames_modifyAt {frame : FrameName} {place : Nat}
    (found : held.handle? frame = some (.inStack place)) (isStatic : Bool) (name : String) :
    (held.stack.modifyAt place (·.add isStatic name)).frames =
      (plain.scopes.map (Scope.grow [.add frame isStatic name])).mapIdx Scope.shownAt := by
  rw [ScopeStack.frames_modifyAt, refines.frames]
  apply List.ext_getElem?
  intro position
  rw [List.getElem?_modify, List.getElem?_mapIdx, List.getElem?_mapIdx, List.getElem?_map]
  cases isThere : plain.scopes[position]? with
  | none => rfl
  | some scope =>
    have leads := refines.handles scope.frame position
    rw [List.getElem?_map, isThere] at leads
    have itsHandle := leads.mpr rfl
    simp only [Option.map_some, Option.map_eq_map, Option.some.injEq, Scope.shownAt_grow]
    by_cases own : scope.frame = frame
    · rw [own, found] at itsHandle
      cases itsHandle
      rw [if_pos rfl, own]
      simp [ScopeOp.addedTo, FieldFrame.addAll]
    · have elsewhere : place ≠ position := by
        intro same
        have named := (refines.handles frame place).mp found
        rw [same, List.getElem?_map, isThere] at named
        exact own (Option.some.inj named)
      rw [if_neg elsewhere, ScopeOp.addedTo_of_ne (Ne.symm own)]
      rfl

theorem add (frame : FrameName) (isStatic : Bool) (name : String) :
    (held.step (.add frame isStatic name)).Refines (plain.step (.add frame isStatic name)) := by
  rw [HeldScopes.step, HeldScopes.modifyFrame]
  by_cases opened : ∃ place, held.handle? frame = some (.inStack place)
  · rcases opened with ⟨place, found⟩
    rw [found]
    refine ⟨refines.frames_modifyAt found isStatic name, ?_, refines.entered, refines.resets⟩
    intro other position
    rw [PlainScopes.step, List.map_map]
    exact refines.handles other position
  · have closed := not_exists.mp opened
    rw [PlainScopes.step_add_of_forall_ne (refines.forall_ne_of_closed closed)]
    cases found : held.handle? frame with
    | none => exact refines
    | some handle =>
      cases handle with
      | inStack place => exact absurd found (closed place)
      | detached detached => exact refines.of_setHandle found _

theorem step (op : ScopeOp) : (held.step op).Refines (plain.step op) := by
  cases op with
  | reset => exact refines.reset
  | enter isStatic => exact refines.enter isStatic
  | leave => exact refines.leave
  | add frame isStatic name => exact refines.add frame isStatic name

theorem foldl_step (ops : List ScopeOp) :
    (ops.foldl HeldScopes.step held).Refines (ops.foldl PlainScopes.step plain) := by
  induction ops generalizing held plain with
  | nil => exact refines
  | cons op rest induction => exact induction (refines.step op)

end Refines

theorem refines_initial : initial.Refines .initial := by
  refine ⟨rfl, ?_, rfl, rfl⟩
  intro name position
  have single := getElem?_append_singleton_eq_some_iff [] (.outermost 0) name position
  refine Iff.trans ?_ single.symm
  cases name with
  | entered number => simp [initial, handle?]
  | outermost number => cases number <;> simp [initial, handle?, eq_comm]

theorem refines_run (ops : List ScopeOp) : (run ops).Refines (PlainScopes.run ops) :=
  refines_initial.foldl_step ops

/-! ## Frames outside of the stack -/

section detached

variable {held : HeldScopes} {name : FrameName} {frame : FieldFrame}

theorem handle?_leave {left : HeldScopes} (isLeft : held.leave = .ok left) (name : FrameName) :
    left.handle? name = (held.handle? name).map (held.detachFrom (left.stack.depth + 1)) := by
  rw [HeldScopes.leave] at isLeft
  split at isLeft
  · cases isLeft
  · cases isLeft
    cases name <;> exact Array.getElem?_map

theorem handle?_step_of_detached (found : held.handle? name = some (.detached frame))
    (op : ScopeOp) : (held.step op).handle? name =
      some (.detached (frame.addAll (ScopeOp.addedTo name [op]))) := by
  cases op with
  | reset =>
    have old : name ≠ .outermost held.outermost.size := by
      rintro rfl
      simp [handle?] at found
    rw [step, handle?_reset, if_neg old, found]
    rfl
  | enter isStatic =>
    have old : name ≠ .entered held.handles.size := by
      rintro rfl
      simp [handle?] at found
    rw [step, handle?_enter, if_neg old, found]
    rfl
  | leave =>
    cases attempt : held.leave with
    | error error =>
      rw [step, attempt]
      exact found
    | ok left =>
      rw [step, attempt]
      dsimp only
      rw [handle?_leave attempt, found]
      rfl
  | add other isStatic added =>
    by_cases same : other = name
    · subst same
      rw [step, modifyFrame, found]
      dsimp only
      rw [handle?_setHandle found, if_pos rfl]
      simp [ScopeOp.addedTo, FieldFrame.addAll]
    · rw [ScopeOp.addedTo_of_ne same, step, modifyFrame]
      split
      · exact found
      · exact found
      · rename_i known
        rw [handle?_setHandle known, if_neg (Ne.symm same)]
        exact found

theorem handle?_foldl_step_of_detached (found : held.handle? name = some (.detached frame))
    (ops : List ScopeOp) : (ops.foldl step held).handle? name =
      some (.detached (frame.addAll (ScopeOp.addedTo name ops))) := by
  induction ops generalizing held frame with
  | nil => exact found
  | cons op rest induction =>
    have added : ScopeOp.addedTo name (op :: rest) =
        ScopeOp.addedTo name [op] ++ ScopeOp.addedTo name rest :=
      ScopeOp.addedTo_append name [op] rest
    rw [List.foldl_cons, induction (handle?_step_of_detached found op), added,
      FieldFrame.addAll_append]

theorem Refines.addDetached {plain : PlainScopes} (refines : held.Refines plain)
    (frame : FieldFrame) :
    (held.addDetached frame).Refines { plain with entered := plain.entered + 1 } := by
  refine ⟨refines.frames, ?_, ?_, refines.resets⟩
  · intro name position
    rw [← refines.handles]
    cases name with
    | outermost number => rfl
    | entered number =>
      by_cases isNew : number = held.handles.size
      · subst isNew
        simp [HeldScopes.addDetached, handle?]
      · simp [HeldScopes.addDetached, handle?, Array.getElem?_push, isNew]
  · exact (Array.size_push _).trans (congrArg (· + 1) refines.entered)

/-- A frame that was never entered stays apart from the stack, whatever is done then: it has
what is added to it, and the frames in the stack are still those of the plain list. -/
theorem Refines.addDetached_stays_apart {plain : PlainScopes} (refines : held.Refines plain)
    (frame : FieldFrame) (ops : List ScopeOp) :
    let name := FrameName.entered held.handles.size
    let after := ops.foldl HeldScopes.step (held.addDetached frame)
    after.frame? held.handles.size = some (frame.addAll (ScopeOp.addedTo name ops)) ∧
      after.Refines (ops.foldl PlainScopes.step { plain with entered := plain.entered + 1 }) := by
  intro name after
  have found : (held.addDetached frame).handle? name = some (.detached frame) := by
    simp [name, HeldScopes.addDetached, handle?]
  refine ⟨?_, (refines.addDetached frame).foldl_step ops⟩
  rw [frame?, handle?_foldl_step_of_detached found ops]
  rfl

end detached

end HeldScopes

end ShadowLint
