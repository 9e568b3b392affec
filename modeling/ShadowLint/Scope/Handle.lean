import ShadowLint.Scope.Stack

/-!
Frames that are held on to. Every frame that was handed out keeps a handle: while
it is open the handle names its position in the stack, and once it is closed the
handle holds the frame itself, so that nothing done to it then can be seen through
the stack.
-/

namespace ShadowLint

inductive FrameHandle where
  | inStack (position : Nat)
  | detached (frame : FieldFrame)
  deriving DecidableEq, Repr, Inhabited

/-- Frames are told apart by the order in which they came to be: those that were entered,
and those that stand for everything outside of classes, one from each reset on. -/
inductive FrameName where
  | entered (number : Nat)
  | outermost (number : Nat)
  deriving DecidableEq, Repr

structure HeldScopes where
  stack : ScopeStack
  handles : Array FrameHandle
  outermost : Array FrameHandle
  deriving DecidableEq, Repr, Inhabited

namespace HeldScopes

def initial : HeldScopes := ⟨.initial, #[], #[.inStack 0]⟩

def handle? (held : HeldScopes) : FrameName → Option FrameHandle
  | .entered number => held.handles[number]?
  | .outermost number => held.outermost[number]?

def frameOf (held : HeldScopes) : FrameHandle → FieldFrame
  | .inStack position => (held.stack.frameAt? position).getD default
  | .detached frame => frame

def frame? (held : HeldScopes) (number : Nat) : Option FieldFrame :=
  (held.handle? (.entered number)).map held.frameOf

/-- Takes a frame out of the stack's care if it is at the position or above. -/
def detachFrom (held : HeldScopes) (lowest : Nat) (handle : FrameHandle) : FrameHandle :=
  match handle with
  | .inStack position =>
    if position < lowest then handle else .detached (held.frameOf handle)
  | .detached _ => handle

def enter (held : HeldScopes) (isStatic : Bool) : HeldScopes :=
  let stack := held.stack.enter isStatic
  { held with stack, handles := held.handles.push (.inStack stack.depth) }

def leave (held : HeldScopes) : Except ContractError HeldScopes :=
  match held.stack.leave with
  | .error error => .error error
  | .ok stack =>
    let detach := held.detachFrom (stack.depth + 1)
    .ok ⟨stack, held.handles.map detach, held.outermost.map detach⟩

def reset (held : HeldScopes) : HeldScopes :=
  let detach := held.detachFrom 0
  ⟨.initial, held.handles.map detach, (held.outermost.map detach).push (.inStack 0)⟩

def addDetached (held : HeldScopes) (frame : FieldFrame) : HeldScopes :=
  { held with handles := held.handles.push (.detached frame) }

def modifyCurrent (held : HeldScopes) (change : FieldFrame → FieldFrame) : HeldScopes :=
  { held with stack := held.stack.modifyCurrent change }

def setHandle (held : HeldScopes) (name : FrameName) (handle : FrameHandle) : HeldScopes :=
  match name with
  | .entered number => { held with handles := held.handles.set! number handle }
  | .outermost number => { held with outermost := held.outermost.set! number handle }

def modifyFrame (held : HeldScopes) (name : FrameName) (change : FieldFrame → FieldFrame) :
    HeldScopes :=
  match held.handle? name with
  | none => held
  | some (.inStack position) => { held with stack := held.stack.modifyAt position change }
  | some (.detached frame) => held.setHandle name (.detached (change frame))

def modify (held : HeldScopes) (number : Nat) (change : FieldFrame → FieldFrame) :
    HeldScopes :=
  held.modifyFrame (.entered number) change

end HeldScopes

end ShadowLint
