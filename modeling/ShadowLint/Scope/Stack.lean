import ShadowLint.Contract
import ShadowLint.Scope.Frame

/-!
The frames of the classes that are open around a point of a walk. Looking a name
up follows the frames from the innermost one to the enclosing ones: a static
field is visible all the way out, an instance field up to and including the
first frame of a static class.
-/

namespace ShadowLint

/-- The frames of the open classes, outermost first, above the frame that stands
for everything outside of classes. -/
structure ScopeStack where
  base : FieldFrame
  opened : Array FieldFrame
  deriving DecidableEq, Repr, Inhabited

namespace ScopeStack

def initial : ScopeStack := ⟨.outermost, #[]⟩

def depth (scopes : ScopeStack) : Nat := scopes.opened.size

def frames (scopes : ScopeStack) : List FieldFrame := scopes.base :: scopes.opened.toList

def frameAt? (scopes : ScopeStack) : (position : Nat) → Option FieldFrame
  | 0 => some scopes.base
  | position + 1 => scopes.opened[position]?

def current (scopes : ScopeStack) : FieldFrame := scopes.opened.back?.getD scopes.base

def enter (scopes : ScopeStack) (isStatic : Bool) : ScopeStack :=
  { scopes with opened := scopes.opened.push (.empty isStatic (some scopes.depth)) }

def leave (scopes : ScopeStack) : Except ContractError ScopeStack :=
  match scopes.current.parent with
  | none => .error .unbalanced
  | some _ => .ok { scopes with opened := scopes.opened.pop }

def modifyAt (scopes : ScopeStack) (position : Nat) (change : FieldFrame → FieldFrame) :
    ScopeStack :=
  match position with
  | 0 => { scopes with base := change scopes.base }
  | position + 1 => { scopes with opened := scopes.opened.modify position change }

def modifyCurrent (scopes : ScopeStack) (change : FieldFrame → FieldFrame) : ScopeStack :=
  scopes.modifyAt scopes.depth change

/-! ## Visibility -/

/-- The frames met on the way out from a position. A frame that names no earlier
position as the enclosing one is the last. -/
def chainFrom (scopes : ScopeStack) (position : Nat) : List FieldFrame :=
  match scopes.frameAt? position with
  | none => []
  | some frame =>
    match frame.parent with
    | none => [frame]
    | some parent =>
      if parent < position then frame :: scopes.chainFrom parent else [frame]

def chain (scopes : ScopeStack) : List FieldFrame := scopes.chainFrom scopes.depth

def reachesInstance (name : String) : List FieldFrame → Bool
  | [] => false
  | frame :: outer =>
    frame.holdsInstance name || (!frame.isStatic && reachesInstance name outer)

def seesInstance (scopes : ScopeStack) (name : String) : Bool :=
  reachesInstance name scopes.chain

def seesStatic (scopes : ScopeStack) (name : String) : Bool :=
  scopes.chain.any (·.holdsStatic name)

@[simp] theorem depth_initial : initial.depth = 0 := rfl

@[simp] theorem depth_enter (scopes : ScopeStack) (isStatic : Bool) :
    (scopes.enter isStatic).depth = scopes.depth + 1 := by
  simp [enter, depth]

end ScopeStack

end ShadowLint
