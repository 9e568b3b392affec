import ShadowLint.Tree

/-!
What surrounds a declaration: whether an interface governs it, whether it is
local, and whether it stands in a static context. The questions are answered
from the ancestors alone, innermost first, and are stated for any representation
of nodes.
-/

namespace ShadowLint

namespace Context

def inInterface {Node : Type} (kindOf : Node → Kind) : (ancestors : List Node) → Bool
  | [] => false
  | ancestor :: outer =>
    match kindOf ancestor with
    | .classDef => false
    | .interfaceDef => true
    | _ => inInterface kindOf outer

def declaresLocals : Kind → Bool
  | .statementList | .forInit | .forEachClause => true
  | _ => false

def isLocal (kind : Kind) : (parent : Option Kind) → Bool
  | none => false
  | some parent =>
    match kind with
    | .variableDef => declaresLocals parent
    | .parameterDef => parent == .literalCatch
    | _ => false

/-- Is there an enclosing static initializer, or a static method, before the
first method or type definition that ends the search? -/
def inStatic {Node : Type} (kindOf : Node → Kind) (isDeclaredStatic : Node → Bool) :
    (ancestors : List Node) → Bool
  | [] => false
  | ancestor :: outer =>
    match kindOf ancestor with
    | .staticInit => true
    | .methodDef => isDeclaredStatic ancestor
    | .classDef | .interfaceDef => false
    | _ => inStatic kindOf isDeclaredStatic outer

end Context

namespace Site

def inInterface (site : Site) : Bool := Context.inInterface Tree.kind site.ancestors

def isLocal (site : Site) : Bool :=
  Context.isLocal site.kind (site.parent?.map Tree.kind)

def inStatic (site : Site) : Bool :=
  Context.inStatic Tree.kind Tree.isDeclaredStatic site.ancestors

end Site

end ShadowLint
