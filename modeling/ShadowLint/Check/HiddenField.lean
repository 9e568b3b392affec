import ShadowLint.Check.Core
import ShadowLint.Check.Setter
import ShadowLint.Scope.Stack
import ShadowLint.Tree.Context

/-!
The check for declarations that hide a field. On entering a class it opens a frame
with the fields declared directly in the class body, and on leaving the class it
closes the frame. A local variable or a parameter hides a field if a static field
of its name is visible, or if it stands in no static context and an instance field
of its name is visible. Declarations that an interface governs are not looked at,
and three exemptions silence a finding: by name, for the parameter of a setter,
and for the parameters of constructors.
-/

namespace ShadowLint

structure NameFilter where
  source : String
  ignores : String → Bool

structure HiddenField where
  core : Core
  scopes : ScopeStack
  ignoreFormat : Option NameFilter
  ignoreSetter : Bool
  ignoreConstructorParameter : Bool

namespace HiddenField

def messageKey : String := "hidden.field"

def description : String :=
  "Local variable or parameter shadows a field of the enclosing class"

def declarationKinds : KindSet := .ofList [.variableDef, .parameterDef]

def profileNamed (name sort : String) : Profile :=
  { name, sort
    messages := [(messageKey, "'\x7b0\x7d' hides a field.")]
    defaultKinds := .ofList [.variableDef, .parameterDef, .classDef]
    acceptableKinds := declarationKinds
    requiredKinds := .ofList [.classDef] }

def profile : Profile := profileNamed "HiddenField" "HiddenFieldCheck"

def ofProfile (profile : Profile) : HiddenField :=
  { core := .ofProfile profile, scopes := .initial, ignoreFormat := none
    ignoreSetter := false, ignoreConstructorParameter := false }

def initial : HiddenField := ofProfile profile

/-! ## Fields of a class -/

/-- Adds the fields among the members of a class body to a frame, up to the first
one that has no name. -/
def collectFields (frame : FieldFrame) : List Tree → FieldFrame × Option ContractError
  | [] => (frame, none)
  | member :: rest =>
    if member.kind = .variableDef then
      match member.firstOf? .ident with
      | none => (frame, some (.noIdent member))
      | some ident => collectFields (frame.add member.isDeclaredStatic ident.text) rest
    else collectFields frame rest

def enterClass (check : HiddenField) (site : Site) : Reached HiddenField :=
  let isStatic := site.node.isDeclaredStatic
  let scopes := check.scopes.enter isStatic
  let journal := #[.enteredScope scopes.depth isStatic]
  match site.node.firstOf? .objBlock with
  | none => ⟨{ check with scopes }, journal, some (.contract (.noBody site.node))⟩
  | some body =>
    let (frame, error) := collectFields scopes.current body.children
    ⟨{ check with scopes := scopes.modifyCurrent fun _ => frame }, journal,
      error.map .contract⟩

def leaveClass (check : HiddenField) : Reached HiddenField :=
  match check.scopes.leave with
  | .error error => .refused check (.contract error)
  | .ok scopes => ⟨{ check with scopes }, #[.leftScope scopes.depth], none⟩

/-! ## Exemptions -/

def ignoresName (check : HiddenField) (name : String) : Bool :=
  match check.ignoreFormat with
  | none => false
  | some filter => filter.ignores name

/-- Is the node the only parameter of the setter for `name`, a method that returns
nothing, and are setters ignored? A method without a name breaks the contract. -/
def ignoresSetterParameter (check : HiddenField) (site : Site) (name : String) :
    Except ContractError Bool :=
  if site.kind ≠ .parameterDef ∨ check.ignoreSetter = false then .ok false
  else
    match site.parent? with
    | none => .ok false
    | some parameters =>
      if parameters.countOf .parameterDef ≠ 1 then .ok false
      else
        match site.grandparent? with
        | none => .ok false
        | some method =>
          if method.kind ≠ .methodDef then .ok false
          else
            match method.firstOf? .ident with
            | none => .error (.noIdent method)
            | some ident =>
              if ident.text ≠ setterName name then .ok false
              else
                match method.firstOf? .typeName with
                | none => .ok false
                | some type => .ok (type.branchContains .literalVoid)

def ignoresConstructorParameter (check : HiddenField) (site : Site) : Bool :=
  if site.kind ≠ .parameterDef ∨ check.ignoreConstructorParameter = false then false
  else
    match site.grandparent? with
    | none => false
    | some constructor => constructor.kind == .ctorDef

def exempts (check : HiddenField) (site : Site) (name : String) :
    Except ContractError Bool :=
  if check.ignoresName name then .ok true
  else
    match check.ignoresSetterParameter site name with
    | .error error => .error error
    | .ok true => .ok true
    | .ok false => .ok (check.ignoresConstructorParameter site)

/-! ## Declarations -/

def hidesField (check : HiddenField) (site : Site) (name : String) : Bool :=
  check.scopes.seesStatic name || (!site.inStatic && check.scopes.seesInstance name)

def isCandidate (site : Site) : Bool :=
  !site.inInterface && (site.isLocal || site.kind == .parameterDef)

def processDeclaration (check : HiddenField) (site : Site) : Reached HiddenField :=
  if isCandidate site then
    match site.node.firstOf? .ident with
    | none => .refused check (.contract (.noIdent site.node))
    | some ident =>
      if check.hidesField site ident.text then
        match check.exempts site ident.text with
        | .error error => .refused check (.contract error)
        | .ok true => .done check
        | .ok false =>
          (check.core.report ident.label messageKey [.text ident.text]).map fun core =>
            { check with core }
      else .done check
  else .done check

/-! ## Calls of a walk -/

def beginTree (check : HiddenField) : HiddenField := { check with scopes := .initial }

def visit (check : HiddenField) (site : Site) : Reached HiddenField :=
  match site.kind with
  | .classDef => check.enterClass site
  | .variableDef | .parameterDef => check.processDeclaration site
  | _ => .refused check (.contract (.unexpected check.core.profile.name site.node))

def leave (check : HiddenField) (site : Site) : Reached HiddenField :=
  match site.kind with
  | .classDef => check.leaveClass
  | .variableDef | .parameterDef => .done check
  | _ => .refused check (.contract (.unexpected check.core.profile.name site.node))

/-- What is noted after a tree: classes that are still open. -/
def finishTree (check : HiddenField) : Journal :=
  if check.scopes.depth = 0 then #[]
  else #[.scopesOpen check.core.profile.name check.scopes.depth]

end HiddenField

end ShadowLint
