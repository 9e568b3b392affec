import ShadowLint.Check.HiddenField
import ShadowLint.Proofs.Tree.Search

/-!
The rule for hidden fields, said of a tree alone: what a class declares, which
declarations may hide a field and which do, which of them are exempt, and which
nodes break what the rule relies on. Everything is asked of a node and of the
nodes that enclose it; there is no stack of scopes, and the order in which the
members of a class stand does not matter.
-/

namespace ShadowLint

namespace Tree

/-- The name that a declaration gives: the text of its first name node. -/
def declaredName? (tree : Tree) : Option String := (tree.firstOf? .ident).map text

/-- The members of a class: the children of its first body. -/
def members (type : Tree) : List Tree := ((type.firstOf? .objBlock).map children).getD []

def SomeField (members : List Tree) (isStatic : Bool) (name : String) : Prop :=
  ∃ member ∈ members, member.kind = .variableDef ∧ member.declaredName? = some name ∧
    (isStatic = true ↔ member.IsStatic)

def Declares (type : Tree) (isStatic : Bool) (name : String) : Prop :=
  SomeField type.members isStatic name

def IsNamelessField (member : Tree) : Prop :=
  member.kind = .variableDef ∧ member.firstOf? .ident = none

instance (members : List Tree) (isStatic : Bool) (name : String) :
    Decidable (SomeField members isStatic name) :=
  inferInstanceAs (Decidable (∃ member ∈ members, _))

instance (type : Tree) (isStatic : Bool) (name : String) :
    Decidable (type.Declares isStatic name) :=
  inferInstanceAs (Decidable (SomeField type.members isStatic name))

instance (member : Tree) : Decidable member.IsNamelessField :=
  inferInstanceAs (Decidable (_ ∧ member.firstOf? .ident = none))

end Tree

namespace Site

def nearest? (site : Site) (kinds : List Kind) : Option Tree :=
  site.ancestors.find? fun ancestor => kinds.contains ancestor.kind

def classes (site : Site) : List Tree :=
  site.ancestors.filter fun ancestor => ancestor.kind = .classDef

def IsGovernedByInterface (site : Site) : Prop :=
  ∃ type ∈ site.nearest? [.classDef, .interfaceDef], type.kind = .interfaceDef

/-- The nearest enclosing method, initializer or type definition is a static
method or a static initializer. -/
def InStaticContext (site : Site) : Prop :=
  ∃ owner ∈ site.nearest? [.staticInit, .methodDef, .classDef, .interfaceDef],
    owner.kind = .staticInit ∨ owner.kind = .methodDef ∧ owner.IsStatic

def IsCandidate (site : Site) : Prop :=
  ¬ site.IsGovernedByInterface ∧
    (site.kind = .parameterDef ∨
      site.kind = .variableDef ∧
        ∃ parent ∈ site.parent?, parent.kind ∈ [.statementList, .forInit, .forEachClause])

/-- One of the classes, given innermost first, declares an instance field of this
name, and no class inside of it is static. -/
def ReachesInstance (name : String) (classes : List Tree) : Prop :=
  ∃ position < classes.length, (∃ type ∈ classes[position]?, type.Declares false name) ∧
    ∀ inner ∈ classes.take position, ¬ inner.IsStatic

/-- A field of this name is visible where the node stands: a static field of an
enclosing class, or, outside of static contexts, an instance field of one that no
static class separates from the node. -/
def HidesField (site : Site) (name : String) : Prop :=
  (∃ type ∈ site.classes, type.Declares true name) ∨
    ¬ site.InStaticContext ∧ ReachesInstance name site.classes

def IsOnlyParameter (site : Site) : Prop :=
  site.kind = .parameterDef ∧ ∃ parameters ∈ site.parent?, parameters.countOf .parameterDef = 1

/-- The node is the parameter of the setter for the name: a method with that one
parameter that returns nothing. -/
def IsSetterParameter (site : Site) (name : String) : Prop :=
  site.IsOnlyParameter ∧ ∃ method ∈ site.grandparent?, method.kind = .methodDef ∧
    method.declaredName? = some (setterName name) ∧
    ∃ type ∈ method.firstOf? .typeName, type.Holds .literalVoid

/-- The node is the only parameter of a method without a name, so that it cannot be
told whether the method is a setter. -/
def HasNamelessMethod (site : Site) (method : Tree) : Prop :=
  site.IsOnlyParameter ∧ site.grandparent? = some method ∧ method.kind = .methodDef ∧
    method.firstOf? .ident = none

def IsConstructorParameter (site : Site) : Prop :=
  site.kind = .parameterDef ∧ ∃ constructor ∈ site.grandparent?, constructor.kind = .ctorDef

instance (site : Site) : Decidable site.IsGovernedByInterface :=
  inferInstanceAs (Decidable (∃ type ∈ site.nearest? _, type.kind = .interfaceDef))

instance (site : Site) : Decidable site.InStaticContext :=
  inferInstanceAs (Decidable (∃ owner ∈ site.nearest? _, _ ∨ _))

instance (site : Site) : Decidable site.IsCandidate :=
  inferInstanceAs (Decidable (_ ∧ _))

instance (name : String) (classes : List Tree) : Decidable (ReachesInstance name classes) :=
  inferInstanceAs (Decidable (∃ position < classes.length, _))

instance (site : Site) (name : String) : Decidable (site.HidesField name) :=
  inferInstanceAs (Decidable (_ ∨ _))

instance (site : Site) : Decidable site.IsOnlyParameter :=
  inferInstanceAs (Decidable (_ ∧ _))

instance (site : Site) (name : String) : Decidable (site.IsSetterParameter name) :=
  inferInstanceAs (Decidable (_ ∧ _))

instance (site : Site) : Decidable site.IsConstructorParameter :=
  inferInstanceAs (Decidable (_ ∧ _))

end Site

namespace HiddenField

structure Settings where
  kinds : KindSet
  severity : Severity
  ignoreFormat : Option NameFilter
  ignoreSetter : Bool
  ignoreConstructorParameter : Bool

def settings (check : HiddenField) : Settings :=
  { kinds := check.core.kinds, severity := check.core.severity
    ignoreFormat := check.ignoreFormat, ignoreSetter := check.ignoreSetter
    ignoreConstructorParameter := check.ignoreConstructorParameter }

namespace Settings

variable (settings : Settings)

def Watches (site : Site) : Prop :=
  settings.kinds.has site.kind = true ∧ site.IsCandidate

def IgnoresName (name : String) : Prop :=
  ∃ filter ∈ settings.ignoreFormat, filter.ignores name = true

def Exempts (site : Site) (name : String) : Prop :=
  settings.IgnoresName name ∨
    settings.ignoreSetter = true ∧ site.IsSetterParameter name ∨
    settings.ignoreConstructorParameter = true ∧ site.IsConstructorParameter

def Reports (site : Site) (name : String) : Prop :=
  settings.Watches site ∧ site.HidesField name ∧ ¬ settings.Exempts site name

instance (site : Site) : Decidable (settings.Watches site) :=
  inferInstanceAs (Decidable (_ ∧ _))

instance (name : String) : Decidable (settings.IgnoresName name) :=
  inferInstanceAs (Decidable (∃ filter ∈ settings.ignoreFormat, _))

instance (site : Site) (name : String) : Decidable (settings.Exempts site name) :=
  inferInstanceAs (Decidable (_ ∨ _ ∨ _))

instance (site : Site) (name : String) : Decidable (settings.Reports site name) :=
  inferInstanceAs (Decidable (_ ∧ _ ∧ _))

def finding (file : String) (ident : Tree) : Violation :=
  { line := ident.label.line, column := ident.label.column, key := "hidden.field"
    arguments := [.text ident.text], message := "'" ++ ident.text ++ "' hides a field."
    severity := settings.severity, checkName := "HiddenField", file }

def finding? (file : String) (site : Site) : Option Violation :=
  ((site.node.firstOf? .ident).filter fun ident => settings.Reports site ident.text).map
    (settings.finding file)

def findings (file : String) (sites : List Site) : List Violation :=
  sites.filterMap (settings.finding? file)

/-- A node breaks what the rule relies on, and this is the error about it. -/
inductive Breaks (site : Site) : ContractError → Prop
  | noBody : site.kind = .classDef → site.node.firstOf? .objBlock = none →
      Breaks site (.noBody site.node)
  /-- A class has a field without a name; the error is about the first one. -/
  | namelessField {member : Tree} : site.kind = .classDef →
      site.node.members.find? (fun member => member.IsNamelessField) = some member →
      Breaks site (.noIdent member)
  | nameless : settings.Watches site → site.node.firstOf? .ident = none →
      Breaks site (.noIdent site.node)
  /-- The parameters of setters are exempt, and the method whose only parameter hides
  a field has no name. -/
  | namelessMethod {name : String} {method : Tree} : settings.ignoreSetter = true →
      settings.Watches site → site.node.declaredName? = some name → site.HidesField name →
      ¬ settings.IgnoresName name → site.HasNamelessMethod method →
      Breaks site (.noIdent method)

def IsFaulty (site : Site) : Prop := ∃ error, settings.Breaks site error

theorem isFaulty_iff (site : Site) :
    settings.IsFaulty site ↔
      (site.kind = .classDef ∧ site.node.firstOf? .objBlock = none) ∨
      (site.kind = .classDef ∧ ∃ member ∈ site.node.members, member.IsNamelessField) ∨
      (settings.Watches site ∧ site.node.firstOf? .ident = none) ∨
      (settings.ignoreSetter = true ∧ settings.Watches site ∧
        (∃ name ∈ site.node.declaredName?,
          site.HidesField name ∧ ¬ settings.IgnoresName name) ∧
        site.IsOnlyParameter ∧ ∃ method ∈ site.grandparent?,
          method.kind = .methodDef ∧ method.firstOf? .ident = none) := by
  constructor
  · rintro ⟨error, breaks⟩
    cases breaks with
    | noBody isClass missing => exact .inl ⟨isClass, missing⟩
    | namelessField isClass found =>
      have nameless := List.find?_some found
      exact .inr (.inl ⟨isClass, _, List.mem_of_find?_eq_some found, of_decide_eq_true nameless⟩)
    | nameless watches missing => exact .inr (.inr (.inl ⟨watches, missing⟩))
    | namelessMethod on watches name hides kept method =>
      rcases method with ⟨only, grandparent, nameless⟩
      exact .inr (.inr (.inr
        ⟨on, watches, ⟨_, name, hides, kept⟩, only, _, grandparent, nameless⟩))
  · rintro (⟨isClass, missing⟩ | ⟨isClass, member, inside, nameless⟩ | ⟨watches, missing⟩ |
      ⟨on, watches, ⟨name, declared, hides, kept⟩, only, method, grandparent, nameless⟩)
    · exact ⟨_, .noBody isClass missing⟩
    · cases found : site.node.members.find? fun member => member.IsNamelessField with
      | none => exact absurd nameless (by simpa using List.find?_eq_none.mp found member inside)
      | some first => exact ⟨_, .namelessField isClass found⟩
    · exact ⟨_, .nameless watches missing⟩
    · exact ⟨_, .namelessMethod on watches declared hides kept ⟨only, grandparent, nameless⟩⟩

instance (site : Site) : Decidable (settings.IsFaulty site) :=
  decidable_of_iff' _ (settings.isFaulty_iff site)

end Settings

end HiddenField

end ShadowLint
