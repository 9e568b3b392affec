import ShadowLint.Check
import ShadowLint.Config.Conversion

/-!
The properties of checks and how they are set. Every setter either changes the
one setting it is for or leaves the check as it is.
-/

namespace ShadowLint

/-! ## Settings of all checks -/

namespace Core

def acceptedKind (core : Core) (kind : Kind) : Except ConfigurationError Kind :=
  if core.profile.acceptableKinds.has kind then .ok kind
  else .error (.unacceptableKind kind core.profile.name core.profile.acceptableKinds.names)

def restrictToKinds (core : Core) (kinds : List Kind) : Except ConfigurationError Core := do
  let accepted ← kinds.mapM core.acceptedKind
  return { core with chosenKinds := some (.ofList accepted) }

def restrictToNames (core : Core) (names : List String) : Except ConfigurationError Core := do
  let accepted ← names.mapM fun name => Conversion.kindOf name >>= core.acceptedKind
  return { core with chosenKinds := some (.ofList accepted) }

end Core

/-! ## Settings of the check for hidden fields -/

namespace HiddenField

def filterOf (pattern : String) : Except SettingFault NameFilter :=
  match Pattern.read pattern with
  | .ok regex => .ok { source := pattern, ignores := regex.isFoundIn }
  | .error (.malformed cause offset) =>
    .error (.refused (.invalidPattern pattern (cause.message offset pattern)))
  | .error fault => .error (.unreadablePattern fault)

def setIgnoreFormat (check : HiddenField) (pattern : String) :
    Except SettingFault HiddenField :=
  if pattern = "" then .ok { check with ignoreFormat := none }
  else (filterOf pattern).map fun filter => { check with ignoreFormat := some filter }

end HiddenField

/-! ## Properties by name -/

inductive Property where
  | tokens
  | severity
  | ignoreFormat
  | ignoreSetter
  | ignoreConstructorParameter
  deriving DecidableEq, Repr

namespace Property

def all : List Property := [
  tokens, severity, ignoreFormat, ignoreSetter, ignoreConstructorParameter]

def name : Property → String
  | tokens => "tokens"
  | severity => "severity"
  | ignoreFormat => "ignoreFormat"
  | ignoreSetter => "ignoreSetter"
  | ignoreConstructorParameter => "ignoreConstructorParameter"

def ofName? (name : String) : Option Property := all.find? (·.name == name)

@[simp] theorem ofName?_name (property : Property) : ofName? property.name = some property := by
  cases property <;> decide

end Property

namespace Check

def properties : Check → List Property
  | hiddenField _ => Property.all
  | recorder _ => [.tokens, .severity]

def propertyNames (check : Check) : List String :=
  (check.properties.map Property.name).mergeSort (· ≤ ·)

def setKindNames (check : Check) (names : List String) : Except ConfigurationError Check :=
  (check.core.restrictToNames names).map check.withCore

def setKinds (check : Check) (kinds : List Kind) : Except ConfigurationError Check :=
  (check.core.restrictToKinds kinds).map check.withCore

def setSeverity (check : Check) (severity : Severity) : Check :=
  check.withCore { check.core with severity }

def modifyHiddenField (check : Check)
    (change : HiddenField → Except SettingFault HiddenField) : Except SettingFault Check :=
  match check with
  | hiddenField check => (change check).map hiddenField
  | recorder check => .ok (recorder check)

def set (check : Check) (property : Property) (value : Value) : Except SettingFault Check :=
  match property with
  | .tokens => do
    let names ← Conversion.toNames value
    (check.setKindNames names).mapError .refused
  | .severity => return check.setSeverity (← Conversion.toSeverity value)
  | .ignoreFormat =>
    check.modifyHiddenField (·.setIgnoreFormat (Conversion.toPatternText value))
  | .ignoreSetter => do
    let ignoreSetter ← (Conversion.toBool property.name value).mapError .refused
    check.modifyHiddenField fun check => .ok { check with ignoreSetter }
  | .ignoreConstructorParameter => do
    let ignoreConstructorParameter ←
      (Conversion.toBool property.name value).mapError .refused
    check.modifyHiddenField fun check => .ok { check with ignoreConstructorParameter }

def property? (check : Check) (name : String) : Option Property :=
  (Property.ofName? name).filter check.properties.contains

end Check

end ShadowLint
