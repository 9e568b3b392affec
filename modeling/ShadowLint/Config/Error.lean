import ShadowLint.Report
import ShadowLint.Severity

/-!
Why a configuration is refused.
-/

namespace ShadowLint

inductive ConfigurationError where
  | unknownSeverity (given : String)
  | unknownKind (given : String)
  | unacceptableKind (kind : Kind) (checkName : String) (acceptable : List String)
  | notBoolean (property : String) (given : Value)
  | invalidPattern (pattern : String) (reason : String)
  | unknownProperty (property : String) (checkName : String) (given : Value)
      (known : List String)
  | unknownCheck (name : String) (known : List String)
  | unreadable (path : String) (reason : String)
  | notAnObject (path : String)
  | propertiesNotObject (checkName : String) (given : Value)

namespace ConfigurationError

def code : ConfigurationError → Code
  | unknownKind _ => .unacceptableToken
  | unacceptableKind _ _ _ => .unacceptableToken
  | invalidPattern _ _ => .invalidPattern
  | unknownProperty _ _ _ _ => .unknownProperty
  | unknownCheck _ _ => .unknownCheck
  | _ => .invalidValue

def text : ConfigurationError → String
  | unknownSeverity given => s!"unknown severity {Text.quoted given}"
  | unknownKind given => s!"unknown token {Text.quoted given}"
  | unacceptableKind kind checkName _ =>
    s!"token {kind.name} is not acceptable for {checkName}"
  | notBoolean _ given => s!"cannot convert {given.literal} to a boolean"
  | invalidPattern pattern _ => s!"unable to parse {pattern}"
  | unknownProperty property checkName _ _ =>
    s!"property {Text.quoted property} does not exist for {checkName}"
  | unknownCheck name _ => s!"unknown check {Text.quoted name}"
  | unreadable path reason => s!"cannot read configuration {path}: {reason}"
  | notAnObject path => s!"configuration {path} must be a JSON object of check modules"
  | propertiesNotObject checkName _ =>
    s!"properties of {Text.quoted checkName} must be an object"

private def listed (names : List String) : String := ", ".intercalate names

def hint : ConfigurationError → String
  | unknownSeverity _ => "expected one of " ++ listed (Severity.all.map Severity.name)
  | unacceptableKind _ _ acceptable => "acceptable: " ++ listed acceptable
  | notBoolean _ _ => "use true or false"
  | invalidPattern _ reason => reason
  | unknownProperty _ _ _ known => "known: " ++ listed known
  | unknownCheck _ known => "known: " ++ listed known
  | _ => ""

/-- The name of the property at fault; empty where it is not about a property. -/
def property : ConfigurationError → String
  | unknownSeverity _ => "severity"
  | unknownKind _ => "tokens"
  | unacceptableKind _ _ _ => "tokens"
  | notBoolean property _ => property
  | invalidPattern _ _ => "ignoreFormat"
  | unknownProperty property _ _ _ => property
  | _ => ""

def value : ConfigurationError → Value
  | unknownSeverity given => .text given
  | unknownKind given => .text given
  | unacceptableKind kind _ _ => .text kind.name
  | notBoolean _ given => given
  | invalidPattern pattern _ => .text pattern
  | unknownProperty _ _ given _ => given
  | unknownCheck name _ => .text name
  | unreadable path _ => .text path
  | notAnObject path => .text path
  | propertiesNotObject _ given => given

def report (error : ConfigurationError) : Report :=
  { code := error.code, text := error.text, hint := error.hint
    detail := .configuration error.property error.value }

end ConfigurationError

end ShadowLint
