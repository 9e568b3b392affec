import ShadowLint.Value
import ShadowLint.Tree

/-!
The common form of errors. Each error of the library is a cause of its own type;
a `Report` is what a cause comes to for the reader: a code, a text, perhaps a
hint, and the details of its family.
-/

namespace ShadowLint

inductive Code where
  | invalidPattern
  | unacceptableToken
  | invalidValue
  | unknownProperty
  | unknownCheck
  | missingChild
  | unbalancedScope
  | unexpectedToken
  | dumpSyntax
  | dumpUnknownToken
  | dumpTooDeep
  | dumpEncoding
  deriving DecidableEq, Repr

namespace Code

def all : List Code := [
  invalidPattern, unacceptableToken, invalidValue, unknownProperty, unknownCheck,
  missingChild, unbalancedScope, unexpectedToken, dumpSyntax, dumpUnknownToken,
  dumpTooDeep, dumpEncoding]

def identifier : Code → String
  | invalidPattern => "HF-1001"
  | unacceptableToken => "HF-1002"
  | invalidValue => "HF-1003"
  | unknownProperty => "HF-1004"
  | unknownCheck => "HF-1005"
  | missingChild => "HF-2001"
  | unbalancedScope => "HF-2002"
  | unexpectedToken => "HF-2003"
  | dumpSyntax => "HF-3001"
  | dumpUnknownToken => "HF-3002"
  | dumpTooDeep => "HF-3003"
  | dumpEncoding => "HF-3004"

def name : Code → String
  | invalidPattern => "INVALID_PATTERN"
  | unacceptableToken => "UNACCEPTABLE_TOKEN"
  | invalidValue => "INVALID_VALUE"
  | unknownProperty => "UNKNOWN_PROPERTY"
  | unknownCheck => "UNKNOWN_CHECK"
  | missingChild => "MISSING_CHILD"
  | unbalancedScope => "UNBALANCED_SCOPE"
  | unexpectedToken => "UNEXPECTED_TOKEN"
  | dumpSyntax => "DUMP_SYNTAX"
  | dumpUnknownToken => "DUMP_UNKNOWN_TOKEN"
  | dumpTooDeep => "DUMP_TOO_DEEP"
  | dumpEncoding => "DUMP_ENCODING"

def title : Code → String
  | invalidPattern => "invalid ignore pattern"
  | unacceptableToken => "token not acceptable"
  | invalidValue => "invalid property value"
  | unknownProperty => "unknown property"
  | unknownCheck => "unknown check"
  | missingChild => "required child node missing"
  | unbalancedScope => "scope stack unbalanced"
  | unexpectedToken => "token not handled by check"
  | dumpSyntax => "malformed tree dump"
  | dumpUnknownToken => "unknown token name"
  | dumpTooDeep => "tree nested too deeply"
  | dumpEncoding => "dump file is not valid text"

def ofName? (name : String) : Option Code := all.find? (·.name == name)

end Code

namespace Report

inductive Detail where
  | general
  | configuration (property : String) (value : Value)
  | contract (node : Option Label)
  | dump (source : String) (line column : Int)

def Detail.defaultCode : Detail → Code
  | general => .invalidValue
  | configuration _ _ => .invalidValue
  | contract _ => .missingChild
  | dump _ _ _ => .dumpSyntax

end Report

structure Report where
  code : Code
  text : String
  hint : String
  detail : Report.Detail

namespace Report

/-- The whole message: the code, the text, and the hint if there is one. A dump
error starts with its place. -/
def message (report : Report) : String :=
  let hint := if report.hint.isEmpty then "" else s!" (hint: {report.hint})"
  let text := s!"[{report.code.identifier}] {report.text}{hint}"
  match report.detail with
  | .dump source line column => s!"{source}:{line}:{column}: {text}"
  | _ => text

end Report

def Label.describe (label : Label) : String :=
  s!"{label.kind.name}[{label.line}x{label.column}] {Text.quoted label.text}"

example : (Label.make .ident "x" 3 18).describe = "IDENT[3x18] 'x'" := by decide +kernel

end ShadowLint
