import ShadowLint.Json.Writer
import ShadowLint.Severity

/-!
What a check reports, and the two forms in which it is written out.
-/

namespace ShadowLint

structure Violation where
  line : Int
  column : Int
  key : String
  arguments : List Value
  message : String
  severity : Severity
  checkName : String
  file : String
  deriving Inhabited, Repr

namespace Violation

def toValue (violation : Violation) : Value :=
  .object [
    ("file", .text violation.file),
    ("line", .int violation.line),
    ("column", .int violation.column),
    ("severity", .text violation.severity.name),
    ("key", .text violation.key),
    ("args", .list violation.arguments),
    ("message", .text violation.message),
    ("check", .text violation.checkName)]

def toJson (violation : Violation) : String := Json.write violation.toValue

def toLine (violation : Violation) : String :=
  let place := s!"{violation.file}:{violation.line}:{violation.column}"
  s!"{place}: {violation.severity.name}: {violation.message} [{violation.key}]"

end Violation

end ShadowLint
