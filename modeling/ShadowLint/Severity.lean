import ShadowLint.Text.Blank
import ShadowLint.Text.CaseMapping

/-!
How serious the findings of a check are.
-/

namespace ShadowLint

inductive Severity where
  | ignore
  | info
  | warning
  | error
  deriving DecidableEq, Repr, Inhabited

namespace Severity

def all : List Severity := [ignore, info, warning, error]

def name : Severity → String
  | ignore => "ignore"
  | info => "info"
  | warning => "warning"
  | error => "error"

def ofName? (name : String) : Option Severity := all.find? (·.name == name)

/-- The severity meant by a text: case and surrounding white space do not matter. -/
def ofText? (text : String) : Option Severity :=
  ofName? (Text.lowercase (Text.trim text))

@[simp] theorem ofName?_name (severity : Severity) : ofName? severity.name = some severity := by
  cases severity <;> decide

example : ofText? " Warning\n" = some warning := by decide +kernel

end Severity

end ShadowLint
