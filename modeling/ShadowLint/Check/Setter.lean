import ShadowLint.Text.CaseMapping

/-!
The name of the method that sets a property.
-/

namespace ShadowLint

/-- The setter of `xyz` is `setXyz`: the first character is put into upper case,
which may make it several. -/
def setterName (name : String) : String :=
  match name.toList with
  | [] => "set"
  | first :: rest => "set" ++ String.ofList (Text.fullUpper first ++ rest)

example : setterName "xyz" = "setXyz" := by decide +kernel

end ShadowLint
