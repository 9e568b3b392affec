import ShadowLint.Config.Configure

/-!
The checks that can be asked for by name.
-/

namespace ShadowLint

structure CheckConfig where
  name : String
  properties : List (String × Value)

structure Registry where
  entries : List (String × Check)

namespace Registry

def standard : Registry := ⟨[(HiddenField.profile.name, .hiddenField .initial)]⟩

/-- A registry of checks for hidden fields under other names; each is its own sort. -/
def ofNames (names : List String) : Registry :=
  ⟨membersOf (names.map fun name =>
    (name, .hiddenField (.ofProfile (HiddenField.profileNamed name name))))⟩

def names (registry : Registry) : List String :=
  (registry.entries.map Prod.fst).mergeSort (· ≤ ·)

def make (registry : Registry) (name : String) : Except ConfigurationError Check :=
  match registry.entries.lookup name with
  | some check => .ok check
  | none => .error (.unknownCheck name registry.names)

def create (registry : Registry) (config : CheckConfig) : Except ConfigurationError Configured :=
  (registry.make config.name).map (·.configure config.properties)

end Registry

end ShadowLint
