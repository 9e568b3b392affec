import ShadowLint.Config.Property

/-!
Configuring a check by properties: they are set in order, and the first that
cannot be set ends it, with the ones before it kept.
-/

namespace ShadowLint

structure Configured where
  check : Check
  journal : Journal
  fault : Option SettingFault

namespace Check

def configure (check : Check) : (properties : List (String × Value)) → Configured
  | [] => ⟨check, #[], none⟩
  | (name, value) :: rest =>
    match check.property? name with
    | none =>
      ⟨check, #[], some (.refused
        (.unknownProperty name check.core.profile.name value check.propertyNames))⟩
    | some property =>
      let noted := Entry.setting check.core.profile.name name value
      match check.set property value with
      | .error fault => ⟨check, #[noted], some fault⟩
      | .ok check =>
        let others := configure check rest
        { others with journal := #[noted] ++ others.journal }

end Check

end ShadowLint
