import ShadowLint.Proofs.Check.Configured

/-!
What can have been done to a check. A call that configures a check and fails leaves
what it had done until then: nothing, or the properties before the one that could not
be set. Whatever calls were made, a check for hidden fields stays lawful
(`HiddenField.IsConfigured.lawful`).
-/

namespace ShadowLint

inductive ConfigCall where
  | kindNames (names : List String)
  | kinds (kinds : List Kind)
  | severityText (value : Value)
  | severity (severity : Severity)
  | ignoreFormat (pattern : String)
  | ignoreSetter (ignore : Bool)
  | ignoreConstructorParameter (ignore : Bool)
  | properties (properties : List (String × Value))

namespace Check

def orKept {Fault : Type} (check : Check) : Except Fault Check → Check
  | .ok changed => changed
  | .error _ => check

def after (check : Check) : ConfigCall → Check
  | .kindNames names => check.orKept (check.setKindNames names)
  | .kinds kinds => check.orKept (check.setKinds kinds)
  | .severityText value => check.orKept ((Conversion.toSeverity value).map check.setSeverity)
  | .severity severity => check.setSeverity severity
  | .ignoreFormat pattern => check.orKept (check.modifyHiddenField (·.setIgnoreFormat pattern))
  | .ignoreSetter ignore =>
    check.orKept (check.modifyHiddenField fun check => .ok { check with ignoreSetter := ignore })
  | .ignoreConstructorParameter ignore =>
    check.orKept (check.modifyHiddenField fun check =>
      .ok { check with ignoreConstructorParameter := ignore })
  | .properties properties => (check.configure properties).check

theorem orKept_of {Holds : Check → Prop} {Fault : Type} {check : Check} (holds : Holds check)
    {answer : Except Fault Check} (succeeds : ∀ changed, answer = .ok changed → Holds changed) :
    Holds (check.orKept answer) := by
  cases answer with
  | ok changed => exact succeeds changed rfl
  | error fault => exact holds

namespace KeptBySettings

variable {Holds : Check → Prop} (kept : KeptBySettings Holds) {check : Check}
  (holds : Holds check)

include kept holds

theorem after (call : ConfigCall) : Holds (check.after call) := by
  cases call with
  | kindNames names => exact orKept_of holds fun changed => kept.setKindNames holds
  | kinds kinds => exact orKept_of holds fun changed => kept.setKinds holds
  | severityText value =>
    refine orKept_of holds fun changed succeeded => ?_
    rcases Success.of_map succeeded with ⟨severity, -, rfl⟩
    exact kept.severity check severity holds
  | severity severity => exact kept.severity check severity holds
  | ignoreFormat pattern =>
    exact orKept_of holds fun changed =>
      kept.modifyHiddenField holds (HiddenField.changesOptions_ignoreFormat pattern)
  | ignoreSetter ignore =>
    exact orKept_of holds fun changed =>
      kept.modifyHiddenField holds (HiddenField.changesOptions_ignoreSetter ignore)
  | ignoreConstructorParameter ignore =>
    exact orKept_of holds fun changed =>
      kept.modifyHiddenField holds (HiddenField.changesOptions_ignoreConstructorParameter ignore)
  | properties properties => exact kept.configure holds properties

theorem afterAll (calls : List ConfigCall) : Holds (calls.foldl Check.after check) := by
  induction calls generalizing check with
  | nil => exact holds
  | cons call rest induction => exact induction (kept.after holds call)

end KeptBySettings

end Check

namespace HiddenField

/-- The check was made and then configured, with or without success. -/
def IsConfigured (check : HiddenField) : Prop :=
  ∃ calls : List ConfigCall, calls.foldl Check.after (.hiddenField .initial) = .hiddenField check

theorem IsConfigured.lawful {check : HiddenField} (configured : check.IsConfigured) :
    check.Lawful := by
  rcases configured with ⟨calls, reached⟩
  have kept := Check.isLawful_kept.afterAll Check.isLawful_initial calls
  rcases reached ▸ kept with ⟨hider, same, lawful⟩
  exact Check.hiddenField.inj same ▸ lawful

end HiddenField

end ShadowLint
