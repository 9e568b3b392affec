import ShadowLint.Config.Configure
import ShadowLint.Proofs.Check.Outcome
import ShadowLint.Proofs.Success

/-!
What settings keep. Whatever is set on a check, one by one or many at once, with or
without success, comes down to three changes, and what these keep is kept
(`Check.KeptBySettings`). So every check for hidden fields that configuring can lead to
is lawful, and has the scopes and the findings that it had before.
-/

namespace ShadowLint

namespace Core

def IsRestrictionOf (after core : Core) : Prop :=
  ∃ kinds : List Kind, after = { core with chosenKinds := some (.ofList kinds) } ∧
    ∀ kind ∈ kinds, core.profile.acceptableKinds.has kind = true

variable {core after : Core}

theorem has_of_acceptedKind {kind accepted : Kind}
    (accepts : core.acceptedKind kind = .ok accepted) :
    core.profile.acceptableKinds.has accepted = true := by
  unfold acceptedKind at accepts
  split at accepts
  · rename_i acceptable
    cases accepts
    exact acceptable
  · cases accepts

theorem isRestrictionOf_of_kinds {kinds : List Kind}
    (restricted : core.restrictToKinds kinds = .ok after) : after.IsRestrictionOf core := by
  rcases Success.of_bind restricted with ⟨accepted, each, answered⟩
  exact ⟨accepted, (Except.ok.inj answered).symm,
    Success.of_mapM (fun _ _ => has_of_acceptedKind) each⟩

theorem isRestrictionOf_of_names {names : List String}
    (restricted : core.restrictToNames names = .ok after) : after.IsRestrictionOf core := by
  rcases Success.of_bind restricted with ⟨accepted, each, answered⟩
  refine ⟨accepted, (Except.ok.inj answered).symm, Success.of_mapM ?_ each⟩
  intro name kind meant
  rcases Success.of_bind meant with ⟨named, _, accepts⟩
  exact has_of_acceptedKind accepts

end Core

namespace HiddenField

def ChangesOptions (change : HiddenField → Except SettingFault HiddenField) : Prop :=
  ∀ check changed, change check = .ok changed →
    ∃ ignoreFormat ignoreSetter ignoreConstructorParameter,
      changed = { check with ignoreFormat, ignoreSetter, ignoreConstructorParameter }

theorem changesOptions_ignoreFormat (pattern : String) :
    ChangesOptions (·.setIgnoreFormat pattern) := by
  intro check changed succeeded
  dsimp only [setIgnoreFormat] at succeeded
  split at succeeded
  · cases succeeded
    exact ⟨_, _, _, rfl⟩
  · rcases Success.of_map succeeded with ⟨filter, -, rfl⟩
    exact ⟨_, _, _, rfl⟩

theorem changesOptions_ignoreSetter (ignoreSetter : Bool) :
    ChangesOptions fun check => .ok { check with ignoreSetter } := by
  intro check changed succeeded
  cases succeeded
  exact ⟨_, _, _, rfl⟩

theorem changesOptions_ignoreConstructorParameter (ignoreConstructorParameter : Bool) :
    ChangesOptions fun check => .ok { check with ignoreConstructorParameter } := by
  intro check changed succeeded
  cases succeeded
  exact ⟨_, _, _, rfl⟩

end HiddenField

namespace Check

theorem configure_of {Holds : Check → Prop}
    (kept : ∀ check property value after, Holds check → check.set property value = .ok after →
      Holds after) {check : Check} (holds : Holds check) (properties : List (String × Value)) :
    Holds (check.configure properties).check := by
  induction properties generalizing check with
  | nil => exact holds
  | cons property rest induction =>
    rcases property with ⟨name, value⟩
    rw [Check.configure]
    cases check.property? name with
    | none => exact holds
    | some property =>
      dsimp only
      cases answered : check.set property value with
      | error fault => exact holds
      | ok changed => exact induction (kept check property value changed holds answered)

/-- Whatever is set on a check, what holds of it still holds. There are three things that
settings change: the kinds asked for, the severity, and the options. -/
structure KeptBySettings (Holds : Check → Prop) : Prop where
  restriction : ∀ (check : Check) (core : Core), Holds check →
    core.IsRestrictionOf check.core → Holds (check.withCore core)
  severity : ∀ (check : Check) (severity : Severity), Holds check →
    Holds (check.setSeverity severity)
  options : ∀ (check : HiddenField) ignoreFormat ignoreSetter ignoreConstructorParameter,
    Holds (.hiddenField check) →
    Holds (.hiddenField { check with ignoreFormat, ignoreSetter, ignoreConstructorParameter })

namespace KeptBySettings

variable {Holds : Check → Prop} (kept : KeptBySettings Holds) {check after : Check}
  (holds : Holds check)

include kept holds

theorem setKinds {kinds : List Kind} (succeeded : check.setKinds kinds = .ok after) :
    Holds after := by
  rcases Success.of_map succeeded with ⟨core, restricted, rfl⟩
  exact kept.restriction check core holds (Core.isRestrictionOf_of_kinds restricted)

theorem setKindNames {names : List String} (succeeded : check.setKindNames names = .ok after) :
    Holds after := by
  rcases Success.of_map succeeded with ⟨core, restricted, rfl⟩
  exact kept.restriction check core holds (Core.isRestrictionOf_of_names restricted)

theorem modifyHiddenField {change : HiddenField → Except SettingFault HiddenField}
    (changes : HiddenField.ChangesOptions change)
    (succeeded : check.modifyHiddenField change = .ok after) : Holds after := by
  cases check with
  | hiddenField hider =>
    rcases Success.of_map succeeded with ⟨changed, answered, rfl⟩
    rcases changes hider changed answered with ⟨_, _, _, rfl⟩
    exact kept.options hider _ _ _ holds
  | recorder recorder =>
    cases succeeded
    exact holds

theorem set {property : Property} {value : Value}
    (succeeded : check.set property value = .ok after) : Holds after := by
  cases property with
  | tokens =>
    rcases Success.of_bind succeeded with ⟨names, -, answered⟩
    exact kept.setKindNames holds (Success.of_mapError answered)
  | severity =>
    rcases Success.of_bind succeeded with ⟨severity, -, answered⟩
    cases answered
    exact kept.severity check severity holds
  | ignoreFormat =>
    exact kept.modifyHiddenField holds (HiddenField.changesOptions_ignoreFormat _) succeeded
  | ignoreSetter =>
    rcases Success.of_bind succeeded with ⟨ignoreSetter, -, answered⟩
    exact kept.modifyHiddenField holds (HiddenField.changesOptions_ignoreSetter _) answered
  | ignoreConstructorParameter =>
    rcases Success.of_bind succeeded with ⟨ignoreConstructorParameter, -, answered⟩
    exact kept.modifyHiddenField holds
      (HiddenField.changesOptions_ignoreConstructorParameter _) answered

theorem configure (properties : List (String × Value)) :
    Holds (check.configure properties).check :=
  configure_of (fun _ _ _ _ holds => kept.set holds) holds properties

end KeptBySettings

/-! ## What settings keep -/

def IsLawful (check : Check) : Prop :=
  ∃ hider : HiddenField, check = .hiddenField hider ∧ hider.Lawful

theorem isLawful_initial : (Check.hiddenField .initial).IsLawful :=
  ⟨_, rfl, HiddenField.lawful_initial⟩

theorem isLawful_kept : KeptBySettings IsLawful := by
  refine ⟨?_, ?_, ?_⟩
  · intro check core isLawful restriction
    rcases isLawful with ⟨hider, rfl, profile, -⟩
    rcases restriction with ⟨kinds, rfl, acceptable⟩
    refine ⟨_, rfl, profile, ?_⟩
    intro chosen isChosen kind has
    have isOne : KindSet.ofList kinds = chosen := Option.some.inj isChosen
    have member : kind ∈ kinds := by simpa [← isOne] using has
    have accepted : hider.core.profile.acceptableKinds.has kind = true := acceptable kind member
    rwa [profile] at accepted
  · intro check severity isLawful
    rcases isLawful with ⟨hider, rfl, lawful⟩
    exact ⟨_, rfl, lawful.profile, lawful.chosen⟩
  · intro hider _ _ _ isLawful
    rcases isLawful with ⟨same, equal, lawful⟩
    cases equal
    exact ⟨_, rfl, lawful.profile, lawful.chosen⟩

def IsRecorder (check : Check) : Prop := ∃ recorder, check = .recorder recorder

theorem isRecorder_kept : KeptBySettings IsRecorder := by
  refine ⟨?_, ?_, ?_⟩
  · intro check core isRecorder _
    rcases isRecorder with ⟨recorder, rfl⟩
    exact ⟨_, rfl⟩
  · intro check severity isRecorder
    rcases isRecorder with ⟨recorder, rfl⟩
    exact ⟨_, rfl⟩
  · intro hider _ _ _ isRecorder
    rcases isRecorder with ⟨recorder, equal⟩
    cases equal

end Check

/-- The checks differ in their settings only. -/
structure HiddenField.IsVariantOf (check other : HiddenField) : Prop where
  profile : check.core.profile = other.core.profile
  file : check.core.file = other.core.file
  violations : check.core.violations = other.core.violations
  scopes : check.scopes = other.scopes

namespace Check

def IsVariantOf (other : HiddenField) (check : Check) : Prop :=
  ∃ hider : HiddenField, check = .hiddenField hider ∧ hider.IsVariantOf other

theorem isVariantOf_self (check : HiddenField) : (Check.hiddenField check).IsVariantOf check :=
  ⟨check, rfl, rfl, rfl, rfl, rfl⟩

theorem isVariantOf_kept (other : HiddenField) : KeptBySettings (IsVariantOf other) := by
  refine ⟨?_, ?_, ?_⟩
  · intro check core isVariant restriction
    rcases isVariant with ⟨hider, rfl, same⟩
    rcases restriction with ⟨kinds, rfl, -⟩
    exact ⟨_, rfl, same.profile, same.file, same.violations, same.scopes⟩
  · intro check severity isVariant
    rcases isVariant with ⟨hider, rfl, same⟩
    exact ⟨_, rfl, same.profile, same.file, same.violations, same.scopes⟩
  · intro hider _ _ _ isVariant
    rcases isVariant with ⟨earlier, equal, same⟩
    cases equal
    exact ⟨_, rfl, same.profile, same.file, same.violations, same.scopes⟩

end Check

end ShadowLint
