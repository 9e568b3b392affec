import Mathlib.Data.List.Nodup
import ShadowLint.Proofs.Check.Configured
import ShadowLint.Proofs.Related

/-!
The settings of a check for hidden fields, one by one. What a value means for a property
does not depend on how the check is set (`HiddenField.set_eq`), and each setting is put in
the place of the one before it and nowhere else (`HiddenField.setting_put`). So configuring
succeeds if all the properties mean something, and then puts what they mean in their order
(`HiddenField.configure_succeeds_iff`).
-/

namespace ShadowLint

open List (Forall₂)

theorem Property.name_injective {first second : Property} (same : first.name = second.name) :
    first = second := by
  have found := congrArg Property.ofName? same
  rw [Property.ofName?_name, Property.ofName?_name] at found
  exact Option.some.inj found

theorem Property.ofName?_eq_some_iff {name : String} {property : Property} :
    Property.ofName? name = some property ↔ property.name = name := by
  constructor
  · intro found
    have matched := List.find?_some found
    exact eq_of_beq matched
  · intro named
    rw [← named, Property.ofName?_name]

def Profile.kindNamed (profile : Profile) (name : String) : Except ConfigurationError Kind :=
  Conversion.kindOf name >>= (Core.ofProfile profile).acceptedKind

theorem Core.restrictToNames_eq (core : Core) (names : List String) :
    core.restrictToNames names =
      (names.mapM core.profile.kindNamed).map fun kinds =>
        { core with chosenKinds := some (.ofList kinds) } := by
  change names.mapM core.profile.kindNamed >>= _ = _
  cases names.mapM core.profile.kindNamed <;> rfl

namespace HiddenField

/-- What a check is set to in one respect. -/
inductive Setting where
  | tokens (chosen : Option KindSet)
  | severity (severity : Severity)
  | ignoreFormat (filter : Option NameFilter)
  | ignoreSetter (ignore : Bool)
  | ignoreConstructorParameter (ignore : Bool)

def Setting.property : Setting → Property
  | tokens _ => .tokens
  | severity _ => .severity
  | ignoreFormat _ => .ignoreFormat
  | ignoreSetter _ => .ignoreSetter
  | ignoreConstructorParameter _ => .ignoreConstructorParameter

def setting (check : HiddenField) : Property → Setting
  | .tokens => .tokens check.core.chosenKinds
  | .severity => .severity check.core.severity
  | .ignoreFormat => .ignoreFormat check.ignoreFormat
  | .ignoreSetter => .ignoreSetter check.ignoreSetter
  | .ignoreConstructorParameter => .ignoreConstructorParameter check.ignoreConstructorParameter

def put (check : HiddenField) : Setting → HiddenField
  | .tokens chosenKinds => { check with core := { check.core with chosenKinds } }
  | .severity severity => { check with core := { check.core with severity } }
  | .ignoreFormat ignoreFormat => { check with ignoreFormat }
  | .ignoreSetter ignoreSetter => { check with ignoreSetter }
  | .ignoreConstructorParameter ignoreConstructorParameter =>
    { check with ignoreConstructorParameter }

variable {check other : HiddenField}

/-! ## Putting settings -/

theorem setting_put (check : HiddenField) (setting : Setting) (property : Property) :
    (check.put setting).setting property =
      if setting.property = property then setting else check.setting property := by
  cases setting <;> cases property <;> rfl

theorem setting_put_of_ne {setting : Setting} {property : Property}
    (different : setting.property ≠ property) :
    (check.put setting).setting property = check.setting property := by
  rw [setting_put, if_neg different]

theorem isVariantOf_put (check : HiddenField) (setting : Setting) :
    (check.put setting).IsVariantOf check := by
  cases setting <;> exact ⟨rfl, rfl, rfl, rfl⟩

theorem IsVariantOf.trans {first second third : HiddenField} (left : first.IsVariantOf second)
    (right : second.IsVariantOf third) : first.IsVariantOf third :=
  ⟨left.profile.trans right.profile, left.file.trans right.file,
    left.violations.trans right.violations, left.scopes.trans right.scopes⟩

theorem IsVariantOf.eq_of_setting_eq (variant : check.IsVariantOf other)
    (same : ∀ property, check.setting property = other.setting property) : check = other := by
  rcases check with ⟨⟨profile, chosenKinds, severity, file, violations⟩, scopes, ignoreFormat,
    ignoreSetter, ignoreParameter⟩
  rcases other with ⟨⟨otherProfile, otherKinds, otherSeverity, otherFile, otherViolations⟩,
    otherScopes, otherFormat, otherSetter, otherParameter⟩
  rcases variant with ⟨sameProfile, sameFile, sameViolations, sameScopes⟩
  dsimp only at sameProfile sameFile sameViolations sameScopes
  cases Setting.tokens.inj (same .tokens)
  cases Setting.severity.inj (same .severity)
  cases Setting.ignoreFormat.inj (same .ignoreFormat)
  cases Setting.ignoreSetter.inj (same .ignoreSetter)
  cases Setting.ignoreConstructorParameter.inj (same .ignoreConstructorParameter)
  rw [sameProfile, sameFile, sameViolations, sameScopes]

def putAll (check : HiddenField) (settings : List Setting) : HiddenField :=
  settings.foldl put check

theorem isVariantOf_putAll (check : HiddenField) (settings : List Setting) :
    (check.putAll settings).IsVariantOf check := by
  induction settings generalizing check with
  | nil => exact ⟨rfl, rfl, rfl, rfl⟩
  | cons setting rest induction =>
    exact (induction (check.put setting)).trans (isVariantOf_put check setting)

theorem setting_putAll_of_forall_ne {settings : List Setting} {property : Property}
    (absent : ∀ setting ∈ settings, setting.property ≠ property) :
    (check.putAll settings).setting property = check.setting property := by
  induction settings generalizing check with
  | nil => rfl
  | cons setting rest induction =>
    rcases List.forall_mem_cons.mp absent with ⟨notFirst, notLater⟩
    calc ((check.put setting).putAll rest).setting property
        = (check.put setting).setting property := induction notLater
      _ = check.setting property := setting_put_of_ne notFirst

theorem setting_putAll_of_mem {settings : List Setting}
    (distinct : (settings.map Setting.property).Nodup) {setting : Setting}
    (inside : setting ∈ settings) :
    (check.putAll settings).setting setting.property = setting := by
  induction settings generalizing check with
  | nil => cases inside
  | cons first rest induction =>
    rcases List.nodup_cons.mp distinct with ⟨outside, distinctRest⟩
    rcases List.mem_cons.mp inside with here | later
    · subst here
      have absent : ∀ other ∈ rest, other.property ≠ setting.property := by
        intro other member same
        exact outside (same ▸ List.mem_map_of_mem member)
      calc ((check.put setting).putAll rest).setting setting.property
          = (check.put setting).setting setting.property := setting_putAll_of_forall_ne absent
        _ = setting := by rw [setting_put, if_pos rfl]
    · exact induction distinctRest later

/-! ## What values mean -/

def Setting.ofValue (profile : Profile) : Property → Value → Except SettingFault Setting
  | .tokens, value => do
    let names ← Conversion.toNames value
    let kinds ← (names.mapM profile.kindNamed).mapError .refused
    return .tokens (some (.ofList kinds))
  | .severity, value => (Conversion.toSeverity value).map .severity
  | .ignoreFormat, value =>
    let pattern := Conversion.toPatternText value
    if pattern = "" then .ok (.ignoreFormat none)
    else (filterOf pattern).map fun filter => .ignoreFormat (some filter)
  | .ignoreSetter, value =>
    ((Conversion.toBool Property.ignoreSetter.name value).mapError .refused).map .ignoreSetter
  | .ignoreConstructorParameter, value =>
    ((Conversion.toBool Property.ignoreConstructorParameter.name value).mapError .refused).map
      .ignoreConstructorParameter

theorem Setting.property_of_ofValue {profile : Profile} {property : Property} {value : Value}
    {setting : Setting} (meant : ofValue profile property value = .ok setting) :
    setting.property = property := by
  cases property with
  | tokens =>
    rcases Success.of_bind meant with ⟨names, -, afterNames⟩
    rcases Success.of_bind afterNames with ⟨kinds, -, answered⟩
    cases answered
    rfl
  | severity =>
    rcases Success.of_map meant with ⟨_, -, rfl⟩
    rfl
  | ignoreFormat =>
    dsimp only [ofValue] at meant
    split at meant
    · cases meant
      rfl
    · rcases Success.of_map meant with ⟨_, -, rfl⟩
      rfl
  | ignoreSetter =>
    rcases Success.of_map meant with ⟨_, -, rfl⟩
    rfl
  | ignoreConstructorParameter =>
    rcases Success.of_map meant with ⟨_, -, rfl⟩
    rfl

/-- Setting a property puts what the value means, whatever the check was set to. -/
theorem set_eq (check : HiddenField) (property : Property) (value : Value) :
    (Check.hiddenField check).set property value =
      (Setting.ofValue check.core.profile property value).map fun setting =>
        .hiddenField (check.put setting) := by
  cases property with
  | tokens =>
    rw [Check.set, Setting.ofValue]
    cases Conversion.toNames value with
    | error fault => rfl
    | ok names =>
      change ((check.core.restrictToNames names).map _).mapError _ = _
      rw [Core.restrictToNames_eq]
      simp only [bind, Except.bind]
      cases names.mapM (check.core.profile.kindNamed) <;> rfl
  | severity =>
    rw [Check.set, Setting.ofValue]
    cases Conversion.toSeverity value <;> rfl
  | ignoreFormat =>
    rw [Check.set, Setting.ofValue, Check.modifyHiddenField, setIgnoreFormat]
    split
    · rfl
    · cases filterOf (Conversion.toPatternText value) <;> rfl
  | ignoreSetter =>
    rw [Check.set, Setting.ofValue]
    cases Conversion.toBool Property.ignoreSetter.name value <;> rfl
  | ignoreConstructorParameter =>
    rw [Check.set, Setting.ofValue]
    cases Conversion.toBool Property.ignoreConstructorParameter.name value <;> rfl

/-! ## Configuring -/

/-- The setting is what the entry of a configuration means: the value for the property of
that name. -/
def Setting.IsMeantBy (profile : Profile) (entry : String × Value) (setting : Setting) : Prop :=
  setting.property.name = entry.1 ∧ ofValue profile setting.property entry.2 = .ok setting

theorem property?_eq (check : HiddenField) (name : String) :
    (Check.hiddenField check).property? name = Property.ofName? name := by
  have known : ∀ property, (Check.hiddenField check).properties.contains property = true := by
    intro property
    cases property <;> rfl
  rw [Check.property?]
  cases Property.ofName? name with
  | none => rfl
  | some property => simp only [Option.filter, known property, if_true]

theorem configure_of_meant {property : Property} {value : Value} {setting : Setting}
    (meant : Setting.ofValue check.core.profile property value = .ok setting)
    (rest : List (String × Value)) :
    let configured := (Check.hiddenField check).configure ((property.name, value) :: rest)
    let later := (Check.hiddenField (check.put setting)).configure rest
    configured.check = later.check ∧ configured.fault = later.fault := by
  rw [Check.configure, property?_eq, Property.ofName?_name]
  simp only [set_eq, meant]
  exact ⟨rfl, rfl⟩

theorem configure_of_unmeant {entry : String × Value}
    (unmeant : ∀ setting, ¬ Setting.IsMeantBy check.core.profile entry setting)
    (rest : List (String × Value)) :
    let configured := (Check.hiddenField check).configure (entry :: rest)
    configured.check = .hiddenField check ∧ configured.fault ≠ none := by
  rcases entry with ⟨name, value⟩
  rw [Check.configure, property?_eq]
  cases found : Property.ofName? name with
  | none => exact ⟨rfl, Option.some_ne_none _⟩
  | some property =>
    cases meant : Setting.ofValue check.core.profile property value with
    | error fault =>
      simp only [set_eq, meant]
      exact ⟨rfl, Option.some_ne_none _⟩
    | ok setting =>
      have same := Setting.property_of_ofValue meant
      have named := Property.ofName?_eq_some_iff.mp found
      exact absurd ⟨same ▸ named, same ▸ meant⟩ (unmeant setting)

/-- Configuring succeeds exactly if every entry means a setting, and puts these. -/
theorem configure_succeeds_iff {properties : List (String × Value)} {after : Check} :
    ((Check.hiddenField check).configure properties).check = after ∧
        ((Check.hiddenField check).configure properties).fault = none ↔
      ∃ settings, Forall₂ (Setting.IsMeantBy check.core.profile) properties settings ∧
        after = .hiddenField (check.putAll settings) := by
  induction properties generalizing check with
  | nil =>
    constructor
    · intro succeeded
      exact ⟨[], .nil, succeeded.1.symm⟩
    · intro meant
      rcases meant with ⟨settings, each, rfl⟩
      cases each
      exact ⟨rfl, rfl⟩
  | cons entry rest induction =>
    by_cases means : ∃ setting, Setting.IsMeantBy check.core.profile entry setting
    · rcases entry with ⟨name, value⟩
      rcases means with ⟨setting, named, meant⟩
      dsimp only at named meant
      subst named
      have profile := (isVariantOf_put check setting).profile
      rcases configure_of_meant meant rest with ⟨sameCheck, sameFault⟩
      rw [sameCheck, sameFault]
      refine induction.trans ?_
      rw [profile]
      constructor
      · intro later
        rcases later with ⟨settings, each, rfl⟩
        exact ⟨setting :: settings, .cons ⟨rfl, meant⟩ each, rfl⟩
      · intro all
        rcases all with ⟨_, each, rfl⟩
        cases each with
        | @cons _ first _ settings isMeant each =>
          have sameProperty := Property.name_injective isMeant.1
          have sameSetting : first = setting := by
            have meantToo := isMeant.2
            rw [sameProperty] at meantToo
            exact Except.ok.inj (meantToo.symm.trans meant)
          exact ⟨settings, each, by rw [sameSetting]; rfl⟩
    · have unmeant := not_exists.mp means
      rcases configure_of_unmeant unmeant rest with ⟨-, failed⟩
      constructor
      · intro succeeded
        exact absurd succeeded.2 failed
      · intro all
        rcases all with ⟨_, each, -⟩
        cases each with
        | @cons _ first _ _ isMeant _ => exact absurd isMeant (unmeant first)

/-! ## Entries with different names -/

theorem nodup_properties_of_meant {profile : Profile} {properties : List (String × Value)}
    {settings : List Setting} (each : Forall₂ (Setting.IsMeantBy profile) properties settings)
    (distinct : (properties.map Prod.fst).Nodup) : (settings.map Setting.property).Nodup := by
  have names : (settings.map Setting.property).map Property.name = properties.map Prod.fst := by
    clear distinct
    induction each with
    | nil => rfl
    | cons meant _ induction => rw [List.map_cons, List.map_cons, List.map_cons, meant.1, induction]
  rw [← names] at distinct
  exact distinct.of_map

/-- The check is set to what the value means for the property or, if there is none, to what
the other check is set to. -/
def Follows (check other : HiddenField) (property : Property) : Option Value → Prop
  | none => check.setting property = other.setting property
  | some value => Setting.ofValue other.core.profile property value = .ok (check.setting property)

theorem follows_putAll {properties : List (String × Value)} {settings : List Setting}
    (distinct : (properties.map Prod.fst).Nodup)
    (each : Forall₂ (Setting.IsMeantBy check.core.profile) properties settings)
    (property : Property) :
    (check.putAll settings).Follows check property (properties.lookup property.name) := by
  cases found : properties.lookup property.name with
  | none =>
    apply setting_putAll_of_forall_ne
    intro setting inside same
    rcases exists_mem_of_forall₂ each.flip setting inside with ⟨entry, isEntry, meant⟩
    have named : entry.1 = property.name := same ▸ meant.1.symm
    exact lookup_eq_none_iff_forall_ne.mp found entry isEntry named
  | some value =>
    rcases exists_mem_of_forall₂ each _ (mem_of_lookup found) with ⟨setting, inside, meant⟩
    have same : setting.property = property := Property.name_injective meant.1
    have held : (check.putAll settings).setting setting.property = setting :=
      setting_putAll_of_mem (nodup_properties_of_meant each distinct) inside
    rw [same] at held
    rw [Follows, held]
    exact same ▸ meant.2

theorem eq_of_follows {fresh : HiddenField} {asked : Property → Option Value}
    (variant : check.IsVariantOf fresh) (variantToo : other.IsVariantOf fresh)
    (follows : ∀ property, check.Follows fresh property (asked property))
    (followsToo : ∀ property, other.Follows fresh property (asked property)) : check = other := by
  have variantOther : check.IsVariantOf other :=
    ⟨variant.profile.trans variantToo.profile.symm, variant.file.trans variantToo.file.symm,
      variant.violations.trans variantToo.violations.symm,
      variant.scopes.trans variantToo.scopes.symm⟩
  apply variantOther.eq_of_setting_eq
  intro property
  have one := follows property
  have two := followsToo property
  cases found : asked property with
  | none =>
    rw [found] at one two
    exact one.trans two.symm
  | some value =>
    rw [found] at one two
    exact Except.ok.inj (one.symm.trans two)

end HiddenField

end ShadowLint
