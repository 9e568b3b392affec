import ShadowLint.Proofs.Config.Failing
import ShadowLint.Proofs.Config.Names

/-!
Which values are valid for a property, and what is wrong with the rest. Most values that are
not valid are refused with a cause that names the property. Some are not: a severity or a
token that is no text, tokens that are not listed, and a pattern beyond what can be read
(`HiddenField.Escapes`).
-/

namespace ShadowLint

open Conversion (GivesNames)

theorem Severity.ofName?_eq_some_iff {name : String} {severity : Severity} :
    Severity.ofName? name = some severity ↔ severity.name = name := by
  constructor
  · intro found
    have matched := List.find?_some found
    exact eq_of_beq matched
  · rintro rfl
    exact Severity.ofName?_name severity

theorem Profile.kindNamed_eq_ok_iff {profile : Profile} {name : String} {kind : Kind}
    (trimmed : Text.trim name = name) :
    profile.kindNamed name = .ok kind ↔
      kind.name = name ∧ profile.acceptableKinds.has kind = true := by
  rw [kindNamed, Conversion.kindOf, trimmed]
  constructor
  · intro named
    rcases Success.of_bind named with ⟨found, known, accepted⟩
    cases isKnown : Kind.ofName? name with
    | none =>
      rw [isKnown] at known
      cases known
    | some other =>
      rw [isKnown] at known
      cases known
      have same : found = kind := by
        unfold Core.acceptedKind at accepted
        split at accepted <;> cases accepted
        rfl
      subst same
      exact ⟨Kind.name_of_ofName? isKnown, Core.has_of_acceptedKind accepted⟩
  · rintro ⟨rfl, acceptable⟩
    rw [Kind.ofName?_name]
    exact if_pos acceptable

theorem Profile.property_of_kindNamed {profile : Profile} {name : String}
    {error : ConfigurationError} (refused : profile.kindNamed name = .error error) :
    error.property = Property.tokens.name := by
  rw [kindNamed, Conversion.kindOf] at refused
  cases found : Kind.ofName? (Text.trim name) with
  | none =>
    rw [found] at refused
    cases refused
    rfl
  | some kind =>
    rw [found] at refused
    change (Core.ofProfile profile).acceptedKind kind = _ at refused
    unfold Core.acceptedKind at refused
    split at refused <;> cases refused
    rfl

namespace HiddenField

open List (Forall₂)

/-! ## Valid values -/

def affirmations : List String := ["true", "yes", "on", "1"]

def denials : List String := ["false", "no", "off", "0"]

/-- The value means true or false: it is a boolean, or its text is a word for one. -/
def IsBoolean (value : Value) : Prop :=
  (∃ meaning, value = .bool meaning) ∨
    Text.lowercase (Text.trim value.plain) ∈ affirmations ∨
    Text.lowercase (Text.trim value.plain) ∈ denials

/-- The value is one that a property of checks of the profile can be set to. -/
def IsValidFor (profile : Profile) (value : Value) : Property → Prop
  | .tokens => ∃ names, GivesNames value names ∧ ∀ name ∈ names, ∃ kind : Kind,
      kind.name = name ∧ profile.acceptableKinds.has kind = true
  | .severity => ∃ text severity, value = .text text ∧
      Severity.name severity = Text.lowercase (Text.trim text)
  | .ignoreFormat => Conversion.toPatternText value = "" ∨
      ∃ regex, Pattern.read (Conversion.toPatternText value) = .ok regex
  | .ignoreSetter => IsBoolean value
  | .ignoreConstructorParameter => IsBoolean value

def IsValid (profile : Profile) (entry : String × Value) : Prop :=
  ∃ property : Property, property.name = entry.1 ∧ IsValidFor profile entry.2 property

theorem exists_wordMeaning?_iff {text : String} :
    (∃ meaning, Conversion.wordMeaning? text = some meaning) ↔
      Text.lowercase (Text.trim text) ∈ affirmations ∨
        Text.lowercase (Text.trim text) ∈ denials := by
  rw [Conversion.wordMeaning?]
  generalize Text.lowercase (Text.trim text) = word
  change (∃ meaning, (if affirmations.contains word then some true
    else if denials.contains word then some false else none) = some meaning) ↔ _
  by_cases affirms : word ∈ affirmations
  · rw [if_pos (List.contains_iff_mem.mpr affirms)]
    exact iff_of_true ⟨true, rfl⟩ (.inl affirms)
  · rw [if_neg (mt List.contains_iff_mem.mp affirms)]
    by_cases denies : word ∈ denials
    · rw [if_pos (List.contains_iff_mem.mpr denies)]
      exact iff_of_true ⟨false, rfl⟩ (.inr denies)
    · rw [if_neg (mt List.contains_iff_mem.mp denies)]
      exact iff_of_false nofun (not_or.mpr ⟨affirms, denies⟩)

theorem toBool_of_noBoolean {property : String} {value : Value}
    (noBoolean : ∀ meaning, value ≠ .bool meaning) :
    Conversion.toBool property value =
      (Conversion.wordMeaning? value.plain).elim (.error (.notBoolean property value)) .ok := by
  unfold Conversion.toBool
  split
  · exact absurd rfl (noBoolean _)
  · cases Conversion.wordMeaning? value.plain <;> rfl

theorem isBoolean_iff {property : String} {value : Value} :
    (∃ meaning, Conversion.toBool property value = .ok meaning) ↔ IsBoolean value := by
  by_cases boolean : ∃ meaning, value = .bool meaning
  · rcases boolean with ⟨meaning, rfl⟩
    exact iff_of_true ⟨meaning, rfl⟩ (.inl ⟨meaning, rfl⟩)
  · rw [toBool_of_noBoolean fun meaning same => boolean ⟨meaning, same⟩, IsBoolean,
      or_iff_right boolean, ← exists_wordMeaning?_iff]
    cases Conversion.wordMeaning? value.plain <;> simp

theorem validTokens_iff {profile : Profile} {value : Value} :
    (∃ setting, Setting.ofValue profile .tokens value = .ok setting) ↔
      IsValidFor profile value .tokens := by
  rw [Setting.ofValue, IsValidFor]
  constructor
  · rintro ⟨setting, meant⟩
    rcases Success.of_bind meant with ⟨names, read, afterNames⟩
    rcases Success.of_bind afterNames with ⟨kinds, found, -⟩
    have gives := Conversion.toNames_eq_ok_iff.mp read
    have areKinds := Success.mapM_eq_ok_iff.mp (Success.of_mapError found)
    refine ⟨names, gives, ?_⟩
    intro name inside
    rcases exists_mem_of_forall₂ areKinds name inside with ⟨kind, -, named⟩
    exact ⟨kind, (Profile.kindNamed_eq_ok_iff (gives.trim name inside)).mp named⟩
  · rintro ⟨names, gives, each⟩
    have found : ∀ name ∈ names, ∃ kind, profile.kindNamed name = .ok kind := by
      intro name inside
      rcases each name inside with ⟨kind, isKind⟩
      exact ⟨kind, (Profile.kindNamed_eq_ok_iff (gives.trim name inside)).mpr isKind⟩
    rcases exists_forall₂ found with ⟨kinds, areKinds⟩
    rw [Conversion.toNames_eq_ok_iff.mpr gives]
    refine ⟨.tokens (some (.ofList kinds)), ?_⟩
    simp only [bind, Except.bind, Success.mapM_eq_ok_iff.mpr areKinds]
    rfl

theorem validSeverity_iff {profile : Profile} {value : Value} :
    (∃ setting, Setting.ofValue profile .severity value = .ok setting) ↔
      IsValidFor profile value .severity := by
  rw [Setting.ofValue, IsValidFor]
  cases value with
  | text text =>
    rw [Conversion.toSeverity, Conversion.severityOf]
    cases found : Severity.ofText? text with
    | none =>
      constructor
      · rintro ⟨setting, meant⟩
        cases meant
      · rintro ⟨other, severity, same, named⟩
        cases same
        rw [Severity.ofText?, Severity.ofName?_eq_some_iff.mpr named] at found
        cases found
    | some severity =>
      have named := Severity.ofName?_eq_some_iff.mp found
      exact iff_of_true ⟨_, rfl⟩ ⟨text, severity, rfl, named⟩
  | _ =>
    constructor
    · rintro ⟨setting, meant⟩
      cases meant
    · rintro ⟨text, severity, isText, -⟩
      cases isText

theorem validFormat_iff {profile : Profile} {value : Value} :
    (∃ setting, Setting.ofValue profile .ignoreFormat value = .ok setting) ↔
      IsValidFor profile value .ignoreFormat := by
  rw [Setting.ofValue, IsValidFor]
  by_cases empty : Conversion.toPatternText value = ""
  · rw [if_pos empty]
    exact iff_of_true ⟨_, rfl⟩ (.inl empty)
  · rw [if_neg empty, filterOf]
    cases read : Pattern.read (Conversion.toPatternText value) with
    | ok regex => exact iff_of_true ⟨_, rfl⟩ (.inr ⟨regex, rfl⟩)
    | error fault =>
      cases fault <;> simp [empty, Except.map]

/-- A value is valid for a property exactly if it means a setting. -/
theorem isValidFor_iff {profile : Profile} {property : Property} {value : Value} :
    (∃ setting, Setting.ofValue profile property value = .ok setting) ↔
      IsValidFor profile value property := by
  have flag_iff {Meant : Type} {converted : Except ConfigurationError Bool}
      {toSetting : Bool → Meant} :
      (∃ setting, ((converted.mapError SettingFault.refused).map toSetting) = .ok setting) ↔
        ∃ meaning, converted = .ok meaning := by
    cases converted <;> simp [Except.mapError, Except.map]
  cases property with
  | tokens => exact validTokens_iff
  | severity => exact validSeverity_iff
  | ignoreFormat => exact validFormat_iff
  | ignoreSetter =>
    rw [Setting.ofValue, flag_iff]
    exact isBoolean_iff
  | ignoreConstructorParameter =>
    rw [Setting.ofValue, flag_iff]
    exact isBoolean_iff

theorem means_iff_isValid {profile : Profile} {entry : String × Value} :
    Means profile entry ↔ IsValid profile entry := by
  constructor
  · rintro ⟨setting, named, meant⟩
    exact ⟨setting.property, named, isValidFor_iff.mp ⟨setting, meant⟩⟩
  · rintro ⟨property, named, valid⟩
    rcases isValidFor_iff.mpr valid with ⟨setting, meant⟩
    have same := Setting.property_of_ofValue meant
    exact ⟨setting, same ▸ named, same ▸ meant⟩

/-! ## Values that are not refused -/

/-- What setting a property ends with, other than by refusing the value. -/
inductive Escapes : String → Value → SettingFault → Prop
  | severity {value : Value} (noText : ∀ text, value ≠ .text text) :
      Escapes Property.severity.name value .notText
  | tokenItem {items : List Value} {item : Value} (inside : item ∈ items)
      (noText : ∀ text, item ≠ .text text) :
      Escapes Property.tokens.name (.list items) .notText
  | tokens {value : Value} (noText : ∀ text, value ≠ .text text)
      (noList : ∀ items, value ≠ .list items) (noObject : ∀ members, value ≠ .object members) :
      Escapes Property.tokens.name value .notList
  | pattern {value : Value} {fault : Pattern.Fault}
      (nonempty : Conversion.toPatternText value ≠ "")
      (unreadable : Pattern.read (Conversion.toPatternText value) = .error fault)
      (notMalformed : ∀ cause offset, fault ≠ .malformed cause offset) :
      Escapes Property.ignoreFormat.name value (.unreadablePattern fault)

variable {profile : Profile} {name : String} {value : Value} {fault : SettingFault}

theorem Escapes.not_refused (escapes : Escapes name value fault) (error : ConfigurationError) :
    fault ≠ .refused error := by
  cases escapes <;> exact nofun

theorem textsOf_of_noText {items : List Value} {item : Value} (inside : item ∈ items)
    (noText : ∀ text, item ≠ .text text) : Conversion.textsOf items = .error .notText := by
  induction items with
  | nil => cases inside
  | cons first rest induction =>
    cases first with
    | text text =>
      have later : item ∈ rest := by
        rcases List.mem_cons.mp inside with here | later
        · exact absurd here (noText text)
        · exact later
      rw [Conversion.textsOf, induction later]
      rfl
    | _ => rfl

theorem exists_noText_of_textsOf {items : List Value}
    (failed : Conversion.textsOf items = .error fault) :
    fault = .notText ∧ ∃ item ∈ items, ∀ text, item ≠ .text text := by
  induction items with
  | nil => cases failed
  | cons first rest induction =>
    cases first with
    | text text =>
      rw [Conversion.textsOf] at failed
      cases read : Conversion.textsOf rest with
      | ok texts =>
        rw [read] at failed
        cases failed
      | error other =>
        rw [read] at failed
        cases failed
        rcases induction read with ⟨isNotText, item, inside, noText⟩
        exact ⟨isNotText, item, List.mem_cons_of_mem _ inside, noText⟩
    | _ =>
      cases failed
      exact ⟨rfl, _, List.mem_cons_self, by simp⟩

theorem Escapes.ofEntry_eq (escapes : Escapes name value fault) :
    Setting.ofEntry profile (name, value) = .error fault := by
  rw [Setting.ofEntry]
  dsimp only
  cases escapes with
  | severity noText =>
    rw [Property.ofName?_name]
    cases value with
    | text text => exact absurd rfl (noText text)
    | _ => rfl
  | tokenItem inside noText =>
    rw [Property.ofName?_name]
    dsimp only [Setting.ofValue]
    rw [Conversion.toNames, textsOf_of_noText inside noText]
    rfl
  | tokens noText noList noObject =>
    rw [Property.ofName?_name]
    cases value with
    | text text => exact absurd rfl (noText text)
    | list items => exact absurd rfl (noList items)
    | object members => exact absurd rfl (noObject members)
    | _ => rfl
  | @pattern _ fault nonempty unreadable notMalformed =>
    rw [Property.ofName?_name]
    dsimp only [Setting.ofValue]
    rw [if_neg nonempty, filterOf, unreadable]
    cases fault with
    | malformed cause offset => exact absurd rfl (notMalformed cause offset)
    | _ => rfl

theorem tokens_offence (offends : Setting.ofValue profile .tokens value = .error fault) :
    Escapes Property.tokens.name value fault ∨
      ∃ error, fault = .refused error ∧ error.property = Property.tokens.name := by
  rw [Setting.ofValue] at offends
  cases read : Conversion.toNames value with
  | error other =>
    rw [read] at offends
    cases offends
    cases value with
    | text text => cases read
    | object members => cases read
    | list items =>
      cases among : Conversion.textsOf items with
      | ok texts =>
        rw [Conversion.toNames, among] at read
        cases read
      | error other =>
        rw [Conversion.toNames, among] at read
        cases read
        rcases exists_noText_of_textsOf among with ⟨rfl, item, inside, noText⟩
        exact .inl (.tokenItem inside noText)
    | _ =>
      cases read
      exact .inl (.tokens (by simp) (by simp) (by simp))
  | ok names =>
    rw [read] at offends
    cases found : names.mapM profile.kindNamed with
    | ok kinds =>
      simp only [bind, Except.bind, found] at offends
      cases offends
    | error error =>
      simp only [bind, Except.bind, found] at offends
      cases offends
      rcases Success.exists_of_mapM_error found with ⟨name, -, refused⟩
      exact .inr ⟨error, rfl, Profile.property_of_kindNamed refused⟩

theorem severity_offence (offends : Setting.ofValue profile .severity value = .error fault) :
    Escapes Property.severity.name value fault ∨
      ∃ error, fault = .refused error ∧ error.property = Property.severity.name := by
  rw [Setting.ofValue] at offends
  cases value with
  | text text =>
    rw [Conversion.toSeverity, Conversion.severityOf] at offends
    cases found : Severity.ofText? text with
    | none =>
      rw [found] at offends
      cases offends
      exact .inr ⟨_, rfl, rfl⟩
    | some severity =>
      rw [found] at offends
      cases offends
  | _ =>
    cases offends
    exact .inl (.severity (by simp))

theorem format_offence (offends : Setting.ofValue profile .ignoreFormat value = .error fault) :
    Escapes Property.ignoreFormat.name value fault ∨
      ∃ error, fault = .refused error ∧ error.property = Property.ignoreFormat.name := by
  rw [Setting.ofValue] at offends
  by_cases empty : Conversion.toPatternText value = ""
  · rw [if_pos empty] at offends
    cases offends
  · rw [if_neg empty, filterOf] at offends
    cases read : Pattern.read (Conversion.toPatternText value) with
    | ok regex =>
      rw [read] at offends
      cases offends
    | error fault =>
      rw [read] at offends
      cases fault with
      | malformed cause offset =>
        cases offends
        exact .inr ⟨_, rfl, rfl⟩
      | _ =>
        cases offends
        exact .inl (.pattern empty read (by simp))

theorem flag_offence {property : Property} {toSetting : Bool → Setting}
    (offends : ((Conversion.toBool property.name value).mapError SettingFault.refused).map
      toSetting = .error fault) :
    ∃ error, fault = .refused error ∧ error.property = property.name := by
  by_cases boolean : ∃ meaning, value = .bool meaning
  · rcases boolean with ⟨meaning, rfl⟩
    cases offends
  · rw [toBool_of_noBoolean fun meaning same => boolean ⟨meaning, same⟩] at offends
    cases found : Conversion.wordMeaning? value.plain with
    | none =>
      rw [found] at offends
      cases offends
      exact ⟨_, rfl, rfl⟩
    | some meaning =>
      rw [found] at offends
      cases offends

theorem offence_cases (offends : Setting.ofEntry profile (name, value) = .error fault) :
    Escapes name value fault ∨ ∃ error, fault = .refused error ∧ error.property = name := by
  rw [Setting.ofEntry] at offends
  dsimp only at offends
  cases found : Property.ofName? name with
  | none =>
    rw [found] at offends
    cases offends
    exact .inr ⟨_, rfl, rfl⟩
  | some property =>
    rw [found] at offends
    have named := Property.ofName?_eq_some_iff.mp found
    subst named
    cases property with
    | tokens => exact tokens_offence offends
    | severity => exact severity_offence offends
    | ignoreFormat => exact format_offence offends
    | ignoreSetter => exact .inr (flag_offence offends)
    | ignoreConstructorParameter => exact .inr (flag_offence offends)

/-! ## What configuring answers -/

/-- Configuring succeeds if all entries are valid. Else it ends at the first that is not, and
refuses it by its name, but for the values that escape refusal. -/
theorem configure_refuses_or_escapes (check : HiddenField) (properties : List (String × Value)) :
    let configured := (Check.hiddenField check).configure properties
    (configured.fault = none ∧ ∀ entry ∈ properties, IsValid check.core.profile entry) ∨
      ∃ before name value,
        StopsAt (IsValid check.core.profile) properties before (name, value) ∧
        ((∃ error, configured.fault = some (.refused error) ∧ error.property = name ∧
            ∀ fault, ¬ Escapes name value fault) ∨
          ∃ fault, configured.fault = some fault ∧ Escapes name value fault) := by
  have meansIsValid : Means check.core.profile = IsValid check.core.profile := by
    funext entry
    exact propext means_iff_isValid
  -- What means nothing is what is not valid, so the first of the one is that of the other.
  rcases configure_cases check properties with succeeded | stopped
  · exact .inl (meansIsValid ▸ succeeded)
  · rcases stopped with ⟨before, ⟨name, value⟩, stops⟩
    have meansNothing : ¬ Means check.core.profile (name, value) := by
      rcases stops with ⟨rest, -, -, meansNothing⟩
      exact meansNothing
    rcases exists_offence_of_not_means meansNothing with ⟨fault, offends⟩
    rcases configure_of_stopsAt stops offends with ⟨-, -, -, failed⟩
    refine .inr ⟨before, name, value, meansIsValid ▸ stops, ?_⟩
    rcases offence_cases offends with escapes | ⟨error, rfl, named⟩
    · exact .inr ⟨fault, failed, escapes⟩
    · refine .inl ⟨error, failed, named, ?_⟩
      intro other escapes
      cases offends.symm.trans escapes.ofEntry_eq
      exact escapes.not_refused error rfl

/-- A number given for the severity is not valid and is not refused either. -/
theorem number_for_severity_escapes :
    ¬ IsValid HiddenField.profile (Property.severity.name, .int 5) ∧
      ((Check.hiddenField .initial).configure [(Property.severity.name, .int 5)]).fault =
        some .notText ∧
      ¬ ∃ error, ((Check.hiddenField .initial).configure
        [(Property.severity.name, .int 5)]).fault = some (.refused error) := by
  have offends : Setting.ofEntry HiddenField.profile (Property.severity.name, .int 5) =
      .error .notText :=
    Escapes.ofEntry_eq (.severity nofun)
  have failed : ((Check.hiddenField .initial).configure
      [(Property.severity.name, .int 5)]).fault = some .notText :=
    (configure_of_offence offends []).2
  refine ⟨?_, failed, ?_⟩
  · rw [← means_iff_isValid, means_iff, offends]
    exact nofun
  · rw [failed]
    exact nofun

end HiddenField

end ShadowLint
