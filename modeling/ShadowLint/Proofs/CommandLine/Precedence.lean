import ShadowLint.Proofs.Check.Setting
import ShadowLint.Proofs.CommandLine.Building
import ShadowLint.Proofs.Json.RoundTrip

/-!
Options over the configuration file over the defaults. Whether the check can be built, and
what it is then set to, depends for each property on one value: that of the option if it is
given, and else that of the file (`CommandLine.options_over_file_over_defaults`).
-/

namespace ShadowLint

open List (Forall₂)

/-! ## The configuration file -/

/-- The member of a configuration file that a configuration is read from. -/
def CheckConfig.member (config : CheckConfig) : String × Value :=
  (config.name, .object config.properties)

namespace Config

theorem checksOf_eq_ok_iff {members : List (String × Value)} {configs : List CheckConfig} :
    checksOf members = .ok configs ↔ members = configs.map CheckConfig.member := by
  induction members generalizing configs with
  | nil => cases configs <;> simp [checksOf]
  | cons member rest induction =>
    rcases member with ⟨name, value⟩
    constructor
    · intro succeeded
      cases value with
      | object properties =>
        rcases Success.of_map succeeded with ⟨others, inOthers, rfl⟩
        rw [List.map_cons, ← induction.mp inOthers, CheckConfig.member]
      | _ => cases succeeded
    · intro split
      cases configs with
      | nil => cases split
      | cons config others =>
        rw [List.map_cons] at split
        rcases List.cons.inj split with ⟨first, later⟩
        cases first
        rw [checksOf, induction.mpr later]
        rfl

theorem load_eq_ok_iff {files : Files} {path : String} {configs : List CheckConfig} :
    load files path = .ok configs ↔
      valueOfFile files (normalPath path) = .ok (.object (configs.map CheckConfig.member)) := by
  rw [load]
  cases valueOfFile files (normalPath path) with
  | error reason => exact ⟨nofun, nofun⟩
  | ok value =>
    cases value with
    | object members => simp [checksOf_eq_ok_iff]
    | _ => exact ⟨nofun, nofun⟩

theorem exists_checks {members : List (String × Value)}
    (objects : ∀ member ∈ members, ∃ held, member.2 = .object held) :
    ∃ configs : List CheckConfig, members = configs.map CheckConfig.member := by
  induction members with
  | nil => exact ⟨[], rfl⟩
  | cons member rest induction =>
    rcases member with ⟨name, value⟩
    rcases List.forall_mem_cons.mp objects with ⟨⟨held, isObject⟩, later⟩
    rcases induction later with ⟨configs, equal⟩
    exact ⟨⟨name, held⟩ :: configs, by rw [List.map_cons, ← equal, CheckConfig.member, ← isObject]⟩

end Config

namespace CommandLine

/-- What the configuration file gives for the check for hidden fields: nothing if no file is
named. Else the file is a JSON object that has objects for members and none for another
check. -/
inductive Arguments.FileGives (arguments : Arguments) (files : Files) :
    List (String × Value) → Prop
  | absent (unnamed : arguments.config.getD "" = "") : FileGives arguments files []
  | present {path : String} {members properties : List (String × Value)}
      (named : arguments.config = some path) (nonempty : path ≠ "")
      (reads : Config.valueOfFile files (normalPath path) = .ok (.object members))
      (own : ∀ member ∈ members,
        member.1 = HiddenField.profile.name ∧ ∃ held, member.2 = .object held)
      (held : (members.lookup HiddenField.profile.name).getD (.object []) = .object properties) :
      FileGives arguments files properties

theorem lookup_members (configs : List CheckConfig) (name : String) :
    (configs.map CheckConfig.member).lookup name =
      (configs.find? fun config => config.name = name).map fun config =>
        .object config.properties := by
  induction configs with
  | nil => rfl
  | cons config rest induction =>
    rw [List.map_cons, CheckConfig.member, lookup_member_cons, List.find?_cons, induction]
    by_cases same : config.name = name
    · simp [same]
    · simp [same, Ne.symm same]

theorem object_givenProperties (configs : List CheckConfig) :
    ((configs.map CheckConfig.member).lookup HiddenField.profile.name).getD (.object []) =
      .object (givenProperties configs) := by
  rw [lookup_members, givenProperties]
  cases configs.find? fun config => config.name = HiddenField.profile.name <;> rfl

variable {arguments : Arguments} {files : Files} {configs : List CheckConfig}
  {properties : List (String × Value)}

theorem configured_eq_ok_iff :
    arguments.configured files = .ok configs ↔
      arguments.config.getD "" = "" ∧ configs = [] ∨
        ∃ path, arguments.config = some path ∧ path ≠ "" ∧
          Config.load files path = .ok configs := by
  rw [Arguments.configured]
  cases arguments.config with
  | none => simp [eq_comm]
  | some path => by_cases empty : path = "" <;> simp [empty, eq_comm]

theorem fileGives_iff :
    arguments.FileGives files properties ↔
      ∃ configs, arguments.configured files = .ok configs ∧
        (∀ config ∈ configs, config.name = HiddenField.profile.name) ∧
        givenProperties configs = properties := by
  simp only [configured_eq_ok_iff, Config.load_eq_ok_iff]
  constructor
  · intro gives
    cases gives with
    | absent unnamed => exact ⟨[], .inl ⟨unnamed, rfl⟩, nofun, rfl⟩
    | @present path members _ named nonempty reads own held =>
      rcases Config.exists_checks fun member inside => (own member inside).2 with ⟨configs, rfl⟩
      refine ⟨configs, .inr ⟨path, named, nonempty, reads⟩, ?_, ?_⟩
      · intro config inside
        exact (own _ (List.mem_map_of_mem inside)).1
      · rw [object_givenProperties] at held
        exact Value.object.inj held
  · intro configured
    rcases configured with ⟨configs, ⟨unnamed, rfl⟩ | ⟨path, named, nonempty, reads⟩, own, rfl⟩
    · exact .absent unnamed
    · refine .present named nonempty reads ?_ (object_givenProperties configs)
      intro member inside
      rcases List.mem_map.mp inside with ⟨config, isConfig, rfl⟩
      exact ⟨own config isConfig, _, rfl⟩

theorem Arguments.FileGives.nodup_names (gives : arguments.FileGives files properties) :
    (properties.map Prod.fst).Nodup := by
  cases gives with
  | absent _ => exact List.nodup_nil
  | @present path members _ _ _ reads _ held =>
    have distinct := Config.hasDistinctNames_of_valueOfFile reads
    cases found : members.lookup HiddenField.profile.name with
    | none =>
      rw [found] at held
      cases held
      exact List.nodup_nil
    | some value =>
      rw [found] at held
      have isObject : value = .object properties := held
      have inner := distinct.of_member (mem_of_lookup found)
      rw [isObject] at inner
      exact inner.nodup

/-! ## Merging -/

def Arguments.option? (arguments : Arguments) : Property → Option Value
  | .tokens => arguments.tokens.map .text
  | .severity => arguments.severity.map fun severity => .text severity.name
  | .ignoreFormat => arguments.ignoreFormat.map .text
  | .ignoreSetter => arguments.ignoreSetter.map .bool
  | .ignoreConstructorParameter => arguments.ignoreConstructorParameter.map .bool

/-- What is asked for a property: what an option gives and else what the file gives. -/
def Arguments.asked? (arguments : Arguments) (properties : List (String × Value))
    (property : Property) : Option Value :=
  (arguments.option? property).or (properties.lookup property.name)

theorem lookup_given {Content : Type} (given : Option Content) (toValue : Content → Value)
    (property other : Property) :
    ((given.map fun content => (property.name, toValue content)).toList).lookup other.name =
      if other = property then given.map toValue else none := by
  cases given with
  | none => simp
  | some content =>
    rw [Option.map_some, Option.toList_some, lookup_member_cons]
    by_cases same : other = property
    · rw [if_pos same, if_pos (congrArg Property.name same), Option.map_some]
    · rw [if_neg same, if_neg fun sameName => same (Property.name_injective sameName)]
      rfl

theorem lookup_overrides (arguments : Arguments) (property : Property) :
    arguments.overrides.lookup property.name = arguments.option? property := by
  unfold Arguments.overrides
  simp only [List.lookup_append, lookup_given]
  cases property <;> simp [Arguments.option?]

theorem nodup_names_overrides (arguments : Arguments) :
    (arguments.overrides.map Prod.fst).Nodup := by
  rw [← overridden_nil_overrides]
  exact nodup_names_membersOf arguments.overrides

theorem nodup_names_overridden (distinct : (properties.map Prod.fst).Nodup)
    (overrides : List (String × Value)) :
    ((overridden properties overrides).map Prod.fst).Nodup := by
  induction overrides generalizing properties with
  | nil => exact distinct
  | cons entry rest induction => exact induction (nodup_names_putMember distinct _ _)

theorem lookup_overridden {overrides : List (String × Value)}
    (distinct : (overrides.map Prod.fst).Nodup) (name : String) :
    (overridden properties overrides).lookup name =
      (overrides.lookup name).or (properties.lookup name) := by
  induction overrides generalizing properties with
  | nil => rfl
  | cons entry rest induction =>
    rcases entry with ⟨first, held⟩
    rcases List.nodup_cons.mp distinct with ⟨outside, distinctRest⟩
    change (overridden (putMember properties first held) rest).lookup name = _
    rw [induction distinctRest, lookup_putMember, lookup_member_cons]
    by_cases same : name = first
    · have absent : rest.lookup name = none := by
        rw [lookup_eq_none_iff_forall_ne]
        intro member inside sameName
        have named : member.1 ∈ rest.map Prod.fst := List.mem_map_of_mem inside
        exact outside (sameName.trans same ▸ named)
      rw [absent, if_pos same, if_pos same]
      rfl
    · rw [if_neg same, if_neg same]

theorem lookup_merged (arguments : Arguments) (properties : List (String × Value))
    (property : Property) :
    (overridden properties arguments.overrides).lookup property.name =
      arguments.asked? properties property := by
  rw [lookup_overridden (nodup_names_overrides arguments), lookup_overrides, Arguments.asked?]

/-! ## Building -/

theorem result_checks_iff {checks : List Check} :
    (arguments.checks files).result = .ok checks ↔
      ∃ properties, arguments.FileGives files properties ∧
        ∃ settings, Forall₂ (HiddenField.Setting.IsMeantBy HiddenField.profile)
            (overridden properties arguments.overrides) settings ∧
          checks = [.hiddenField (HiddenField.initial.putAll settings)] := by
  simp only [fileGives_iff, result_checks_eq_ok_iff]
  constructor
  · intro asked
    rcases asked with ⟨configs, check, configured, own, rfl, isConfigured⟩
    rcases HiddenField.configure_succeeds_iff.mp isConfigured with ⟨settings, each, rfl⟩
    exact ⟨_, ⟨configs, configured, own, rfl⟩, settings, each, rfl⟩
  · intro given
    rcases given with ⟨_, ⟨configs, configured, own, rfl⟩, settings, each, rfl⟩
    exact ⟨configs, _, configured, own, rfl,
      HiddenField.configure_succeeds_iff.mpr ⟨settings, each, rfl⟩⟩

theorem Arguments.FileGives.unique {others : List (String × Value)}
    (gives : arguments.FileGives files properties) (givesToo : arguments.FileGives files others) :
    properties = others := by
  rcases fileGives_iff.mp gives with ⟨configs, configured, -, rfl⟩
  rcases fileGives_iff.mp givesToo with ⟨_, configuredToo, -, rfl⟩
  cases configured.symm.trans configuredToo
  rfl

theorem known_overrides (arguments : Arguments) :
    ∀ entry ∈ arguments.overrides, ∃ property : Property, property.name = entry.1 := by
  intro entry inside
  simp only [Arguments.overrides, List.mem_append, Option.mem_toList, Option.map_eq_some_iff]
    at inside
  rcases inside with (((⟨_, _, rfl⟩ | ⟨_, _, rfl⟩) | ⟨_, _, rfl⟩) | ⟨_, _, rfl⟩) | ⟨_, _, rfl⟩
  · exact ⟨.tokens, rfl⟩
  · exact ⟨.ignoreFormat, rfl⟩
  · exact ⟨.ignoreSetter, rfl⟩
  · exact ⟨.ignoreConstructorParameter, rfl⟩
  · exact ⟨.severity, rfl⟩

theorem known_merged_iff (distinct : (properties.map Prod.fst).Nodup) :
    (∀ entry ∈ overridden properties arguments.overrides,
        ∃ property : Property, property.name = entry.1) ↔
      ∀ entry ∈ properties, ∃ property : Property, property.name = entry.1 := by
  have lookup (name : String) : (overridden properties arguments.overrides).lookup name =
      (arguments.overrides.lookup name).or (properties.lookup name) :=
    lookup_overridden (nodup_names_overrides arguments) name
  constructor
  · intro known entry inside
    have held : properties.lookup entry.1 = some entry.2 := lookup_of_mem distinct inside
    cases found : (overridden properties arguments.overrides).lookup entry.1 with
    | some value => exact known (entry.1, value) (mem_of_lookup found)
    | none =>
      rw [lookup, Option.or_eq_none_iff, held] at found
      cases found.2
  · intro known entry inside
    have found : (overridden properties arguments.overrides).lookup entry.1 = some entry.2 :=
      lookup_of_mem (nodup_names_overridden distinct _) inside
    rw [lookup, Option.or_eq_some_iff] at found
    rcases found with optional | ⟨-, inFile⟩
    · exact known_overrides arguments _ (mem_of_lookup optional)
    · exact known _ (mem_of_lookup inFile)

theorem merged_means_iff (distinct : (properties.map Prod.fst).Nodup) :
    (∀ entry ∈ overridden properties arguments.overrides,
        ∃ setting, HiddenField.Setting.IsMeantBy HiddenField.profile entry setting) ↔
      (∀ entry ∈ properties, ∃ property : Property, property.name = entry.1) ∧
        ∀ property value, arguments.asked? properties property = some value →
          ∃ setting,
            HiddenField.Setting.ofValue HiddenField.profile property value = .ok setting := by
  simp only [← lookup_merged]
  rw [← known_merged_iff distinct]
  constructor
  · intro means
    constructor
    · intro entry inside
      rcases means entry inside with ⟨setting, named, -⟩
      exact ⟨setting.property, named⟩
    · intro property value asked
      rcases means _ (mem_of_lookup asked) with ⟨setting, named, meant⟩
      exact ⟨setting, Property.name_injective named ▸ meant⟩
  · intro given entry inside
    rcases given with ⟨known, means⟩
    rcases known entry inside with ⟨property, named⟩
    have found : (overridden properties arguments.overrides).lookup property.name =
        some entry.2 :=
      lookup_of_mem (nodup_names_overridden distinct _) (named ▸ inside)
    rcases means property entry.2 found with ⟨setting, meant⟩
    have same := HiddenField.Setting.property_of_ofValue meant
    exact ⟨setting, same ▸ named, same ▸ meant⟩

theorem built_follows (gives : arguments.FileGives files properties) {checks : List Check}
    (built : (arguments.checks files).result = .ok checks) :
    ∃ check : HiddenField, checks = [.hiddenField check] ∧ check.IsVariantOf .initial ∧
      ∀ property, check.Follows .initial property (arguments.asked? properties property) := by
  rcases result_checks_iff.mp built with ⟨others, givesToo, settings, each, rfl⟩
  cases gives.unique givesToo
  refine ⟨_, rfl, HiddenField.isVariantOf_putAll _ settings, ?_⟩
  have distinct := nodup_names_overridden gives.nodup_names arguments.overrides
  intro property
  have profile : HiddenField.initial.core.profile = HiddenField.profile := rfl
  have follows := HiddenField.follows_putAll distinct (profile.symm ▸ each) property
  rw [lookup_merged] at follows
  exact follows

theorem built_iff_means (gives : arguments.FileGives files properties) :
    (∃ checks, (arguments.checks files).result = .ok checks) ↔
      (∀ entry ∈ properties, ∃ property : Property, property.name = entry.1) ∧
        ∀ property value, arguments.asked? properties property = some value →
          ∃ setting,
            HiddenField.Setting.ofValue HiddenField.profile property value = .ok setting := by
  rw [← merged_means_iff gives.nodup_names]
  constructor
  · intro built
    rcases built with ⟨checks, built⟩
    rcases result_checks_iff.mp built with ⟨others, givesToo, settings, each, -⟩
    cases gives.unique givesToo
    intro entry inside
    rcases exists_mem_of_forall₂ each entry inside with ⟨setting, -, meant⟩
    exact ⟨setting, meant⟩
  · intro means
    rcases exists_forall₂ means with ⟨settings, each⟩
    exact ⟨_, result_checks_iff.mpr ⟨properties, gives, settings, each, rfl⟩⟩

/-- An entry that no option takes the place of. -/
def Arguments.Leaves (arguments : Arguments) (entry : String × Value) : Prop :=
  ∀ property : Property, property.name = entry.1 → arguments.option? property = none

/-- The files give the same entries, but for those that options take the place of. -/
def Arguments.GiveAlike (arguments : Arguments) (files others : Files) : Prop :=
  ∃ properties otherProperties, arguments.FileGives files properties ∧
    arguments.FileGives others otherProperties ∧
    ∀ entry, arguments.Leaves entry → (entry ∈ properties ↔ entry ∈ otherProperties)

theorem Arguments.GiveAlike.symm {others : Files} (alike : arguments.GiveAlike files others) :
    arguments.GiveAlike others files := by
  rcases alike with ⟨properties, otherProperties, gives, givesToo, same⟩
  exact ⟨otherProperties, properties, givesToo, gives, fun entry leaves => (same entry leaves).symm⟩

theorem asked?_eq_of_same {otherProperties : List (String × Value)}
    (distinct : (properties.map Prod.fst).Nodup)
    (distinctToo : (otherProperties.map Prod.fst).Nodup)
    (same : ∀ entry, arguments.Leaves entry → (entry ∈ properties ↔ entry ∈ otherProperties))
    (property : Property) :
    arguments.asked? properties property = arguments.asked? otherProperties property := by
  unfold Arguments.asked?
  cases optional : arguments.option? property with
  | some value => rfl
  | none =>
    have leaves (value : Value) : arguments.Leaves (property.name, value) := by
      intro other sameName
      rw [Property.name_injective sameName]
      exact optional
    rw [Option.none_or, Option.none_or]
    exact lookup_congr distinct distinctToo fun value => same _ (leaves value)

theorem built_of_giveAlike {others : Files} (alike : arguments.GiveAlike files others)
    {checks : List Check} (built : (arguments.checks files).result = .ok checks) :
    (arguments.checks others).result = .ok checks := by
  rcases alike with ⟨properties, otherProperties, gives, givesToo, same⟩
  have asked := asked?_eq_of_same gives.nodup_names givesToo.nodup_names same
  rcases (built_iff_means gives).mp ⟨checks, built⟩ with ⟨known, means⟩
  have knownToo : ∀ entry ∈ otherProperties, ∃ property : Property, property.name = entry.1 := by
    intro entry inside
    by_cases isKnown : ∃ property : Property, property.name = entry.1
    · exact isKnown
    · have leaves : arguments.Leaves entry := fun property named =>
        absurd ⟨property, named⟩ isKnown
      exact known entry ((same entry leaves).mpr inside)
  rcases (built_iff_means givesToo).mpr ⟨knownToo, fun property => asked property ▸ means property⟩
    with ⟨otherChecks, builtToo⟩
  rcases built_follows gives built with ⟨check, rfl, variant, follows⟩
  rcases built_follows givesToo builtToo with ⟨other, rfl, variantToo, followsToo⟩
  have equal : check = other :=
    HiddenField.eq_of_follows variant variantToo follows fun property =>
      asked property ▸ followsToo property
  rw [equal]
  exact builtToo

/-! ## What options set -/

theorem accepted_iff (property : Property) (value : Value) :
    (∃ after, (Check.hiddenField .initial).set property value = .ok after) ↔
      ∃ setting, HiddenField.Setting.ofValue HiddenField.profile property value = .ok setting := by
  have profile : HiddenField.initial.core.profile = HiddenField.profile := rfl
  rw [HiddenField.set_eq, profile]
  constructor
  · intro succeeded
    rcases succeeded with ⟨after, succeeded⟩
    rcases Success.of_map succeeded with ⟨setting, meant, -⟩
    exact ⟨setting, meant⟩
  · intro means
    rcases means with ⟨setting, meant⟩
    rw [meant]
    exact ⟨_, rfl⟩

theorem toSeverity_name (severity : Severity) :
    Conversion.toSeverity (.text severity.name) = .ok severity := by
  have meant : Severity.ofText? severity.name = some severity := by
    cases severity <;> decide +kernel
  rw [Conversion.toSeverity, Conversion.severityOf, meant]
  rfl

theorem toNames_empty : Conversion.toNames (.text "") = .ok [] := rfl

/-- What options of a fixed meaning set, whatever is in the file. -/
structure Arguments.IsObeyedBy (arguments : Arguments) (check : HiddenField) : Prop where
  ignoreSetter : ∀ ignore, arguments.ignoreSetter = some ignore → check.ignoreSetter = ignore
  ignoreConstructorParameter : ∀ ignore, arguments.ignoreConstructorParameter = some ignore →
    check.ignoreConstructorParameter = ignore
  severity : ∀ severity, arguments.severity = some severity → check.core.severity = severity
  noTokens : arguments.tokens = some "" → check.core.chosenKinds = some (.ofList [])
  noFormat : arguments.ignoreFormat = some "" → check.ignoreFormat = none

theorem isObeyedBy_of_follows {check : HiddenField}
    (follows : ∀ property,
      check.Follows .initial property (arguments.asked? properties property)) :
    arguments.IsObeyedBy check := by
  have set {property : Property} {value : Value} {setting : HiddenField.Setting}
      (given : arguments.option? property = some value)
      (meant : HiddenField.Setting.ofValue HiddenField.profile property value = .ok setting) :
      check.setting property = setting := by
    have followed := follows property
    rw [Arguments.asked?, given] at followed
    exact Except.ok.inj (followed.symm.trans meant)
  refine ⟨?_, ?_, ?_, ?_, ?_⟩
  · intro ignore given
    have option : arguments.option? .ignoreSetter = some (.bool ignore) :=
      congrArg (Option.map Value.bool) given
    exact HiddenField.Setting.ignoreSetter.inj (set option rfl)
  · intro ignore given
    have option : arguments.option? .ignoreConstructorParameter = some (.bool ignore) :=
      congrArg (Option.map Value.bool) given
    exact HiddenField.Setting.ignoreConstructorParameter.inj (set option rfl)
  · intro severity given
    have option : arguments.option? .severity = some (.text severity.name) :=
      congrArg (Option.map fun severity : Severity => Value.text severity.name) given
    have meant : HiddenField.Setting.ofValue HiddenField.profile .severity (.text severity.name) =
        .ok (.severity severity) := by
      rw [HiddenField.Setting.ofValue, toSeverity_name]
      rfl
    exact HiddenField.Setting.severity.inj (set option meant)
  · intro given
    have option : arguments.option? .tokens = some (.text "") :=
      congrArg (Option.map Value.text) given
    have meant : HiddenField.Setting.ofValue HiddenField.profile .tokens (.text "") =
        .ok (.tokens (some (.ofList []))) := by
      rw [HiddenField.Setting.ofValue, toNames_empty]
      rfl
    exact HiddenField.Setting.tokens.inj (set option meant)
  · intro given
    have option : arguments.option? .ignoreFormat = some (.text "") :=
      congrArg (Option.map Value.text) given
    exact HiddenField.Setting.ignoreFormat.inj (set option rfl)

/-- A configuration in which the value for the exemption of setters is no boolean. -/
def unusable : String := "\x7b\"HiddenField\": \x7b\"ignoreSetter\": []\x7d\x7d"

def onlyUnusable : Files where
  read _ := .ok (unusable.toList.map fun char => .ofNat char.toNat)

theorem read_unusable : Json.read unusable.toList =
    .ok (.object [("HiddenField", .object [("ignoreSetter", .list [])])]) := by
  have written : unusable.toList =
      Json.encode (.object [("HiddenField", .object [("ignoreSetter", .list [])])]) := by
    decide +kernel
  rw [written]
  refine Json.read_encode (.object (by simp) (List.forall_mem_singleton.mpr ?_))
  exact .object (by simp) (List.forall_mem_singleton.mpr (.list (List.forall_mem_nil _)))

theorem onlyUnusable_gives {arguments : Arguments} (named : arguments.config = some "c.json") :
    arguments.FileGives onlyUnusable [("ignoreSetter", .list [])] := by
  have decoded : Text.Encoding.utf8.decode (unusable.toList.map fun char => .ofNat char.toNat) =
      .ok unusable.toList := by
    decide +kernel
  have unified : Text.unifyLineEnds unusable.toList = unusable.toList := by decide +kernel
  have reads : Config.valueOfFile onlyUnusable (normalPath "c.json") =
      .ok (.object [("HiddenField", .object [("ignoreSetter", .list [])])]) := by
    simp only [Config.valueOfFile, onlyUnusable, Config.valueOfBytes, decoded, unified,
      read_unusable]
    rfl
  refine .present named (by decide) reads ?_ rfl
  intro member inside
  rw [List.mem_singleton.mp inside]
  exact ⟨rfl, _, rfl⟩

end CommandLine

end ShadowLint
