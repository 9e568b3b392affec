import ShadowLint.CommandLine.Run
import ShadowLint.Proofs.Check.History
import ShadowLint.Proofs.Json.DistinctNames

/-!
Which checks a command line asks for. The members of a configuration file have different
names, and there is one check that can be made by name; so if all checks can be made and
configured there is exactly one, the check for hidden fields, with the properties of the
file and of the options (`CommandLine.checks_eq_singleton`).
-/

namespace ShadowLint

/-! ## Configurations in files -/

namespace Config

theorem names_checksOf {members : List (String × Value)} {configs : List CheckConfig}
    (succeeded : checksOf members = .ok configs) :
    configs.map CheckConfig.name = members.map Prod.fst := by
  induction members generalizing configs with
  | nil =>
    cases succeeded
    rfl
  | cons member rest induction =>
    rcases member with ⟨name, value⟩
    cases value with
    | object properties =>
      rcases Success.of_map succeeded with ⟨others, inOthers, rfl⟩
      rw [List.map_cons, List.map_cons, induction inOthers]
    | _ => cases succeeded

theorem hasDistinctNames_of_valueOfFile {files : Files} {path : String} {value : Value}
    (succeeded : valueOfFile files path = .ok value) : Json.HasDistinctNames value := by
  unfold valueOfFile at succeeded
  split at succeeded
  · cases succeeded
  · unfold valueOfBytes at succeeded
    split at succeeded
    · cases succeeded
    · exact Json.hasDistinctNames_of_read (Success.of_mapError succeeded)

/-- No two configurations of a file are for checks of the same name. -/
theorem nodup_names_of_load {files : Files} {path : String} {configs : List CheckConfig}
    (loaded : load files path = .ok configs) : (configs.map CheckConfig.name).Nodup := by
  unfold load at loaded
  dsimp only at loaded
  split at loaded
  · cases loaded
  · rename_i members found
    rw [names_checksOf loaded]
    exact (hasDistinctNames_of_valueOfFile found).nodup
  · cases loaded

end Config

namespace CommandLine

theorem nodup_names_of_configured {arguments : Arguments} {files : Files}
    {configs : List CheckConfig} (succeeded : arguments.configured files = .ok configs) :
    (configs.map CheckConfig.name).Nodup := by
  unfold Arguments.configured at succeeded
  split at succeeded
  · cases succeeded
    exact List.nodup_nil
  · split at succeeded
    · cases succeeded
      exact List.nodup_nil
    · exact Config.nodup_names_of_load succeeded

/-! ## Making checks -/

namespace Noted

variable {First Second : Type} {first : Noted First} {next : First → Noted Second}

theorem result_andThen (first : Noted First) (next : First → Noted Second) :
    (first.andThen next).result = first.result >>= fun value => (next value).result := by
  unfold andThen
  cases first.result <;> rfl

theorem of_andThen {value : Second} (succeeded : (first.andThen next).result = .ok value) :
    ∃ given, first.result = .ok given ∧ (next given).result = .ok value := by
  rw [result_andThen] at succeeded
  exact Success.of_bind succeeded

end Noted

theorem of_make {name : String} {check : Check} (made : Registry.standard.make name = .ok check) :
    name = HiddenField.profile.name ∧ check = .hiddenField .initial := by
  unfold Registry.make at made
  split at made
  · rename_i found
    cases made
    simp only [Registry.standard, List.lookup_cons, List.lookup_nil] at found
    split at found
    · rename_i same
      exact ⟨eq_of_beq same, (Option.some.inj found).symm⟩
    · cases found
  · cases made

theorem result_of_createCheck {config : CheckConfig} {check : Check}
    (created : (createCheck config).result = .ok check) :
    config.name = HiddenField.profile.name ∧
      let configured := (Check.hiddenField .initial).configure config.properties
      configured.check = check ∧ configured.fault = none := by
  unfold createCheck at created
  split at created
  · cases created
  · rename_i configured found
    rcases Success.of_map found with ⟨made, isMade, rfl⟩
    rcases of_make isMade with ⟨name, rfl⟩
    dsimp only at created
    split at created
    · cases created
    · rename_i succeeded
      exact ⟨name, Except.ok.inj created, succeeded⟩

theorem name_of_createChecks {configs : List CheckConfig} {checks : List Check}
    (created : (createChecks configs).result = .ok checks) :
    ∀ config ∈ configs, config.name = HiddenField.profile.name := by
  induction configs generalizing checks with
  | nil => simp
  | cons config rest induction =>
    rcases Noted.of_andThen created with ⟨check, first, afterFirst⟩
    rcases Noted.of_andThen afterFirst with ⟨others, inRest, -⟩
    exact List.forall_mem_cons.mpr ⟨(result_of_createCheck first).1, induction inRest⟩

theorem result_of_createChecks_singleton {config : CheckConfig} {checks : List Check}
    (created : (createChecks [config]).result = .ok checks) :
    ∃ check, checks = [check] ∧ (createCheck config).result = .ok check := by
  rcases Noted.of_andThen created with ⟨check, first, afterFirst⟩
  rcases Noted.of_andThen afterFirst with ⟨others, inRest, answered⟩
  cases inRest
  exact ⟨check, (Except.ok.inj answered).symm, first⟩

/-! ## The check that is asked for -/

def givenProperties (configs : List CheckConfig) : List (String × Value) :=
  ((configs.find? fun config => config.name = HiddenField.profile.name).map
    CheckConfig.properties).getD []

/-- The check was just made, and then the properties were set that the configuration
file gives it, with the options in the place of those of the same name. -/
def Arguments.AsksFor (arguments : Arguments) (files : Files) (check : HiddenField) : Prop :=
  ∃ configs, arguments.configured files = .ok configs ∧
    let configured := (Check.hiddenField .initial).configure
      (overridden (givenProperties configs) arguments.overrides)
    configured.check = .hiddenField check ∧ configured.fault = none

theorem overridden_nil_overrides (arguments : Arguments) :
    overridden [] arguments.overrides = arguments.overrides := by
  rcases arguments with ⟨dumps, config, tokens, ignoreFormat, ignoreSetter, ignoreParameter,
    severity, format, verbosity⟩
  cases tokens <;> cases ignoreFormat <;> cases ignoreSetter <;> cases ignoreParameter <;>
    cases severity <;> rfl

theorem withOverrides_eq_singleton {arguments : Arguments} {configs : List CheckConfig}
    (distinct : (configs.map CheckConfig.name).Nodup)
    (known : ∀ config ∈ withOverrides arguments.overrides configs,
      config.name = HiddenField.profile.name) :
    withOverrides arguments.overrides configs =
      [⟨HiddenField.profile.name, overridden (givenProperties configs) arguments.overrides⟩] := by
  cases configs with
  | nil =>
    rw [withOverrides, givenProperties]
    simp [overridden_nil_overrides]
  | cons config rest =>
    rw [withOverrides] at known ⊢
    by_cases own : config.name = HiddenField.profile.name
    · rw [if_pos own] at known ⊢
      have alone : rest = [] := by
        rw [List.eq_nil_iff_forall_not_mem]
        intro other member
        have same := (known other (List.mem_cons_of_mem _ member)).trans own.symm
        exact (List.nodup_cons.mp distinct).1 (same ▸ List.mem_map_of_mem member)
      simp [alone, givenProperties, own]
    · rw [if_neg own] at known
      exact absurd (known config List.mem_cons_self) own

theorem own_withOverrides_iff {configs : List CheckConfig} (overrides : List (String × Value)) :
    (∀ config ∈ withOverrides overrides configs, config.name = HiddenField.profile.name) ↔
      ∀ config ∈ configs, config.name = HiddenField.profile.name := by
  induction configs with
  | nil => simp [withOverrides]
  | cons config rest induction =>
    rw [withOverrides]
    split
    · rw [List.forall_mem_cons, List.forall_mem_cons]
    · rw [List.forall_mem_cons, List.forall_mem_cons, induction]

theorem result_createCheck_iff {properties : List (String × Value)} {check : Check} :
    (createCheck ⟨HiddenField.profile.name, properties⟩).result = .ok check ↔
      ((Check.hiddenField .initial).configure properties).check = check ∧
        ((Check.hiddenField .initial).configure properties).fault = none := by
  constructor
  · intro created
    exact (result_of_createCheck created).2
  · intro configured
    have made : Registry.standard.create ⟨HiddenField.profile.name, properties⟩ =
        .ok ((Check.hiddenField .initial).configure properties) := rfl
    simp only [createCheck, made, configured.2, configured.1]

/-- Checks can be built if all configurations are for the check for hidden fields and it
can be configured; it is then the only one. -/
theorem result_checks_eq_ok_iff {arguments : Arguments} {files : Files} {checks : List Check} :
    (arguments.checks files).result = .ok checks ↔
      ∃ configs check, arguments.configured files = .ok configs ∧
        (∀ config ∈ configs, config.name = HiddenField.profile.name) ∧ checks = [check] ∧
        let configured := (Check.hiddenField .initial).configure
          (overridden (givenProperties configs) arguments.overrides)
        configured.check = check ∧ configured.fault = none := by
  constructor
  · intro built
    unfold Arguments.checks at built
    split at built
    · cases built
    · rename_i merged found
      rcases Success.of_map found with ⟨configs, configured, rfl⟩
      have own := name_of_createChecks built
      rw [withOverrides_eq_singleton (nodup_names_of_configured configured) own] at built
      rcases result_of_createChecks_singleton built with ⟨check, rfl, created⟩
      exact ⟨configs, check, configured, (own_withOverrides_iff _).mp own, rfl,
        result_createCheck_iff.mp created⟩
  · intro asked
    rcases asked with ⟨configs, check, configured, own, rfl, isConfigured⟩
    have created := result_createCheck_iff.mpr isConfigured
    have single := withOverrides_eq_singleton (nodup_names_of_configured configured)
      ((own_withOverrides_iff arguments.overrides).mpr own)
    simp only [Arguments.checks, Arguments.checkConfigs, configured, Except.map, single,
      createChecks, Noted.result_andThen, created]
    rfl

theorem checks_eq_singleton {arguments : Arguments} {files : Files} {checks : List Check}
    (built : (arguments.checks files).result = .ok checks) :
    ∃ check, checks = [.hiddenField check] ∧ arguments.AsksFor files check := by
  rcases result_checks_eq_ok_iff.mp built with
    ⟨configs, check, configured, -, rfl, isConfigured, succeeded⟩
  have isHider := Check.isLawful_kept.configure Check.isLawful_initial
    (overridden (givenProperties configs) arguments.overrides)
  rw [isConfigured] at isHider
  rcases isHider with ⟨hider, rfl, -⟩
  exact ⟨hider, rfl, configs, configured, isConfigured, succeeded⟩

theorem Arguments.AsksFor.isConfigured {arguments : Arguments} {files : Files}
    {check : HiddenField} (asked : arguments.AsksFor files check) : check.IsConfigured := by
  rcases asked with ⟨configs, -, configured, -⟩
  exact ⟨[.properties (overridden (givenProperties configs) arguments.overrides)], configured⟩

end CommandLine

end ShadowLint
