import ShadowLint.Proofs.Check.Setting

/-!
Where configuring ends. What an entry means does not depend on the entries before it, so
that the first one that means nothing is where configuring ends, with what is wrong with it
and with the settings of the entries before it (`HiddenField.configure_of_stopsAt`).
-/

namespace ShadowLint.HiddenField

open List (Forall₂)

/-- The setting that an entry means, or what is wrong with the entry. -/
def Setting.ofEntry (profile : Profile) (entry : String × Value) : Except SettingFault Setting :=
  match Property.ofName? entry.1 with
  | none =>
    .error (.refused (.unknownProperty entry.1 profile.name entry.2
      (Check.hiddenField .initial).propertyNames))
  | some property => ofValue profile property entry.2

def Means (profile : Profile) (entry : String × Value) : Prop :=
  ∃ setting, Setting.IsMeantBy profile entry setting

variable {profile : Profile} {check : HiddenField} {entry : String × Value}
  {properties before : List (String × Value)} {settings : List Setting}

theorem Setting.isMeantBy_iff {setting : Setting} :
    setting.IsMeantBy profile entry ↔ ofEntry profile entry = .ok setting := by
  rw [IsMeantBy, ofEntry]
  constructor
  · rintro ⟨named, meant⟩
    rw [← named, Property.ofName?_name]
    exact meant
  · intro meant
    cases found : Property.ofName? entry.1 with
    | none =>
      rw [found] at meant
      cases meant
    | some property =>
      rw [found] at meant
      have same := property_of_ofValue meant
      exact ⟨same ▸ Property.ofName?_eq_some_iff.mp found, same ▸ meant⟩

theorem means_iff :
    Means profile entry ↔ ∃ setting, Setting.ofEntry profile entry = .ok setting := by
  simp only [Means, Setting.isMeantBy_iff]

theorem exists_offence_of_not_means (meansNothing : ¬ Means profile entry) :
    ∃ fault, Setting.ofEntry profile entry = .error fault := by
  rw [means_iff] at meansNothing
  cases meant : Setting.ofEntry profile entry with
  | error fault => exact ⟨fault, rfl⟩
  | ok setting => exact absurd ⟨setting, meant⟩ meansNothing

theorem configure_of_offence {fault : SettingFault}
    (offends : Setting.ofEntry check.core.profile entry = .error fault)
    (rest : List (String × Value)) :
    let configured := (Check.hiddenField check).configure (entry :: rest)
    configured.check = .hiddenField check ∧ configured.fault = some fault := by
  rcases entry with ⟨name, value⟩
  rw [Check.configure, property?_eq]
  rw [Setting.ofEntry] at offends
  dsimp only at offends ⊢
  cases found : Property.ofName? name with
  | none =>
    rw [found] at offends
    cases offends
    exact ⟨rfl, rfl⟩
  | some property =>
    rw [found] at offends
    simp only [set_eq, offends]
    exact ⟨rfl, rfl⟩

theorem configure_append (each : Forall₂ (Setting.IsMeantBy check.core.profile) before settings)
    (rest : List (String × Value)) :
    let configured := (Check.hiddenField check).configure (before ++ rest)
    let later := (Check.hiddenField (check.putAll settings)).configure rest
    configured.check = later.check ∧ configured.fault = later.fault := by
  induction before generalizing check settings with
  | nil =>
    cases each
    exact ⟨rfl, rfl⟩
  | cons first others induction =>
    cases each with
    | @cons _ setting _ settings meant each =>
      rcases first with ⟨name, value⟩
      rcases meant with ⟨rfl, meant⟩
      have profile := (isVariantOf_put check setting).profile
      rcases configure_of_meant meant (others ++ rest) with ⟨sameCheck, sameFault⟩
      rcases induction (profile.symm ▸ each) with ⟨sameCheckLater, sameFaultLater⟩
      exact ⟨sameCheck.trans sameCheckLater, sameFault.trans sameFaultLater⟩

theorem configure_of_stopsAt (stops : StopsAt (Means check.core.profile) properties before entry)
    {fault : SettingFault} (offends : Setting.ofEntry check.core.profile entry = .error fault) :
    let configured := (Check.hiddenField check).configure properties
    ∃ settings, Forall₂ (Setting.IsMeantBy check.core.profile) before settings ∧
      configured.check = .hiddenField (check.putAll settings) ∧ configured.fault = some fault := by
  rcases stops with ⟨rest, rfl, each, -⟩
  rcases exists_forall₂ each with ⟨settings, meant⟩
  have profile := (isVariantOf_putAll check settings).profile
  rcases configure_append meant (entry :: rest) with ⟨sameCheck, sameFault⟩
  rcases configure_of_offence (profile.symm ▸ offends) rest with ⟨ended, failed⟩
  exact ⟨settings, meant, sameCheck.trans ended, sameFault.trans failed⟩

theorem configure_cases (check : HiddenField) (properties : List (String × Value)) :
    (((Check.hiddenField check).configure properties).fault = none ∧
        ∀ entry ∈ properties, Means check.core.profile entry) ∨
      ∃ before entry, StopsAt (Means check.core.profile) properties before entry := by
  by_cases all : ∀ entry ∈ properties, Means check.core.profile entry
  · rcases exists_forall₂ all with ⟨settings, each⟩
    exact .inl ⟨(configure_succeeds_iff.mpr ⟨settings, each, rfl⟩).2, all⟩
  · exact .inr (exists_stop_of_not_forall all)

end ShadowLint.HiddenField
