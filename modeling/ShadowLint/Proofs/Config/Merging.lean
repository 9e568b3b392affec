import ShadowLint.Proofs.CommandLine.Precedence
import ShadowLint.Proofs.Config.Failing

/-!
Configurations as maps. What configuring comes to depends on what is found for each
property, and on nothing else (`HiddenField.configured_iff`). So the order of the entries
does not matter, and to configure twice is to configure once with the second configuration
put over the first (`HiddenField.configurations_are_maps`).
-/

namespace ShadowLint

/-- Values for properties of different names, in the order in which they are to be set. -/
structure PropertyMap where
  entries : List (String × Value)
  distinct : (entries.map Prod.fst).Nodup

namespace PropertyMap

def value? (map : PropertyMap) (name : String) : Option Value := map.entries.lookup name

/-- The values of the second map over those of the first. -/
def updatedBy (given updates : PropertyMap) : PropertyMap where
  entries := CommandLine.overridden given.entries updates.entries
  distinct := CommandLine.nodup_names_overridden given.distinct updates.entries

variable {given other updates : PropertyMap}

theorem value?_eq_some_iff {name : String} {value : Value} :
    given.value? name = some value ↔ (name, value) ∈ given.entries :=
  lookup_eq_some_iff_mem given.distinct

theorem value?_eq_of_perm (reordered : given.entries.Perm other.entries) :
    given.value? = other.value? := by
  funext name
  exact lookup_congr given.distinct other.distinct fun _ => reordered.mem_iff

theorem value?_updatedBy (given updates : PropertyMap) (name : String) :
    (given.updatedBy updates).value? name = (updates.value? name).or (given.value? name) :=
  CommandLine.lookup_overridden updates.distinct name

end PropertyMap

namespace HiddenField

variable {first middle last check after : HiddenField} {given other updates : PropertyMap}

theorem Follows.trans {property : Property} {earlier later : Option Value}
    (profile : middle.core.profile = first.core.profile)
    (start : middle.Follows first property earlier) (stop : last.Follows middle property later) :
    last.Follows first property (later.or earlier) := by
  cases later with
  | some value =>
    rw [Follows, profile] at stop
    exact stop
  | none =>
    have same : last.setting property = middle.setting property := stop
    rw [Option.none_or]
    cases earlier with
    | none => exact same.trans start
    | some value =>
      rw [Follows, same]
      exact start

def AllMean (profile : Profile) (map : PropertyMap) : Prop :=
  ∀ name value, map.value? name = some value → Means profile (name, value)

theorem allMean_iff {profile : Profile} :
    AllMean profile given ↔ ∀ entry ∈ given.entries, Means profile entry := by
  simp only [AllMean, PropertyMap.value?_eq_some_iff, Prod.forall]

/-- The map is accepted by the check, and leads to the other. -/
structure Accepts (check : HiddenField) (map : PropertyMap) (after : HiddenField) : Prop where
  means : AllMean check.core.profile map
  variant : after.IsVariantOf check
  follows : ∀ property : Property, after.Follows check property (map.value? property.name)

theorem Accepts.congr (accepts : check.Accepts given after) (same : given.value? = other.value?) :
    check.Accepts other after := by
  rcases accepts with ⟨means, variant, follows⟩
  refine ⟨?_, variant, same ▸ follows⟩
  rw [AllMean] at means ⊢
  exact same ▸ means

theorem Accepts.updatedBy (start : first.Accepts given middle)
    (stop : middle.Accepts updates last) : first.Accepts (given.updatedBy updates) last := by
  have profile := start.variant.profile
  refine ⟨?_, stop.variant.trans start.variant, ?_⟩
  · intro name value found
    rw [PropertyMap.value?_updatedBy, Option.or_eq_some_iff] at found
    rcases found with updated | ⟨-, kept⟩
    · exact profile ▸ stop.means name value updated
    · exact start.means name value kept
  · intro property
    rw [PropertyMap.value?_updatedBy]
    exact (start.follows property).trans profile (stop.follows property)

theorem configured_iff {after : Check} :
    ((Check.hiddenField check).configure given.entries).check = after ∧
        ((Check.hiddenField check).configure given.entries).fault = none ↔
      ∃ hider, after = .hiddenField hider ∧ check.Accepts given hider := by
  rw [configure_succeeds_iff]
  constructor
  · intro meant
    rcases meant with ⟨settings, each, rfl⟩
    refine ⟨_, rfl, ?_, isVariantOf_putAll check settings, follows_putAll given.distinct each⟩
    rw [allMean_iff]
    intro entry inside
    rcases exists_mem_of_forall₂ each entry inside with ⟨setting, -, meant⟩
    exact ⟨setting, meant⟩
  · intro accepted
    rcases accepted with ⟨hider, rfl, means, variant, follows⟩
    rcases exists_forall₂ (allMean_iff.mp means) with ⟨settings, each⟩
    -- What is followed for each property leaves no choice but the check that is reached.
    have same : hider = check.putAll settings :=
      eq_of_follows variant (isVariantOf_putAll check settings) follows
        (follows_putAll given.distinct each)
    exact ⟨settings, each, by rw [same]⟩

theorem exists_accepts
    (succeeds : ((Check.hiddenField check).configure given.entries).fault = none) :
    ∃ after, ((Check.hiddenField check).configure given.entries).check = .hiddenField after ∧
      check.Accepts given after :=
  configured_iff.mp ⟨rfl, succeeds⟩

theorem succeeds_of_accepts (accepts : check.Accepts given after) :
    ((Check.hiddenField check).configure given.entries).check = .hiddenField after ∧
      ((Check.hiddenField check).configure given.entries).fault = none :=
  configured_iff.mpr ⟨after, rfl, accepts⟩

theorem succeeds_of_same_values (same : given.value? = other.value?)
    (succeeds : ((Check.hiddenField check).configure given.entries).fault = none) :
    ((Check.hiddenField check).configure other.entries).fault = none ∧
      ((Check.hiddenField check).configure given.entries).check =
        ((Check.hiddenField check).configure other.entries).check := by
  rcases exists_accepts succeeds with ⟨after, leads, accepts⟩
  rcases succeeds_of_accepts (accepts.congr same) with ⟨leadsToo, succeedsToo⟩
  exact ⟨succeedsToo, leads.trans leadsToo.symm⟩

/-- Configuring is free of order, and merges like a map. Entries that succeed in one order
succeed in every order, with the same check. If the check can be configured with one map
and then with another, it can be configured with the first updated by the second, with the
same check. -/
theorem configurations_are_maps (check : HiddenField) (given updates : PropertyMap) :
    (∀ reordered, given.entries.Perm reordered →
      let one := (Check.hiddenField check).configure given.entries
      let other := (Check.hiddenField check).configure reordered
      (one.fault = none ↔ other.fault = none) ∧ (one.fault = none → one.check = other.check)) ∧
    (let first := (Check.hiddenField check).configure given.entries
      let second := first.check.configure updates.entries
      let merged := (Check.hiddenField check).configure (given.updatedBy updates).entries
      first.fault = none → second.fault = none →
        merged.fault = none ∧ merged.check = second.check) := by
  constructor
  · intro reordered permuted
    have distinct : (reordered.map Prod.fst).Nodup :=
      (permuted.map Prod.fst).nodup_iff.mp given.distinct
    let other : PropertyMap := ⟨reordered, distinct⟩
    have same : given.value? = other.value? := PropertyMap.value?_eq_of_perm permuted
    refine ⟨⟨?_, ?_⟩, ?_⟩
    · intro succeeds
      exact (succeeds_of_same_values same succeeds).1
    · intro succeeds
      exact (succeeds_of_same_values same.symm succeeds).1
    · intro succeeds
      exact (succeeds_of_same_values same succeeds).2
  · intro first second merged succeeds succeedsToo
    rcases exists_accepts succeeds with ⟨middle, leads, accepts⟩
    have fromMiddle : second = (Check.hiddenField middle).configure updates.entries := by
      rw [← leads]
    rw [fromMiddle] at succeedsToo ⊢
    rcases exists_accepts succeedsToo with ⟨last, leadsToo, acceptsToo⟩
    rcases succeeds_of_accepts (accepts.updatedBy acceptsToo) with ⟨leadsMerged, succeedsMerged⟩
    exact ⟨succeedsMerged, leadsMerged.trans leadsToo.symm⟩

def underscoredVariables : PropertyMap where
  entries := [("ignoreFormat", .text "^_"), ("tokens", .text "VARIABLE_DEF")]
  distinct := by decide

def allDeclarations : PropertyMap where
  entries := [("tokens", .text "PARAMETER_DEF, VARIABLE_DEF"), ("ignoreFormat", .text "")]
  distinct := by decide

theorem pattern_and_kinds_updated :
    ∃ first second : Configured,
      first = (Check.hiddenField .initial).configure underscoredVariables.entries ∧
        first.fault = none ∧
        first.check = ((Check.hiddenField .initial).configure
          underscoredVariables.entries.reverse).check ∧
        second = first.check.configure allDeclarations.entries ∧ second.fault = none ∧
        second.check = ((Check.hiddenField .initial).configure
          (underscoredVariables.updatedBy allDeclarations).entries).check := by
  let first := (Check.hiddenField .initial).configure underscoredVariables.entries
  let second := first.check.configure allDeclarations.entries
  have succeeds : first.fault = none := by
    rw [← Option.isNone_iff_eq_none]
    decide +kernel
  have succeedsToo : second.fault = none := by
    rw [← Option.isNone_iff_eq_none]
    decide +kernel
  rcases configurations_are_maps .initial underscoredVariables allDeclarations with
    ⟨orderFree, merges⟩
  rcases orderFree _ underscoredVariables.entries.reverse_perm.symm with ⟨-, sameCheck⟩
  rcases merges succeeds succeedsToo with ⟨-, merged⟩
  exact ⟨first, second, rfl, succeeds, sameCheck succeeds, rfl, succeedsToo, merged.symm⟩

end HiddenField

end ShadowLint
