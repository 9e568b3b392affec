import Mathlib.Data.List.Forall2
import ShadowLint.Proofs.Config.Validity

/-!
A list of tokens means the set of its entries. The names in a text are looked up one by one;
if each is that of a kind of declaration, these are the kinds that the check asks for, beside
classes, and else the first that is not is refused and nothing is set
(`HiddenField.tokens_mean_their_names`).
-/

namespace ShadowLint.HiddenField

open List (Forall₂)
open Conversion (GivesNames)

/-- A name of one of the kinds that checks for hidden fields may be restricted to. -/
def IsDeclarationName (name : String) : Prop :=
  name = "VARIABLE_DEF" ∨ name = "PARAMETER_DEF"

theorem isDeclarationName_iff {name : String} :
    IsDeclarationName name ↔
      ∃ kind : Kind, kind.name = name ∧ declarationKinds.has kind = true := by
  constructor
  · rintro (rfl | rfl)
    · exact ⟨.variableDef, rfl, rfl⟩
    · exact ⟨.parameterDef, rfl, rfl⟩
  · rintro ⟨kind, rfl, isDeclaration⟩
    have either : kind = .variableDef ∨ kind = .parameterDef := by
      simpa [declarationKinds] using isDeclaration
    rcases either with rfl | rfl
    · exact .inl rfl
    · exact .inr rfl

/-- A name among tokens is refused: there is no kind of that name, or checks for hidden
fields cannot be restricted to the one there is. -/
structure RefusesName (name : String) (error : ConfigurationError) : Prop where
  code : error.code.identifier = "HF-1002"
  property : error.property = Property.tokens.name
  value : error.value = .text name
  unknown : (∀ kind : Kind, kind.name ≠ name) →
    error.text = s!"unknown token {Text.quoted name}"
  unacceptable : ∀ kind : Kind, kind.name = name →
    error.text = s!"token {name} is not acceptable for {profile.name}"

section tokens

variable {name : String}

theorem kindNamed_of_isDeclarationName (trimmed : Text.trim name = name)
    (isDeclaration : IsDeclarationName name) :
    ∃ kind : Kind, profile.kindNamed name = .ok kind ∧ kind.name = name := by
  rcases isDeclarationName_iff.mp isDeclaration with ⟨kind, isKind⟩
  exact ⟨kind, (Profile.kindNamed_eq_ok_iff trimmed).mpr isKind, isKind.1⟩

theorem kindNamed_of_not_isDeclarationName (trimmed : Text.trim name = name)
    (other : ¬ IsDeclarationName name) :
    ∃ error, profile.kindNamed name = .error error ∧ RefusesName name error := by
  rw [Profile.kindNamed, Conversion.kindOf, trimmed]
  cases found : Kind.ofName? name with
  | none =>
    have unknown (kind : Kind) : kind.name ≠ name := by
      intro named
      rw [← named, Kind.ofName?_name] at found
      cases found
    exact ⟨.unknownKind name, rfl, rfl, rfl, rfl, fun _ => rfl, fun kind named =>
      absurd named (unknown kind)⟩
  | some kind =>
    have named := Kind.name_of_ofName? found
    have unacceptable : ¬ declarationKinds.has kind = true := fun acceptable =>
      other (isDeclarationName_iff.mpr ⟨kind, named, acceptable⟩)
    subst named
    exact ⟨.unacceptableKind kind profile.name declarationKinds.names, if_neg unacceptable, rfl,
      rfl, rfl, fun unknown => absurd rfl (unknown kind), fun _ _ => rfl⟩

variable {check : HiddenField} (isHiddenField : check.core.profile = profile) {text : String}
  {names : List String} (gives : GivesNames (.text text) names)

include gives

theorem ofEntry_tokens :
    Setting.ofEntry profile (Property.tokens.name, .text text) =
      ((names.mapM profile.kindNamed).mapError .refused).map fun kinds =>
        .tokens (some (.ofList kinds)) := by
  rw [Setting.ofEntry, Property.ofName?_name]
  change Setting.ofValue profile .tokens (.text text) = _
  rw [Setting.ofValue, Conversion.toNames_eq_ok_iff.mpr gives]
  simp only [bind, Except.bind]
  cases names.mapM profile.kindNamed <;> rfl

include isHiddenField

theorem configure_tokens_of_forall (all : ∀ name ∈ names, IsDeclarationName name) :
    let configured := (Check.hiddenField check).configure [(Property.tokens.name, .text text)]
    configured.fault = none ∧ ∀ kind : Kind,
      configured.check.core.registeredKinds.has kind = true ↔
        kind.name ∈ names ∨ kind = .classDef := by
  have each : ∀ name ∈ names, ∃ kind : Kind,
      profile.kindNamed name = .ok kind ∧ kind.name = name := by
    intro name inside
    exact kindNamed_of_isDeclarationName (gives.trim name inside) (all name inside)
  rcases exists_forall₂ each with ⟨kinds, areKinds⟩
  have found : names.mapM profile.kindNamed = .ok kinds :=
    Success.mapM_eq_ok_iff.mpr (areKinds.imp fun _ _ isKind => isKind.1)
  have named : kinds.map Kind.name = names := by
    rw [← List.forall₂_eq_eq_eq, List.forall₂_map_left_iff]
    exact (areKinds.imp fun _ _ isKind => isKind.2).flip
  have meant : Setting.IsMeantBy check.core.profile (Property.tokens.name, .text text)
      (.tokens (some (.ofList kinds))) := by
    rw [isHiddenField, Setting.isMeantBy_iff, ofEntry_tokens gives, found]
    rfl
  rcases configure_succeeds_iff.mpr ⟨[_], .cons meant .nil, rfl⟩ with ⟨reached, succeeded⟩
  refine ⟨succeeded, ?_⟩
  intro kind
  have registered : ((check.putAll [.tokens (some (.ofList kinds))]).core.registeredKinds) =
      (KindSet.ofList kinds).union profile.requiredKinds := by
    rw [← isHiddenField]
    rfl
  rw [reached, Check.core, registered, ← named,
    List.mem_map_of_injective fun _ _ => Kind.name_injective]
  simp [profile, profileNamed]

theorem configure_tokens_of_stopsAt {before : List String}
    (stops : StopsAt IsDeclarationName names before name) :
    let configured := (Check.hiddenField check).configure [(Property.tokens.name, .text text)]
    configured.check = .hiddenField check ∧
      ∃ error, configured.fault = some (.refused error) ∧ RefusesName name error := by
  rcases stops with ⟨rest, split, allBefore, other⟩
  have trimmed : ∀ earlier ∈ before ++ name :: rest, Text.trim earlier = earlier :=
    split ▸ gives.trim
  rcases kindNamed_of_not_isDeclarationName (trimmed name (by simp)) other with
    ⟨error, fails, refuses⟩
  have each : ∀ earlier ∈ before, ∃ kind, profile.kindNamed earlier = .ok kind := by
    intro earlier inside
    rcases kindNamed_of_isDeclarationName (trimmed earlier (List.mem_append_left _ inside))
      (allBefore earlier inside) with ⟨kind, found, -⟩
    exact ⟨kind, found⟩
  have unnamed : ¬ ∃ kind, profile.kindNamed name = .ok kind := by
    rw [fails]
    exact nofun
  have failed : names.mapM profile.kindNamed = .error error :=
    Success.mapM_of_stopsAt ⟨rest, split, each, unnamed⟩ fails
  have offends : Setting.ofEntry check.core.profile (Property.tokens.name, .text text) =
      .error (.refused error) := by
    rw [isHiddenField, ofEntry_tokens gives, failed]
    rfl
  rcases configure_of_offence offends [] with ⟨unchanged, refused⟩
  exact ⟨unchanged, error, refused, refuses⟩

end tokens

/-- A list of tokens means the set of its entries. A text gives names in one way; if they are
all names of declarations, the check then asks for the kinds of these names and for classes,
whatever it asked for before, and else the first that is not one is refused and the check stays
as it was. -/
theorem tokens_mean_their_names (check : HiddenField) (isHiddenField : check.core.profile = profile)
    (text : String) :
    let configured := (Check.hiddenField check).configure [(Property.tokens.name, .text text)]
    (∃! names, GivesNames (.text text) names) ∧
      ∀ names, GivesNames (.text text) names →
        ((∀ name ∈ names, IsDeclarationName name) →
          configured.fault = none ∧ ∀ kind : Kind,
            configured.check.core.registeredKinds.has kind = true ↔
              kind.name ∈ names ∨ kind = .classDef) ∧
        ((¬ ∀ name ∈ names, IsDeclarationName name) →
          configured.check = .hiddenField check ∧
            ∃ before name error, StopsAt IsDeclarationName names before name ∧
              configured.fault = some (.refused error) ∧ RefusesName name error) := by
  refine ⟨?_, ?_⟩
  · simp only [Conversion.givesNames_text_iff]
    exact ⟨_, rfl, fun _ same => same⟩
  · intro names gives
    constructor
    · intro all
      exact configure_tokens_of_forall isHiddenField gives all
    · intro notAll
      rcases exists_stop_of_not_forall notAll with ⟨before, name, stops⟩
      rcases configure_tokens_of_stopsAt isHiddenField gives stops with
        ⟨unchanged, error, refused, refuses⟩
      exact ⟨unchanged, before, name, error, stops, refused, refuses⟩

theorem parameters_set_and_classes_refused :
    let given (text : String) :=
      (Check.hiddenField .initial).configure [(Property.tokens.name, .text text)]
    let parameters := given " PARAMETER_DEF ,,\tPARAMETER_DEF,"
    (parameters.fault = none ∧ ∀ kind : Kind,
        parameters.check.core.registeredKinds.has kind = true ↔
          kind.name = "PARAMETER_DEF" ∨ kind = .classDef) ∧
      ∃ error, (given "VARIABLE_DEF, CLASS_DEF, NONE").fault = some (.refused error) ∧
        RefusesName "CLASS_DEF" error := by
  constructor
  · have gives : GivesNames (.text " PARAMETER_DEF ,,\tPARAMETER_DEF,")
        ["PARAMETER_DEF", "PARAMETER_DEF"] :=
      Conversion.givesNames_text_iff.mpr (by decide +kernel)
    have allDeclarations : ∀ name ∈ ["PARAMETER_DEF", "PARAMETER_DEF"], IsDeclarationName name := by
      simp [IsDeclarationName]
    rcases ((tokens_mean_their_names .initial rfl _).2 _ gives).1 allDeclarations with
      ⟨succeeded, registered⟩
    refine ⟨succeeded, fun kind => (registered kind).trans ?_⟩
    simp
  · have gives : GivesNames (.text "VARIABLE_DEF, CLASS_DEF, NONE")
        ["VARIABLE_DEF", "CLASS_DEF", "NONE"] :=
      Conversion.givesNames_text_iff.mpr (by decide +kernel)
    have atClasses : StopsAt IsDeclarationName ["VARIABLE_DEF", "CLASS_DEF", "NONE"]
        ["VARIABLE_DEF"] "CLASS_DEF" :=
      ⟨["NONE"], rfl, by simp [IsDeclarationName], by simp [IsDeclarationName]⟩
    have notAll : ¬ ∀ name ∈ ["VARIABLE_DEF", "CLASS_DEF", "NONE"], IsDeclarationName name := by
      simp [IsDeclarationName]
    rcases ((tokens_mean_their_names .initial rfl _).2 _ gives).2 notAll with
      ⟨-, before, name, error, stops, refused, refuses⟩
    rcases stops.unique atClasses with ⟨-, rfl⟩
    exact ⟨error, refused, refuses⟩

end ShadowLint.HiddenField
