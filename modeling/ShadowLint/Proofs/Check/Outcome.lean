import ShadowLint.Proofs.Check.Declarations
import ShadowLint.Proofs.Walk.Calls

/-!
What the walk of a tree comes to for one check. `Outcome` says it for a list of
sites in preorder: either none of them is faulty and the check has recorded their
findings, or the check has stopped at the first faulty one. Outcomes of consecutive
calls compose (`Outcome.andThen`), single calls have them (`visit_outcome`), and so
do all the calls of a walk (`Covers.walk`).
-/

namespace ShadowLint

namespace HiddenField

/-! ## Checks under way -/

def recorded (check : HiddenField) (found : List Violation) (scopes : ScopeStack) : HiddenField :=
  { check with
    scopes, core := { check.core with violations := check.core.violations ++ found.toArray } }

section recorded

variable (check : HiddenField) (found : List Violation) (scopes : ScopeStack)

@[simp] theorem settings_recorded : (check.recorded found scopes).settings = check.settings := rfl

@[simp] theorem scopes_recorded : (check.recorded found scopes).scopes = scopes := rfl

@[simp] theorem file_recorded : (check.recorded found scopes).core.file = check.core.file := rfl

@[simp] theorem violations_recorded :
    (check.recorded found scopes).core.violations = check.core.violations ++ found.toArray := rfl

@[simp] theorem recorded_recorded (others : List Violation) (final : ScopeStack) :
    (check.recorded found scopes).recorded others final =
      check.recorded (found ++ others) final := by
  simp [recorded, Array.append_assoc]

@[simp] theorem recorded_nil : check.recorded [] scopes = { check with scopes } := by
  simp [recorded]

end recorded

/-- The check is the one for hidden fields and was restricted to declarations, as
every setting of its tokens makes sure. -/
structure Lawful (check : HiddenField) : Prop where
  profile : check.core.profile = profile
  chosen : ∀ kinds ∈ check.core.chosenKinds, ∀ kind, kinds.has kind = true →
    declarationKinds.has kind = true

theorem lawful_initial : initial.Lawful :=
  ⟨rfl, fun _ chosen => by cases chosen⟩

namespace Lawful

variable {check : HiddenField} (lawful : check.Lawful)

include lawful in
theorem recorded (found : List Violation) (scopes : ScopeStack) :
    (check.recorded found scopes).Lawful :=
  ⟨lawful.profile, lawful.chosen⟩

include lawful in
theorem registered_iff (kind : Kind) :
    check.core.registeredKinds.has kind = true ↔
      check.settings.kinds.has kind = true ∨ kind = .classDef := by
  simp [Core.registeredKinds, settings, lawful.profile, HiddenField.profile, profileNamed]

include lawful in
theorem kind_of_configured {kind : Kind} (configured : check.settings.kinds.has kind = true) :
    kind = .variableDef ∨ kind = .parameterDef ∨ kind = .classDef := by
  have asked : (check.core.chosenKinds.getD check.core.profile.defaultKinds).has kind = true :=
    configured
  cases chosen : check.core.chosenKinds with
  | none => simpa [chosen, lawful.profile, HiddenField.profile, profileNamed] using asked
  | some kinds =>
    rw [chosen] at asked
    have declares := lawful.chosen kinds chosen kind asked
    simp only [declarationKinds, KindSet.has_ofList, List.contains_cons, List.contains_nil,
      Bool.or_false, Bool.or_eq_true, beq_iff_eq] at declares
    exact declares.imp_right .inl

include lawful in
theorem report_eq (ident : Tree) :
    check.core.report ident.label messageKey [.text ident.text] =
      ⟨{ check.core with violations :=
          check.core.violations.push (check.settings.finding check.core.file ident) },
        #[.reported (check.settings.finding check.core.file ident)], none⟩ := by
  have message : Template.fill "'\x7b0\x7d' hides a field." [.text ident.text] =
      .ok ("'" ++ ident.text ++ "' hides a field.") :=
    Template.fill_first "'" "' hides a field." (.text ident.text) [] (by simp) (by simp)
  have template : check.core.templateOf messageKey = "'\x7b0\x7d' hides a field." := by
    rw [Core.templateOf, lawful.profile]
    rfl
  have found : check.core.findingAt ident.label messageKey [.text ident.text] =
      .ok (check.settings.finding check.core.file ident) := by
    rw [Core.findingAt, template, message, lawful.profile]
    rfl
  rw [Core.report, found]

end Lawful

/-! ## Outcomes -/

/-- What calls for sites, in preorder, come to for a check, and which scopes they
leave open if none of the sites is faulty. -/
inductive Outcome (check : HiddenField) (scopes : ScopeStack) (sites : List Site) :
    Reached HiddenField → Prop
  | completed {journal : Journal} :
      (∀ site ∈ sites, ¬ check.settings.IsFaulty site) →
      Outcome check scopes sites
        ⟨check.recorded (check.settings.findings check.core.file sites) scopes, journal, none⟩
  /-- The walk stops inside of the faulty site, with the findings before it. -/
  | stopped {earlier later : List Site} {site : Site} {error : ContractError}
      {journal : Journal} :
      sites = earlier ++ site :: later →
      (∀ other ∈ earlier, ¬ check.settings.IsFaulty other) → check.settings.Breaks site error →
      Outcome check scopes sites
        ⟨check.recorded (check.settings.findings check.core.file earlier)
          (.within (site.node :: site.ancestors)), journal, some (.contract error)⟩

theorem Settings.findings_append (settings : Settings) (file : String) (first second : List Site) :
    settings.findings file (first ++ second) =
      settings.findings file first ++ settings.findings file second :=
  List.filterMap_append

namespace Outcome

variable {check : HiddenField} {scopes final : ScopeStack} {first second : List Site}

theorem andThen {reached : Reached HiddenField} {next : HiddenField → Reached HiddenField}
    (outcome : Outcome check scopes first reached)
    (others : (∀ site ∈ first, ¬ check.settings.IsFaulty site) →
      Outcome (check.recorded (check.settings.findings check.core.file first) scopes) final second
        (next (check.recorded (check.settings.findings check.core.file first) scopes))) :
    Outcome check final (first ++ second) (reached.andThen next) := by
  cases outcome with
  | completed sound =>
    rw [Reached.andThen_of_success rfl]
    generalize outcome : next _ = after
    have rest := others sound
    rw [outcome] at rest
    cases rest with
    | completed soundToo =>
      simp only [Reached.notedAfter, recorded_recorded, settings_recorded, file_recorded,
        ← Settings.findings_append]
      apply Outcome.completed
      intro site member
      rcases List.mem_append.mp member with inFirst | inSecond
      · exact sound site inFirst
      · exact soundToo site inSecond
    | stopped split soundEarlier breaks =>
      simp only [Reached.notedAfter, recorded_recorded, settings_recorded, file_recorded,
        ← Settings.findings_append]
      refine Outcome.stopped (by rw [split, List.append_assoc]) ?_ breaks
      intro site member
      rcases List.mem_append.mp member with inFirst | inEarlier
      · exact sound site inFirst
      · exact soundEarlier site inEarlier
  | stopped split sound breaks =>
    rw [Reached.andThen_of_fault rfl]
    exact Outcome.stopped (by rw [split, List.append_assoc, List.cons_append]) sound breaks

theorem nil {journal : Journal} :
    Outcome check scopes [] ⟨{ check with scopes }, journal, none⟩ := by
  have nothing := @Outcome.completed check scopes [] journal (by simp)
  simpa [Settings.findings] using nothing

theorem sound {site : Site} {found : Option Violation} {journal : Journal}
    (holds : ¬ check.settings.IsFaulty site)
    (finding : check.settings.finding? check.core.file site = found) :
    Outcome check scopes [site] ⟨check.recorded found.toList scopes, journal, none⟩ := by
  have one := @Outcome.completed check scopes [site] journal (by simpa using holds)
  have found_eq : check.settings.findings check.core.file [site] = found.toList := by
    rw [Settings.findings, List.filterMap_cons, finding]
    cases found <;> rfl
  rwa [found_eq] at one

theorem faulty {site : Site} {error : ContractError} {journal : Journal}
    (breaks : check.settings.Breaks site error) :
    Outcome check scopes [site]
      ⟨{ check with scopes := .within (site.node :: site.ancestors) }, journal,
        some (.contract error)⟩ := by
  have stopped := @Outcome.stopped check scopes [site] [] [] site error journal rfl (by simp) breaks
  simpa [Settings.findings] using stopped

theorem done {site : Site} (holds : ¬ check.settings.IsFaulty site)
    (silent : check.settings.finding? check.core.file site = none) :
    Outcome check check.scopes [site] (.done check) := by
  simpa [Reached.done] using Outcome.sound holds silent

theorem refused {site : Site} {error : ContractError}
    (inside : ScopeStack.within (site.node :: site.ancestors) = check.scopes)
    (breaks : check.settings.Breaks site error) :
    Outcome check check.scopes [site] (.refused check (.contract error)) := by
  simpa [Reached.refused, inside] using Outcome.faulty breaks

end Outcome

/-! ## Single calls -/

theorem Settings.not_watches_of_class {settings : Settings} {site : Site}
    (isClass : site.kind = .classDef) : ¬ settings.Watches site := by
  rintro ⟨-, -, declares⟩
  simp [isClass] at declares

theorem Settings.finding?_of_not_watches {settings : Settings} {site : Site}
    (other : ¬ settings.Watches site) (file : String) : settings.finding? file site = none := by
  simp [finding?, Reports, other]

theorem Settings.breaks_iff_of_class {settings : Settings} {site : Site}
    (isClass : site.kind = .classDef) (error : ContractError) :
    settings.Breaks site error ↔ site.node.bodyError? = some error := by
  constructor
  · intro breaks
    cases breaks with
    | noBody _ missing => simp [Tree.bodyError?, missing]
    | namelessField _ found =>
      have body : site.node.firstOf? .objBlock ≠ none := by
        intro missing
        simp [Tree.members, missing] at found
      simp [Tree.bodyError?, body, found]
    | nameless watches => exact absurd watches (not_watches_of_class isClass)
    | namelessMethod _ watches => exact absurd watches (not_watches_of_class isClass)
  · intro found
    unfold Tree.bodyError? at found
    split at found
    · rename_i missing
      exact Option.some.inj found ▸ .noBody isClass missing
    · rcases Option.map_eq_some_iff.mp found with ⟨member, nameless, equal⟩
      exact equal ▸ .namelessField isClass nameless

theorem Settings.not_faulty_of_not_watches {settings : Settings} {site : Site}
    (notClass : site.kind ≠ .classDef) (other : ¬ settings.Watches site) :
    ¬ settings.IsFaulty site := by
  rintro ⟨error, breaks⟩
  cases breaks with
  | noBody isClass => exact notClass isClass
  | namelessField isClass => exact notClass isClass
  | nameless watches => exact other watches
  | namelessMethod _ watches => exact other watches

theorem Settings.breaks_of_named {settings : Settings} {site : Site} {ident : Tree}
    {error : ContractError} (notClass : site.kind ≠ .classDef)
    (declared : site.node.firstOf? .ident = some ident) (breaks : settings.Breaks site error) :
    settings.ignoreSetter = true ∧ site.HidesField ident.text ∧
      ¬ settings.IgnoresName ident.text ∧ ∃ method, site.HasNamelessMethod method := by
  cases breaks with
  | noBody isClass => exact absurd isClass notClass
  | namelessField isClass => exact absurd isClass notClass
  | nameless _ missing => simp [declared] at missing
  | namelessMethod on _ name hides kept nameless =>
    rw [Tree.declaredName?, declared, Option.map_some, Option.some.injEq] at name
    subst name
    exact ⟨on, hides, kept, _, nameless⟩

theorem Settings.finding?_of_named {settings : Settings} {site : Site} {ident : Tree}
    (watches : settings.Watches site) (declared : site.node.firstOf? .ident = some ident)
    (file : String) :
    settings.finding? file site =
      if site.HidesField ident.text ∧ ¬ settings.Exempts site ident.text
      then some (settings.finding file ident) else none := by
  simp only [finding?, declared, Option.filter_some, Reports, watches, true_and,
    decide_eq_true_eq]
  split <;> rfl

variable {check : HiddenField}

theorem enterClass_outcome {site : Site} (inside : check.scopes = .within site.ancestors)
    (isClass : site.kind = .classDef) :
    Outcome check (.within (site.node :: site.ancestors)) [site] (check.enterClass site) := by
  have opened : check.scopes.openClass site.node = .within (site.node :: site.ancestors) := by
    rw [inside, ScopeStack.within_class isClass]
  rw [enterClass_eq, opened]
  cases wrong : site.node.bodyError? with
  | none =>
    have holds : ¬ check.settings.IsFaulty site := by
      rintro ⟨error, breaks⟩
      rw [Settings.breaks_iff_of_class isClass, wrong] at breaks
      cases breaks
    have nothing := Settings.finding?_of_not_watches
      (@Settings.not_watches_of_class check.settings site isClass) check.core.file
    simpa using Outcome.sound holds nothing
  | some error => exact Outcome.faulty ((Settings.breaks_iff_of_class isClass error).mpr wrong)

theorem hiding_outcome (lawful : check.Lawful) {site : Site} {ident : Tree}
    (inside : ScopeStack.within (site.node :: site.ancestors) = check.scopes)
    (notClass : site.kind ≠ .classDef) (watches : check.settings.Watches site)
    (declared : site.node.firstOf? .ident = some ident) (hides : site.HidesField ident.text) :
    Outcome check check.scopes [site]
      (match check.exempts site ident.text with
        | .error error => .refused check (.contract error)
        | .ok true => .done check
        | .ok false =>
          (check.core.report ident.label messageKey [.text ident.text]).map fun core =>
            { check with core }) := by
  have finding := Settings.finding?_of_named watches declared check.core.file
  by_cases nameless : check.ignoreSetter = true ∧
      ¬ check.settings.IgnoresName ident.text ∧ ∃ method, site.HasNamelessMethod method
  · rcases nameless with ⟨on, kept, method, nameless⟩
    have name : site.node.declaredName? = some ident.text := by
      simp [Tree.declaredName?, declared]
    rw [exempts_of_nameless on kept nameless]
    exact Outcome.refused inside (.namelessMethod on watches name hides kept nameless)
  · have holds : ¬ check.settings.IsFaulty site := by
      rintro ⟨error, breaks⟩
      rcases Settings.breaks_of_named notClass declared breaks with ⟨on, -, kept, found⟩
      exact nameless ⟨on, kept, found⟩
    have answers := @exempts_of_named check site ident.text
      fun on kept method found => nameless ⟨on, kept, method, found⟩
    rcases answers with ⟨exempt, answer, exempt_iff⟩
    rw [answer]
    cases exempt with
    | true =>
      have exempts := exempt_iff.mp rfl
      exact Outcome.done holds (by simp [finding, exempts])
    | false =>
      have kept : ¬ check.settings.Exempts site ident.text := fun exempts =>
        Bool.false_ne_true (exempt_iff.mpr exempts)
      rw [if_pos ⟨hides, kept⟩] at finding
      have one := @Outcome.sound check check.scopes site _
        #[.reported (check.settings.finding check.core.file ident)] holds finding
      simpa [lawful.report_eq, Reached.map, recorded] using one

theorem processDeclaration_outcome (lawful : check.Lawful) {site : Site}
    (inside : check.scopes = .within site.ancestors)
    (named : ScopeStack.AllNamed site.ancestors) (notClass : site.kind ≠ .classDef)
    (configured : check.settings.kinds.has site.kind = true) :
    Outcome check check.scopes [site] (check.processDeclaration site) := by
  have same : ScopeStack.within (site.node :: site.ancestors) = check.scopes := by
    rw [inside, ScopeStack.within_other notClass]
  rw [processDeclaration]
  split
  · rename_i candidate
    have watches : check.settings.Watches site := ⟨configured, isCandidate_iff.mp candidate⟩
    cases declared : site.node.firstOf? .ident with
    | none => exact Outcome.refused same (.nameless watches declared)
    | some ident =>
      dsimp only
      split
      · rename_i hides
        exact hiding_outcome lawful same notClass watches declared
          ((hidesField_iff inside named _).mp hides)
      · rename_i visible
        have hidesNone : ¬ site.HidesField ident.text := fun hides =>
          visible ((hidesField_iff inside named _).mpr hides)
        apply Outcome.done
        · rintro ⟨error, breaks⟩
          exact hidesNone (Settings.breaks_of_named notClass declared breaks).2.1
        · simp [Settings.finding?_of_named watches declared, hidesNone]
  · rename_i other
    have ignored : ¬ check.settings.Watches site := fun watches =>
      other (isCandidate_iff.mpr watches.2)
    exact Outcome.done (Settings.not_faulty_of_not_watches notClass ignored)
      (Settings.finding?_of_not_watches ignored _)

/-! ## Walks -/

def ifAsked (kinds : KindSet) (call : HiddenField → Site → Reached HiddenField) (site : Site)
    (check : HiddenField) : Reached HiddenField :=
  if kinds.has site.kind then call check site else .done check

theorem visit_outcome (lawful : check.Lawful) {site : Site}
    (inside : check.scopes = .within site.ancestors)
    (named : ScopeStack.AllNamed site.ancestors) :
    Outcome check (.within (site.node :: site.ancestors)) [site]
      (ifAsked check.core.registeredKinds visit site check) := by
  unfold ifAsked
  by_cases isClass : site.kind = .classDef
  · rw [if_pos ((lawful.registered_iff site.kind).mpr (.inr isClass)), visit]
    simp only [isClass]
    exact enterClass_outcome inside isClass
  · have same : ScopeStack.within (site.node :: site.ancestors) = check.scopes := by
      rw [inside, ScopeStack.within_other isClass]
    rw [same]
    split
    · rename_i asked
      have configured := ((lawful.registered_iff site.kind).mp asked).resolve_right isClass
      have declaration := processDeclaration_outcome lawful inside named isClass configured
      rcases lawful.kind_of_configured configured with kind | kind | kind
      · simpa only [visit, kind] using declaration
      · simpa only [visit, kind] using declaration
      · exact absurd kind isClass
    · rename_i notAsked
      have ignored : ¬ check.settings.Watches site := fun watches =>
        notAsked ((lawful.registered_iff site.kind).mpr (.inl watches.1))
      exact Outcome.done (Settings.not_faulty_of_not_watches isClass ignored)
        (Settings.finding?_of_not_watches ignored _)

theorem leave_outcome (lawful : check.Lawful) {site : Site}
    (inside : check.scopes = .within (site.node :: site.ancestors)) :
    Outcome check (.within site.ancestors) []
      (ifAsked check.core.registeredKinds leave site check) := by
  unfold ifAsked
  by_cases isClass : site.kind = .classDef
  · have left : check.scopes.leave = .ok (.within site.ancestors) := by
      rw [inside, ScopeStack.within_class isClass, ScopeStack.leave_openClass]
    rw [if_pos ((lawful.registered_iff site.kind).mpr (.inr isClass)), leave]
    simp only [isClass, leaveClass, left]
    exact Outcome.nil
  · have same : check.scopes = .within site.ancestors := by
      rw [inside, ScopeStack.within_other isClass]
    have stays : Outcome check (.within site.ancestors) [] (.done check) := by
      rw [← same]
      exact Outcome.nil
    split
    · rename_i asked
      have configured := ((lawful.registered_iff site.kind).mp asked).resolve_right isClass
      rcases lawful.kind_of_configured configured with kind | kind | kind
      · simpa only [leave, kind] using stays
      · simpa only [leave, kind] using stays
      · exact absurd kind isClass
    · exact stays

theorem allNamed_cons {settings : Settings} {site : Site} (holds : ¬ settings.IsFaulty site)
    (named : ScopeStack.AllNamed site.ancestors) :
    ScopeStack.AllNamed (site.node :: site.ancestors) := by
  intro ancestor member isClass
  rcases List.mem_cons.mp member with equal | outer
  · subst equal
    intro field inside nameless
    cases found : site.node.members.find? fun member => member.IsNamelessField with
    | none => exact absurd nameless (by simpa using List.find?_eq_none.mp found field inside)
    | some first => exact holds ⟨_, .namelessField isClass found⟩
  · exact named ancestor outer isClass

/-- Made inside of the ancestors, the calls come to what there is to say about the
sites. -/
def Covers (kinds : KindSet) (ancestors : List Tree) (calls : List Call) (sites : List Site) :
    Prop :=
  ∀ check : HiddenField, check.Lawful → check.core.registeredKinds = kinds →
    check.scopes = .within ancestors →
    Outcome check (.within ancestors) sites
      (Call.makeAll (ifAsked kinds visit) (ifAsked kinds leave) calls check)

namespace Covers

variable {kinds : KindSet} {ancestors : List Tree}

theorem nil : Covers kinds ancestors [] [] := by
  intro check _ _ inside
  rw [← inside]
  exact Outcome.nil

theorem append {firstCalls secondCalls : List Call} {firstSites secondSites : List Site}
    (first : Covers kinds ancestors firstCalls firstSites)
    (second : Covers kinds ancestors secondCalls secondSites) :
    Covers kinds ancestors (firstCalls ++ secondCalls) (firstSites ++ secondSites) := by
  intro check lawful asked inside
  rw [Call.makeAll_append]
  exact (first check lawful asked inside).andThen fun _ =>
    second _ (lawful.recorded _ _) asked rfl

theorem flatMap {trees : List Tree} {calls : Tree → List Call} {sites : Tree → List Site}
    (each : ∀ tree ∈ trees, Covers kinds ancestors (calls tree) (sites tree)) :
    Covers kinds ancestors (trees.flatMap calls) (trees.flatMap sites) := by
  induction trees with
  | nil => exact nil
  | cons tree rest induction =>
    exact (each tree List.mem_cons_self).append
      (induction fun other member => each other (List.mem_cons_of_mem _ member))

theorem walk (tree : Tree) :
    ∀ {ancestors : List Tree}, ScopeStack.AllNamed ancestors →
      Covers kinds ancestors (tree.callsUnder ancestors) (tree.sitesUnder ancestors) := by
  induction tree using Tree.induction_children with
  | step tree induction =>
    intro ancestors named check lawful asked inside
    have visited := @visit_outcome check lawful ⟨tree, ancestors⟩ inside named
    have sites : tree.sitesUnder ancestors =
        [⟨tree, ancestors⟩] ++
          (tree.children.flatMap (·.sitesUnder (tree :: ancestors)) ++ []) := by
      rw [Tree.sitesUnder_eq, List.append_nil, List.singleton_append]
    have leaving : ∀ check : HiddenField, check.Lawful → check.core.registeredKinds = kinds →
        check.scopes = .within (tree :: ancestors) →
        Outcome check (.within ancestors) []
          (Call.makeAll (ifAsked kinds visit) (ifAsked kinds leave)
            [.leave ⟨tree, ancestors⟩] check) := by
      intro check lawful asked inside
      have left := @leave_outcome check lawful ⟨tree, ancestors⟩ inside
      rwa [Call.makeAll_singleton, Call.make, ← asked]
    rw [Tree.callsUnder_eq, sites, Call.makeAll_cons, Call.make, ← asked]
    refine visited.andThen fun sound => ?_
    -- The site itself is not faulty, so that its fields can be looked up further down.
    have namedInside := allNamed_cons (sound ⟨tree, ancestors⟩ List.mem_cons_self) named
    have below : Covers kinds (tree :: ancestors)
        (tree.children.flatMap (·.callsUnder (tree :: ancestors)))
        (tree.children.flatMap (·.sitesUnder (tree :: ancestors))) :=
      flatMap fun child member => induction child member namedInside
    rw [asked, Call.makeAll_append]
    exact (below _ (lawful.recorded _ _) asked rfl).andThen fun _ =>
      leaving _ ((lawful.recorded _ _).recorded _ _) asked rfl

end Covers

end HiddenField

end ShadowLint
