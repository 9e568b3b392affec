import Mathlib.Logic.Basic
import ShadowLint.Proofs.Check.Verdict

/-!
Settings that silence findings. Asking for fewer kinds of declarations, ignoring names where
none were ignored, and turning an exemption on can make no new site faulty, provided that
methods have names if it is the exemption of setters
(`HiddenField.Settings.IsQuieterThan.not_isFaulty`).
What is reported of a site is then what was reported before, unless one of the changes
silences it (`HiddenField.options_only_silence`).
-/

namespace ShadowLint

theorem Tree.exists_site_of_ancestor (tree : Tree) {ancestors : List Tree} {site : Site}
    (inside : site ∈ tree.sitesUnder ancestors) {ancestor : Tree}
    (encloses : ancestor ∈ site.ancestors) :
    ancestor ∈ ancestors ∨ ∃ other ∈ tree.sitesUnder ancestors, other.node = ancestor := by
  induction tree using Tree.induction_children generalizing ancestors with
  | step tree induction =>
    rw [sitesUnder_eq] at inside ⊢
    rcases List.mem_cons.mp inside with here | below
    · subst here
      exact .inl encloses
    · rcases List.mem_flatMap.mp below with ⟨child, isChild, inChild⟩
      rcases induction child isChild inChild with around | ⟨other, found, same⟩
      · rcases List.mem_cons.mp around with isTree | outer
        · exact .inr ⟨_, List.mem_cons_self, isTree.symm⟩
        · exact .inl outer
      · refine .inr ⟨other, List.mem_cons_of_mem _ ?_, same⟩
        exact List.mem_flatMap.mpr ⟨child, isChild, found⟩

namespace HiddenField

namespace Settings

/-- The settings differ at most in that they silence more: they ask for no other kinds, they
may ignore names where none were ignored, and they keep the exemptions that were on. -/
structure IsQuieterThan (after before : Settings) : Prop where
  kinds : ∀ kind, after.kinds.has kind = true → before.kinds.has kind = true
  severity : after.severity = before.severity
  ignoreFormat : after.ignoreFormat = before.ignoreFormat ∨ before.ignoreFormat = none
  ignoreSetter : before.ignoreSetter = true → after.ignoreSetter = true
  ignoreConstructorParameter :
    before.ignoreConstructorParameter = true → after.ignoreConstructorParameter = true

def NewlyExempts (after before : Settings) (site : Site) (name : String) : Prop :=
  before.ignoreFormat = none ∧ after.IgnoresName name ∨
    before.ignoreSetter = false ∧ after.ignoreSetter = true ∧ site.IsSetterParameter name ∨
    before.ignoreConstructorParameter = false ∧ after.ignoreConstructorParameter = true ∧
      site.IsConstructorParameter

/-- The declaration is of a kind that is not asked for any more, or newly exempt. -/
def Silences (after before : Settings) (site : Site) : Prop :=
  after.kinds.has site.kind = false ∨
    ∃ name ∈ site.node.declaredName?, after.NewlyExempts before site name

instance (after before : Settings) (site : Site) (name : String) :
    Decidable (after.NewlyExempts before site name) :=
  inferInstanceAs (Decidable (_ ∧ _ ∨ _ ∧ _ ∧ _ ∨ _ ∧ _ ∧ _))

instance (after before : Settings) (site : Site) : Decidable (after.Silences before site) :=
  inferInstanceAs (Decidable (_ ∨ ∃ name ∈ site.node.declaredName?, _))

variable {before after : Settings} {site : Site}

theorem NewlyExempts.exempts {name : String} (newly : after.NewlyExempts before site name) :
    after.Exempts site name :=
  newly.imp And.right (Or.imp And.right And.right)

namespace IsQuieterThan

variable (quieter : after.IsQuieterThan before)

include quieter

theorem watches (watched : after.Watches site) : before.Watches site :=
  ⟨quieter.kinds _ watched.1, watched.2⟩

theorem ignoresName {name : String} (ignored : before.IgnoresName name) :
    after.IgnoresName name := by
  rcases quieter.ignoreFormat with same | none
  · rwa [IgnoresName, same]
  · rcases ignored with ⟨filter, isFilter, -⟩
    cases none.symm.trans isFilter

/-- Where no method is without a name, no site becomes faulty. -/
theorem not_isFaulty
    (named : after.ignoreSetter = before.ignoreSetter ∨
      ∀ method ∈ site.grandparent?, method.kind = .methodDef → method.firstOf? .ident ≠ none)
    (sound : ¬ before.IsFaulty site) : ¬ after.IsFaulty site := by
  intro faulty
  rcases faulty with ⟨error, breaks⟩
  apply sound
  cases breaks with
  | noBody isClass missing => exact ⟨_, .noBody isClass missing⟩
  | namelessField isClass found => exact ⟨_, .namelessField isClass found⟩
  | nameless watched missing => exact ⟨_, .nameless (quieter.watches watched) missing⟩
  | namelessMethod on watched name hides kept nameless =>
    have keptBefore : ¬ before.IgnoresName _ := fun ignored => kept (quieter.ignoresName ignored)
    rcases named with same | named
    · exact ⟨_, .namelessMethod (same ▸ on) (quieter.watches watched) name hides keptBefore
        nameless⟩
    · rcases nameless with ⟨-, grandparent, isMethod, missing⟩
      exact absurd missing (named _ grandparent isMethod)

theorem exempts {name : String} (exempt : before.Exempts site name) : after.Exempts site name := by
  rcases exempt with ignored | ⟨on, setter⟩ | ⟨on, constructs⟩
  · exact .inl (quieter.ignoresName ignored)
  · exact .inr (.inl ⟨quieter.ignoreSetter on, setter⟩)
  · exact .inr (.inr ⟨quieter.ignoreConstructorParameter on, constructs⟩)

theorem newlyExempts {name : String} (kept : ¬ before.Exempts site name)
    (exempt : after.Exempts site name) : after.NewlyExempts before site name := by
  simp only [Exempts, not_or, not_and] at kept
  rcases kept with ⟨keptName, keptSetter, keptConstructor⟩
  rcases exempt with ignored | ⟨on, setter⟩ | ⟨on, constructs⟩
  · rcases quieter.ignoreFormat with same | none
    · rw [IgnoresName, same] at ignored
      exact absurd ignored keptName
    · exact .inl ⟨none, ignored⟩
  · have off : before.ignoreSetter = false :=
      Bool.eq_false_iff.mpr fun wasOn => keptSetter wasOn setter
    exact .inr (.inl ⟨off, on, setter⟩)
  · have off : before.ignoreConstructorParameter = false :=
      Bool.eq_false_iff.mpr fun wasOn => keptConstructor wasOn constructs
    exact .inr (.inr ⟨off, on, constructs⟩)

theorem reports_iff {name : String} (declared : site.node.declaredName? = some name) :
    after.Reports site name ↔ before.Reports site name ∧ ¬ after.Silences before site := by
  constructor
  · intro reports
    rcases reports with ⟨watched, hides, kept⟩
    refine ⟨⟨quieter.watches watched, hides, fun exempt => kept (quieter.exempts exempt)⟩, ?_⟩
    intro silences
    rcases silences with notAsked | ⟨other, declaredToo, newly⟩
    · cases notAsked.symm.trans watched.1
    · cases declared.symm.trans declaredToo
      exact kept newly.exempts
  · intro both
    rcases both with ⟨⟨watched, hides, kept⟩, heard⟩
    have asked : after.kinds.has site.kind = true := by
      rw [← Bool.not_eq_false]
      exact fun notAsked => heard (.inl notAsked)
    refine ⟨⟨asked, watched.2⟩, hides, fun exempt => heard (.inr ⟨name, declared, ?_⟩)⟩
    exact quieter.newlyExempts kept exempt

theorem finding?_eq (file : String) (site : Site) :
    after.finding? file site =
      (before.finding? file site).filter fun _ => ¬ after.Silences before site := by
  rw [finding?, finding?]
  cases declared : site.node.firstOf? .ident with
  | none => rfl
  | some ident =>
    have name : site.node.declaredName? = some ident.text := by
      rw [Tree.declaredName?, declared, Option.map_some]
    have sameFinding : after.finding file ident = before.finding file ident := by
      rw [finding, finding, quieter.severity]
    by_cases reports : before.Reports site ident.text
    · simp only [Option.filter_some, quieter.reports_iff name, reports, true_and, decide_true,
        if_true, Option.map_some, ← sameFinding]
      split <;> rfl
    · simp [Option.filter_some, quieter.reports_iff name, reports]

end IsQuieterThan

end Settings

variable {check quieter : HiddenField}

/-- Settings that differ only in that they silence more make no walk fail that did not fail,
and what it finds then is what it found, in the same order, without the findings about
declarations of kinds that are not asked for any more and about newly exempt ones. -/
theorem options_only_silence (lawful : check.Lawful) (lawfulToo : quieter.Lawful)
    (isQuieter : quieter.settings.IsQuieterThan check.settings) {root : Tree}
    (named : quieter.ignoreSetter = check.ignoreSetter ∨
      ∀ site ∈ root.sites, site.kind = .methodDef → site.node.firstOf? .ident ≠ none)
    {file : String} {violations : List Violation}
    (completed : (Walker.alone.process (.only check) root file).outcome = .ok violations) :
    ∃ others, (Walker.alone.process (.only quieter) root file).outcome = .ok others ∧
      others.Sublist violations ∧
      ∃ reported : List Site, reported.Sublist root.sites ∧
        (∀ site ∈ reported, ∃ violation, check.settings.finding? file site = some violation) ∧
        violations = check.settings.findings file reported ∧
        others = check.settings.findings file (reported.filter fun site =>
          ¬ quieter.settings.Silences check.settings site) := by
  have verdict := lawful.verdict root file
  rw [completed] at verdict
  have found := lawful.report_eq_findings completed
  have sound : ∀ site ∈ root.sites, ¬ check.settings.IsFaulty site := by
    have succeeds := verdict.fails_iff.not.mp (by simp)
    simpa using succeeds
  have soundToo : ∀ site ∈ root.sites, ¬ quieter.settings.IsFaulty site := by
    intro site member
    refine isQuieter.not_isFaulty (named.imp_right fun named method isGrandparent isMethod => ?_)
      (sound site member)
    have encloses : method ∈ site.ancestors :=
      List.mem_of_mem_tail (List.mem_of_mem_head? isGrandparent)
    rcases root.exists_site_of_ancestor member encloses with outer | ⟨other, inside, rfl⟩
    · cases outer
    · exact named other inside isMethod
  let reported := root.sites.filter fun site => (check.settings.finding? file site).isSome
  have others_eq : quieter.settings.findings file root.sites =
      check.settings.findings file (reported.filter fun site =>
        ¬ quieter.settings.Silences check.settings site) := by
    rw [Settings.findings, Settings.findings, List.filter_filter, List.filterMap_filter]
    refine List.filterMap_congr fun site _ => ?_
    rw [isQuieter.finding?_eq]
    cases check.settings.finding? file site <;> simp [Option.filter_some]
  have reported_eq : check.settings.findings file root.sites =
      check.settings.findings file reported := by
    rw [Settings.findings, Settings.findings, List.filterMap_filter]
    refine List.filterMap_congr fun site _ => ?_
    cases check.settings.finding? file site <;> rfl
  rw [reported_eq] at found
  refine ⟨_, (lawfulToo.verdict root file).unique (.completed soundToo), ?_, reported,
    List.filter_sublist, ?_, found, others_eq⟩
  · rw [others_eq, found]
    exact List.filter_sublist.filterMap _
  · intro site member
    exact Option.isSome_iff_exists.mp (List.mem_filter.mp member).2

/-- A class with a field, and three parameters and a local variable that hide it: a
constructor's, a setter's, another method's, and one in that method. -/
def resizable : Tree :=
  let named (name : String) : Tree := .node (.make .ident name 0 0) []
  let sizes (line : Int) : Tree :=
    unplaced .parameters [declaring .parameterDef [] "size" line 17]
  unplaced .classDef [unplaced .objBlock [
    declaring .variableDef [] "size" 1 8,
    unplaced .ctorDef [named "Box", sizes 2],
    unplaced .methodDef [unplaced .typeName [unplaced .literalVoid []], named "setSize", sizes 3],
    unplaced .methodDef [named "grow", sizes 4,
      unplaced .statementList [declaring .variableDef [] "size" 5 17]]]]

def onlyOtherParameters : HiddenField :=
  { initial with
    core := { initial.core with chosenKinds := some (.ofList [.parameterDef]) }
    ignoreSetter := true, ignoreConstructorParameter := true }

theorem resizable_silenced :
    initial.Lawful ∧ onlyOtherParameters.Lawful ∧
      onlyOtherParameters.settings.IsQuieterThan initial.settings ∧
      (∀ site ∈ resizable.sites, site.kind = .methodDef → site.node.firstOf? .ident ≠ none) ∧
      ∃ others,
        (Walker.alone.process (.only onlyOtherParameters) resizable "Sized.java").outcome =
          .ok others ∧
        others.Sublist [hiddenSize 2, hiddenSize 3, hiddenSize 4, hiddenSize 5] := by
  have lawful : onlyOtherParameters.Lawful := by
    refine ⟨rfl, ?_⟩
    intro kinds chosen kind
    cases Option.some.inj chosen
    cases kind <;> decide
  have quieter : onlyOtherParameters.settings.IsQuieterThan initial.settings :=
    ⟨fun kind => by cases kind <;> decide, rfl, .inl rfl, fun _ => rfl, fun _ => rfl⟩
  have all : resizable.sites.all (fun site =>
      decide (site.kind = .methodDef → site.node.firstOf? .ident ≠ none)) = true := by
    with_unfolding_all rfl
  have named : ∀ site ∈ resizable.sites, site.kind = .methodDef →
      site.node.firstOf? .ident ≠ none :=
    fun site member => of_decide_eq_true (List.all_eq_true.mp all site member)
  have completed : (Walker.alone.process (.only initial) resizable "Sized.java").outcome =
      .ok [hiddenSize 2, hiddenSize 3, hiddenSize 4, hiddenSize 5] := by
    with_unfolding_all rfl
  rcases options_only_silence lawful_initial lawful quieter (.inr named) completed with
    ⟨others, answered, sublist, -⟩
  exact ⟨lawful_initial, lawful, quieter, named, others, answered, sublist⟩

end HiddenField

end ShadowLint
