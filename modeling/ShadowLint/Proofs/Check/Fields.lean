import Mathlib.Data.List.TakeWhile
import ShadowLint.Proofs.Check.Rule
import ShadowLint.Proofs.Scope.Chain

/-!
The frames of the enclosing classes. `ScopeStack.within` is the stack of a walk that
stands inside the given ancestors; looking a name up in it answers what the rule
asks of the classes (`ScopeStack.seesStatic_within`, `ScopeStack.seesInstance_within`),
provided that every field of theirs has a name.
-/

namespace ShadowLint

namespace FieldFrame

def addMember (frame : FieldFrame) (member : Tree) : FieldFrame :=
  match member.declaredName? with
  | some name =>
    if member.kind = .variableDef then frame.add member.isDeclaredStatic name else frame
  | none => frame

def addMembers (frame : FieldFrame) (members : List Tree) : FieldFrame :=
  members.foldl addMember frame

@[simp] theorem addMembers_nil (frame : FieldFrame) : frame.addMembers [] = frame := rfl

@[simp] theorem addMembers_cons (frame : FieldFrame) (member : Tree) (rest : List Tree) :
    frame.addMembers (member :: rest) = (frame.addMember member).addMembers rest := rfl

@[simp] theorem isStatic_addMember (frame : FieldFrame) (member : Tree) :
    (frame.addMember member).isStatic = frame.isStatic := by
  unfold addMember
  split
  · split <;> simp
  · rfl

@[simp] theorem parent_addMember (frame : FieldFrame) (member : Tree) :
    (frame.addMember member).parent = frame.parent := by
  unfold addMember
  split
  · split <;> simp
  · rfl

@[simp] theorem isStatic_addMembers (frame : FieldFrame) (members : List Tree) :
    (frame.addMembers members).isStatic = frame.isStatic := by
  induction members generalizing frame with
  | nil => rfl
  | cons member rest induction => rw [addMembers_cons, induction, isStatic_addMember]

@[simp] theorem parent_addMembers (frame : FieldFrame) (members : List Tree) :
    (frame.addMembers members).parent = frame.parent := by
  induction members generalizing frame with
  | nil => rfl
  | cons member rest induction => rw [addMembers_cons, induction, parent_addMember]

theorem holds_addMember (frame : FieldFrame) (member : Tree) (isStatic : Bool) (name : String) :
    (frame.addMember member).holds isStatic name = true ↔
      Tree.SomeField [member] isStatic name ∨ frame.holds isStatic name = true := by
  unfold addMember holds
  cases declared : member.declaredName? with
  | none => simp [Tree.SomeField, declared]
  | some other =>
    by_cases field : member.kind = .variableDef
    · have static : member.IsStatic ↔ member.isDeclaredStatic = true :=
        Tree.isDeclaredStatic_iff.symm
      simp only [Tree.SomeField, List.mem_singleton, exists_eq_left, declared, field, static,
        Option.some.injEq, true_and, if_true]
      cases isStatic <;> cases member.isDeclaredStatic <;> simp [@eq_comm _ name other]
    · simp [Tree.SomeField, field]

theorem holds_addMembers (frame : FieldFrame) (members : List Tree) (isStatic : Bool)
    (name : String) :
    (frame.addMembers members).holds isStatic name = true ↔
      Tree.SomeField members isStatic name ∨ frame.holds isStatic name = true := by
  induction members generalizing frame with
  | nil => simp [Tree.SomeField]
  | cons member rest induction =>
    rw [addMembers_cons, induction, holds_addMember, ← or_assoc]
    simp [Tree.SomeField, or_comm]

end FieldFrame

namespace Tree

/-- The members of a class up to the first field without a name. -/
def namedMembers (type : Tree) : List Tree :=
  type.members.takeWhile fun member => ¬ member.IsNamelessField

/-- What is wrong with a class: it has no body, or a field of it has no name. -/
def bodyError? (type : Tree) : Option ContractError :=
  if type.firstOf? .objBlock = none then some (.noBody type)
  else (type.members.find? fun member => member.IsNamelessField).map .noIdent

end Tree

theorem HiddenField.collectFields_eq (frame : FieldFrame) (members : List Tree) :
    collectFields frame members =
      (frame.addMembers (members.takeWhile fun member => ¬ member.IsNamelessField),
        (members.find? fun member => member.IsNamelessField).map .noIdent) := by
  induction members generalizing frame with
  | nil => rfl
  | cons member rest induction =>
    rw [collectFields]
    by_cases field : member.kind = .variableDef
    · cases declared : member.firstOf? .ident with
      | none => simp [field, declared, Tree.IsNamelessField]
      | some ident =>
        have named : ¬ member.IsNamelessField := by simp [Tree.IsNamelessField, declared]
        have added : frame.addMember member = frame.add member.isDeclaredStatic ident.text := by
          simp [FieldFrame.addMember, Tree.declaredName?, declared, field]
        simp [field, named, induction, added]
    · have named : ¬ member.IsNamelessField := by simp [Tree.IsNamelessField, field]
      have kept : frame.addMember member = frame := by
        unfold FieldFrame.addMember
        cases member.declaredName? <;> simp [field]
      simp [field, named, induction, kept]

def FieldFrame.ofClass (type : Tree) (depth : Nat) : FieldFrame :=
  (FieldFrame.empty type.isDeclaredStatic (some depth)).addMembers type.namedMembers

namespace ScopeStack

def openClass (scopes : ScopeStack) (type : Tree) : ScopeStack :=
  { scopes with opened := scopes.opened.push (.ofClass type scopes.depth) }

/-- The stack of a walk that stands inside the ancestors, given innermost first. -/
def within : (ancestors : List Tree) → ScopeStack
  | [] => initial
  | ancestor :: outer =>
    if ancestor.kind = .classDef then (within outer).openClass ancestor else within outer

@[simp] theorem within_nil : within [] = initial := rfl

theorem within_class {ancestor : Tree} (isClass : ancestor.kind = .classDef) (outer : List Tree) :
    within (ancestor :: outer) = (within outer).openClass ancestor := by
  simp [within, isClass]

theorem within_other {ancestor : Tree} (other : ancestor.kind ≠ .classDef) (outer : List Tree) :
    within (ancestor :: outer) = within outer := by
  simp [within, other]

theorem frames_openClass (scopes : ScopeStack) (type : Tree) :
    (scopes.openClass type).frames = scopes.frames ++ [.ofClass type scopes.depth] := by
  simp [openClass, frames]

theorem linked_openClass {scopes : ScopeStack} (linked : scopes.Linked) (type : Tree) :
    (scopes.openClass type).Linked :=
  linked.push (by simp [FieldFrame.ofClass])

theorem linked_within (ancestors : List Tree) : (within ancestors).Linked := by
  induction ancestors with
  | nil => exact linked_initial
  | cons ancestor outer induction =>
    by_cases isClass : ancestor.kind = .classDef
    · rw [within_class isClass]
      exact linked_openClass induction ancestor
    · rwa [within_other isClass]

theorem base_within (ancestors : List Tree) : (within ancestors).base = .outermost := by
  induction ancestors with
  | nil => rfl
  | cons ancestor outer induction =>
    rw [within]
    split
    · exact induction
    · exact induction

theorem depth_openClass (scopes : ScopeStack) (type : Tree) :
    (scopes.openClass type).depth = scopes.depth + 1 := by
  simp [openClass, depth]

theorem depth_within (ancestors : List Tree) :
    (within ancestors).depth = (ancestors.filter (·.kind = .classDef)).length := by
  induction ancestors with
  | nil => rfl
  | cons ancestor outer induction =>
    by_cases isClass : ancestor.kind = .classDef
    · rw [within_class isClass, depth_openClass, induction]
      simp [isClass]
    · rw [within_other isClass, induction]
      simp [isClass]

/-- One frame for each class among the ancestors, from the outside in, each naming
the position of the one around it. -/
theorem frames_within (ancestors : List Tree) :
    (within ancestors).frames =
      .outermost :: (ancestors.filter (·.kind = .classDef)).reverse.mapIdx
        fun position type => .ofClass type position := by
  induction ancestors with
  | nil => rfl
  | cons ancestor outer induction =>
    by_cases isClass : ancestor.kind = .classDef
    · rw [within_class isClass, frames_openClass, induction, depth_within]
      simp [isClass, List.mapIdx_append]
    · rw [within_other isClass, induction]
      simp [isClass]

theorem leave_openClass (scopes : ScopeStack) (type : Tree) :
    (scopes.openClass type).leave = .ok scopes := by
  simp [openClass, leave, current, FieldFrame.ofClass]

theorem modifyCurrent_enter (scopes : ScopeStack) (isStatic : Bool)
    (change : FieldFrame → FieldFrame) :
    (scopes.enter isStatic).modifyCurrent change =
      { scopes with opened :=
          scopes.opened.push (change (.empty isStatic (some scopes.depth))) } := by
  have depth : (scopes.enter isStatic).depth = scopes.opened.size + 1 := depth_enter _ _
  rw [modifyCurrent, depth, modifyAt]
  congr 1
  apply Array.ext_getElem?
  intro position
  rw [enter, Array.getElem?_modify, Array.getElem?_push, Array.getElem?_push]
  by_cases last : position = scopes.opened.size
  · simp [last]
  · simp [last, Ne.symm last]

end ScopeStack

theorem HiddenField.enterClass_eq (check : HiddenField) (site : Site) :
    check.enterClass site =
      ⟨{ check with scopes := check.scopes.openClass site.node },
        #[.enteredScope (check.scopes.depth + 1) site.node.isDeclaredStatic],
        site.node.bodyError?.map .contract⟩ := by
  unfold enterClass
  cases found : site.node.firstOf? .objBlock with
  | none =>
    have members : site.node.namedMembers = [] := by
      simp [Tree.namedMembers, Tree.members, found]
    simp only [Tree.bodyError?, found, ScopeStack.openClass, FieldFrame.ofClass, members,
      ScopeStack.depth_enter]
    rfl
  | some body =>
    have members : site.node.members = body.children := by simp [Tree.members, found]
    have current : (check.scopes.enter site.node.isDeclaredStatic).current =
        .empty site.node.isDeclaredStatic (some check.scopes.depth) := by
      simp [ScopeStack.enter, ScopeStack.current]
    simp only [collectFields_eq, current, ScopeStack.modifyCurrent_enter, ScopeStack.depth_enter]
    simp [Tree.bodyError?, found, members, ScopeStack.openClass, FieldFrame.ofClass,
      Tree.namedMembers]

theorem HiddenField.leave_changes_scopes (check : HiddenField) (site : Site) :
    ∃ scopes, (check.leave site).state = { check with scopes } := by
  unfold leave leaveClass
  split
  · split
    · exact ⟨_, rfl⟩
    · exact ⟨_, rfl⟩
  · exact ⟨_, rfl⟩
  · exact ⟨_, rfl⟩
  · exact ⟨_, rfl⟩

/-! ## Looking up names -/

namespace FieldFrame

@[simp] theorem isStatic_ofClass (type : Tree) (depth : Nat) :
    (ofClass type depth).isStatic = type.isDeclaredStatic := by
  simp [ofClass]

@[simp] theorem parent_ofClass (type : Tree) (depth : Nat) :
    (ofClass type depth).parent = some depth := by
  simp [ofClass]

theorem holds_ofClass (type : Tree) (depth : Nat) (isStatic : Bool) (name : String) :
    (ofClass type depth).holds isStatic name = true ↔
      Tree.SomeField type.namedMembers isStatic name := by
  rw [ofClass, holds_addMembers]
  cases isStatic <;> simp [holds]

end FieldFrame

namespace Tree

def HasNamedFields (type : Tree) : Prop := ∀ member ∈ type.members, ¬ member.IsNamelessField

theorem namedMembers_eq {type : Tree} (named : type.HasNamedFields) :
    type.namedMembers = type.members := by
  rw [namedMembers, List.takeWhile_eq_self_iff]
  simpa [HasNamedFields] using named

end Tree

namespace Site

@[simp] theorem not_reachesInstance_nil (name : String) : ¬ ReachesInstance name [] := by
  simp [ReachesInstance]

theorem reachesInstance_cons (name : String) (type : Tree) (outer : List Tree) :
    ReachesInstance name (type :: outer) ↔
      type.Declares false name ∨ ¬ type.IsStatic ∧ ReachesInstance name outer := by
  constructor
  · rintro ⟨position, inside, ⟨found, foundAt, declares⟩, free⟩
    cases position with
    | zero =>
      left
      simpa [← Option.some.inj foundAt] using declares
    | succ position =>
      right
      refine ⟨free type (by simp), position, by simpa using inside, ⟨found, foundAt, declares⟩, ?_⟩
      intro inner member
      exact free inner (by simp [member])
  · rintro (declares | ⟨instanceType, position, inside, declared, free⟩)
    · exact ⟨0, by simp, ⟨type, rfl, declares⟩, by simp⟩
    · refine ⟨position + 1, by simpa using inside, declared, ?_⟩
      intro inner member
      rcases List.mem_cons.mp member with equal | member
      · exact equal ▸ instanceType
      · exact free inner member

end Site

namespace ScopeStack

def AllNamed (ancestors : List Tree) : Prop :=
  ∀ ancestor ∈ ancestors, ancestor.kind = .classDef → ancestor.HasNamedFields

variable {ancestors : List Tree} (named : AllNamed ancestors)

include named in
theorem seesStatic_within (name : String) :
    (within ancestors).seesStatic name = true ↔
      ∃ type ∈ ancestors.filter (·.kind = .classDef), type.Declares true name := by
  rw [(linked_within ancestors).seesStatic_eq]
  induction ancestors with
  | nil => simp [frames, initial, FieldFrame.outermost]
  | cons ancestor outer induction =>
    have namedOuter : AllNamed outer := fun other member =>
      named other (List.mem_cons_of_mem _ member)
    by_cases isClass : ancestor.kind = .classDef
    · have declares : (FieldFrame.ofClass ancestor (within outer).depth).holdsStatic name = true ↔
          ancestor.Declares true name := by
        rw [Tree.Declares, ← Tree.namedMembers_eq (named ancestor List.mem_cons_self isClass)]
        exact FieldFrame.holds_ofClass ancestor _ true name
      rw [within_class isClass, frames_openClass, List.any_append, Bool.or_eq_true,
        induction namedOuter]
      simp [isClass, declares, or_comm]
    · rw [within_other isClass, induction namedOuter]
      simp [isClass]

include named in
theorem seesInstance_within (name : String) :
    (within ancestors).seesInstance name = true ↔
      Site.ReachesInstance name (ancestors.filter (·.kind = .classDef)) := by
  rw [(linked_within ancestors).seesInstance_eq]
  induction ancestors with
  | nil => simp [frames, initial, FieldFrame.outermost, reachesInstance]
  | cons ancestor outer induction =>
    have namedOuter : AllNamed outer := fun other member =>
      named other (List.mem_cons_of_mem _ member)
    by_cases isClass : ancestor.kind = .classDef
    · have declares : (FieldFrame.ofClass ancestor (within outer).depth).holdsInstance name = true ↔
          ancestor.Declares false name := by
        rw [Tree.Declares, ← Tree.namedMembers_eq (named ancestor List.mem_cons_self isClass)]
        exact FieldFrame.holds_ofClass ancestor _ false name
      rw [within_class isClass, frames_openClass, List.reverse_append, List.reverse_singleton,
        List.singleton_append, reachesInstance, Bool.or_eq_true, Bool.and_eq_true,
        induction namedOuter, declares, FieldFrame.isStatic_ofClass]
      simp [isClass, Site.reachesInstance_cons, ← Tree.isDeclaredStatic_iff]
    · rw [within_other isClass, induction namedOuter]
      simp [isClass]

end ScopeStack

end ShadowLint
