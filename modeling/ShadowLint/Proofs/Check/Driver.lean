import Mathlib.Data.List.DropRight
import Mathlib.Data.List.Induction
import ShadowLint.Proofs.Check.Declarations
import ShadowLint.Proofs.Check.History
import ShadowLint.Proofs.Walk.Callbacks

/-!
The scopes under any driver. Whatever is done with a check for hidden fields, in any
order, on any nodes, and also if it fails, its stack is the one of a walk that stands
inside the classes that were visited and not left since the last tree was begun
(`HiddenField.IsInside.enact`). So the stack never loses its base, and there are as many
scopes as there were visits of classes without a leave (`HiddenField.scopes_under_any_driver`).
-/

namespace ShadowLint

inductive Act where
  | callback (callback : Callback)
  | configure (call : ConfigCall)

namespace Act

def begins : Act → Bool
  | callback (.begin _) => true
  | _ => false

def visitsClass : Act → Bool
  | callback (.call (.visit site)) => site.kind == .classDef
  | _ => false

def leavesClass : Act → Bool
  | callback (.call (.leave site)) => site.kind == .classDef
  | _ => false

/-- The classes that are open after the act, innermost first. -/
def opened (classes : List Tree) : Act → List Tree
  | callback (.begin _) => []
  | callback (.call (.visit site)) =>
    if site.kind = .classDef then site.node :: classes else classes
  | callback (.call (.leave site)) => if site.kind = .classDef then classes.tail else classes
  | _ => classes

theorem opened_of_begins {act : Act} (begins : act.begins = true) (classes : List Tree) :
    act.opened classes = [] := by
  unfold Act.begins at begins
  split at begins
  · rfl
  · cases begins

end Act

namespace Check

/-- What comes of an act. A call that configures the check leaves what it leaves, whether
or not it fails. -/
def enact (check : Check) : Act → Reached Check
  | .callback callback => check.answer callback
  | .configure call => .done (check.after call)

structure Step where
  before : Check
  act : Act

def Step.succeeds (step : Step) : Bool := (step.before.enact step.act).fault.isNone

/-- What is left of a check after some acts, of which any may fail. -/
def driven (check : Check) (acts : List Act) : Check :=
  acts.foldl (fun check act => (check.enact act).state) check

def steps (check : Check) : List Act → List Step
  | [] => []
  | act :: rest => ⟨check, act⟩ :: steps (check.enact act).state rest

theorem driven_concat (check : Check) (acts : List Act) (act : Act) :
    check.driven (acts ++ [act]) = ((check.driven acts).enact act).state := by
  simp [driven]

theorem steps_concat (check : Check) (acts : List Act) (act : Act) :
    check.steps (acts ++ [act]) = check.steps acts ++ [⟨check.driven acts, act⟩] := by
  induction acts generalizing check with
  | nil => rfl
  | cons first rest induction =>
    rw [List.cons_append, steps, steps, induction]
    rfl

/-- The steps since a tree was begun, or since the check was made. -/
def recentSteps (check : Check) (acts : List Act) : List Step :=
  (check.steps acts).rtakeWhile fun step => !step.act.begins

def visits (steps : List Step) : Nat := steps.countP fun step => step.act.visitsClass

def leaves (steps : List Step) : Nat :=
  steps.countP fun step => step.act.leavesClass && step.succeeds

theorem visits_append (earlier later : List Step) :
    visits (earlier ++ later) = visits earlier + visits later :=
  List.countP_append

theorem leaves_append (earlier later : List Step) :
    leaves (earlier ++ later) = leaves earlier + leaves later :=
  List.countP_append

theorem visits_singleton (step : Step) :
    visits [step] = if step.act.visitsClass then 1 else 0 :=
  List.countP_singleton

theorem leaves_singleton (step : Step) :
    leaves [step] = if step.act.leavesClass && step.succeeds then 1 else 0 :=
  List.countP_singleton

end Check

namespace HiddenField

/-- The scopes of the check are those of a walk that stands inside the classes. -/
structure IsInside (check : HiddenField) (classes : List Tree) : Prop where
  scopes : check.scopes = .within classes
  classes : ∀ type ∈ classes, type.kind = .classDef

namespace IsInside

variable {check : HiddenField} {classes : List Tree} (inside : check.IsInside classes)

include inside in
theorem depth : check.scopes.depth = classes.length := by
  have all : classes.filter (·.kind = .classDef) = classes :=
    List.filter_eq_self.mpr fun type member => decide_eq_true (inside.classes type member)
  rw [inside.scopes, ScopeStack.depth_within, all]

theorem nil_of_depth (inside : check.IsInside classes) (closed : check.scopes.depth = 0) :
    check.IsInside [] := by
  have none : classes = [] := List.length_eq_zero_iff.mp (inside.depth.symm.trans closed)
  exact none ▸ inside

theorem leaveClass_of_none (inside : check.IsInside []) :
    check.leaveClass = .refused check (.contract .unbalanced) := by
  have refused : check.scopes.leave = .error .unbalanced := by
    rw [inside.scopes]
    rfl
  rw [leaveClass, refused]

theorem leaveClass_of_some {type : Tree} (inside : check.IsInside (type :: classes)) :
    check.leaveClass = ⟨{ check with scopes := .within classes },
      #[.leftScope (ScopeStack.within classes).depth], none⟩ := by
  have left : check.scopes.leave = .ok (.within classes) := by
    rw [inside.scopes, ScopeStack.within_class (inside.classes type List.mem_cons_self),
      ScopeStack.leave_openClass]
  rw [leaveClass, left]

include inside in
theorem of_scopes {after : HiddenField} (same : after.scopes = check.scopes) :
    after.IsInside classes :=
  ⟨same.trans inside.scopes, inside.classes⟩

theorem initial {check : HiddenField} (reset : check.scopes = .initial) : check.IsInside [] :=
  ⟨reset, by simp⟩

end IsInside

/-! ## One act -/

theorem scopes_processDeclaration (check : HiddenField) (site : Site) :
    (check.processDeclaration site).state.scopes = check.scopes := by
  rcases check.processDeclaration_cases site with passed | ⟨error, broken⟩ | ⟨ident, _, reported⟩
  · rw [passed, Reached.done]
  · rw [broken, Reached.refused]
  · rw [reported, Reached.map]

variable {check : HiddenField} {classes : List Tree}

theorem IsInside.after_visit (inside : check.IsInside classes) (site : Site) :
    (check.visit site).state.IsInside
      (if site.kind = .classDef then site.node :: classes else classes) := by
  by_cases isClass : site.kind = .classDef
  · rw [if_pos isClass, HiddenField.visit, isClass]
    refine ⟨?_, List.forall_mem_cons.mpr ⟨isClass, inside.classes⟩⟩
    rw [enterClass_eq, ScopeStack.within_class isClass, inside.scopes]
  · rw [if_neg isClass, HiddenField.visit]
    split
    · contradiction
    · exact inside.of_scopes (check.scopes_processDeclaration site)
    · exact inside.of_scopes (check.scopes_processDeclaration site)
    · exact inside

theorem IsInside.after_leave (inside : check.IsInside classes) (site : Site) :
    (check.leave site).state.IsInside
      (if site.kind = .classDef then classes.tail else classes) := by
  by_cases isClass : site.kind = .classDef
  · rw [if_pos isClass, HiddenField.leave, isClass]
    cases classes with
    | nil =>
      dsimp only
      rw [inside.leaveClass_of_none]
      exact inside
    | cons type rest =>
      dsimp only
      rw [inside.leaveClass_of_some]
      exact ⟨rfl, fun other member => inside.classes other (List.mem_cons_of_mem _ member)⟩
  · rw [if_neg isClass, HiddenField.leave]
    split
    · contradiction
    · exact inside
    · exact inside
    · exact inside

theorem after_configure (check : HiddenField) (call : ConfigCall) :
    ∃ changed : HiddenField, (Check.hiddenField check).after call = .hiddenField changed ∧
      changed.IsVariantOf check :=
  (Check.isVariantOf_kept check).after (Check.isVariantOf_self check) call

/-- Whatever is done with the check, and whether or not it fails, its scopes are those of
a walk that stands inside the classes that are open then. -/
theorem IsInside.enact (inside : check.IsInside classes) (act : Act) :
    ∃ after : HiddenField, ((Check.hiddenField check).enact act).state = .hiddenField after ∧
      after.IsInside (act.opened classes) := by
  cases act with
  | configure call =>
    rcases check.after_configure call with ⟨changed, reached, same⟩
    exact ⟨changed, reached, inside.of_scopes same.scopes⟩
  | callback callback =>
    cases callback with
    | call call =>
      cases call with
      | visit site => exact ⟨_, rfl, inside.after_visit site⟩
      | leave site => exact ⟨_, rfl, inside.after_leave site⟩
    | begin root => exact ⟨_, rfl, .initial rfl⟩
    | clear | setFile | finish => exact ⟨_, rfl, inside.of_scopes rfl⟩

theorem IsInside.leave_class (inside : check.IsInside classes) {site : Site}
    (isClass : site.kind = .classDef) :
    if classes = [] then check.leave site = .refused check (.contract .unbalanced)
    else (check.leave site).fault = none := by
  rw [HiddenField.leave, isClass]
  cases classes with
  | nil => exact inside.leaveClass_of_none
  | cons type rest => exact congrArg Reached.fault inside.leaveClass_of_some

theorem refuses_other {site : Site} (other : site.kind ∉ [.classDef, .variableDef, .parameterDef])
    (check : HiddenField) :
    let refused : Reached HiddenField :=
      .refused check (.contract (.unexpected check.core.profile.name site.node))
    check.visit site = refused ∧ check.leave site = refused := by
  simp only [List.mem_cons, List.not_mem_nil, or_false, not_or] at other
  rcases other with ⟨notClass, notVariable, notParameter⟩
  dsimp only
  rw [HiddenField.visit, HiddenField.leave]
  constructor
  · split
    · contradiction
    · contradiction
    · contradiction
    · rfl
  · split
    · contradiction
    · contradiction
    · contradiction
    · rfl

theorem IsInside.leaves_class (inside : check.IsInside classes) {site : Site}
    (isClass : site.kind = .classDef) :
    Check.leaves [⟨.hiddenField check, .callback (.call (.leave site))⟩] =
      if classes = [] then 0 else 1 := by
  have answers : ((Check.hiddenField check).enact (.callback (.call (.leave site)))).fault =
      (check.leave site).fault := rfl
  have left := inside.leave_class isClass
  by_cases none : classes = []
  · rw [if_pos none] at left
    simp [Check.leaves_singleton, Act.leavesClass, Check.Step.succeeds, answers, left, none,
      Reached.refused]
  · rw [if_neg none] at left
    simp [Check.leaves_singleton, Act.leavesClass, Check.Step.succeeds, answers, left, none,
      isClass]

theorem IsInside.balance (inside : check.IsInside classes) {act : Act}
    (goesOn : act.begins = false) :
    (act.opened classes).length + Check.leaves [⟨.hiddenField check, act⟩] =
      classes.length + Check.visits [⟨.hiddenField check, act⟩] := by
  cases act with
  | configure call => rfl
  | callback callback =>
    cases callback with
    | call call =>
      cases call with
      | visit site =>
        by_cases isClass : site.kind = .classDef <;>
          simp [Act.opened, Check.visits_singleton, Check.leaves_singleton, Act.visitsClass,
            Act.leavesClass, isClass]
      | leave site =>
        by_cases isClass : site.kind = .classDef
        · rw [inside.leaves_class isClass, Check.visits_singleton]
          cases classes <;> simp [Act.opened, Act.visitsClass, isClass]
        · simp [Act.opened, Check.visits_singleton, Check.leaves_singleton, Act.visitsClass,
            Act.leavesClass, isClass]
    | begin root => cases goesOn
    | clear | setFile | finish => rfl

/-! ## A whole history -/

theorem exists_inside_of_driven (acts : List Act) :
    let start : Check := .hiddenField .initial
    ∃ (check : HiddenField) (classes : List Tree),
      start.driven acts = .hiddenField check ∧ check.IsInside classes ∧
        classes.length + Check.leaves (start.recentSteps acts) =
          Check.visits (start.recentSteps acts) := by
  intro start
  induction acts using List.reverseRecOn with
  | nil => exact ⟨.initial, [], rfl, .initial rfl, rfl⟩
  | append_singleton earlier act induction =>
    rcases induction with ⟨check, classes, reached, inside, balance⟩
    rcases inside.enact act with ⟨after, next, insideAfter⟩
    refine ⟨after, act.opened classes, ?_, insideAfter, ?_⟩
    · rw [Check.driven_concat, reached, next]
    · rw [Check.recentSteps, Check.steps_concat, reached]
      cases begins : act.begins with
      | true =>
        rw [List.rtakeWhile_concat_neg _ _ _ (by simp [begins]), Act.opened_of_begins begins]
        rfl
      | false =>
        rw [List.rtakeWhile_concat_pos _ _ _ (by simp [begins])]
        have here := inside.balance begins
        simp only [Check.recentSteps] at balance
        rw [Check.leaves_append, Check.visits_append]
        omega

/-! ## Outside of all classes -/

theorem IsInside.not_hidesField (outside : check.IsInside []) (site : Site) (name : String) :
    check.hidesField site name = false := by
  have nothing : ScopeStack.initial.chain = [.outermost] := by
    rw [ScopeStack.linked_initial.chain_eq]
    rfl
  simp [hidesField, outside.scopes, ScopeStack.seesStatic, ScopeStack.seesInstance, nothing,
    ScopeStack.reachesInstance, FieldFrame.outermost]

theorem IsInside.processDeclaration_keeps (outside : check.IsInside []) (site : Site) :
    (check.processDeclaration site).state = check := by
  rcases check.processDeclaration_cases site with passed | ⟨error, broken⟩ | ⟨ident, hides, _⟩
  · rw [passed, Reached.done]
  · rw [broken, Reached.refused]
  · rw [outside.not_hidesField] at hides
    cases hides

theorem IsInside.core_visit (outside : check.IsInside []) (site : Site) :
    (check.visit site).state.core = check.core := by
  unfold visit
  split
  · rw [enterClass_eq]
  · rw [outside.processDeclaration_keeps]
  · rw [outside.processDeclaration_keeps]
  · rfl

theorem core_leave (check : HiddenField) (site : Site) :
    (check.leave site).state.core = check.core := by
  rcases check.leave_changes_scopes site with ⟨scopes, left⟩
  rw [left]

theorem IsInside.violations_enact (outside : check.IsInside []) {act : Act}
    (other : act ≠ .callback .clear) :
    ((Check.hiddenField check).enact act).state.core.violations = check.core.violations := by
  cases act with
  | configure call =>
    rcases check.after_configure call with ⟨changed, reached, same⟩
    have violations : ((Check.hiddenField check).after call).core.violations =
        changed.core.violations := by rw [reached, Check.core]
    exact violations.trans same.violations
  | callback callback =>
    cases callback with
    | call call =>
      cases call with
      | visit site => exact congrArg Core.violations (outside.core_visit site)
      | leave site => exact congrArg Core.violations (check.core_leave site)
    | clear => exact absurd rfl other
    | begin | setFile | finish => rfl

/-- The scopes of a check for hidden fields are safe under any driver. -/
theorem scopes_under_any_driver (acts : List Act) :
    let start : Check := .hiddenField .initial
    let recent := start.recentSteps acts
    ∃ check : HiddenField, start.driven acts = .hiddenField check ∧
      check.scopes.depth + Check.leaves recent = Check.visits recent ∧
      (∃ base, check.scopes.frameAt? 0 = some base ∧ base.isStatic = true ∧ base.parent = none ∧
        ∀ isStatic name, base.holds isStatic name = false) ∧
      (∀ site, site.kind = .classDef →
        ((check.leave site).fault ≠ none ↔ check.scopes.depth = 0) ∧
        ∀ fault, (check.leave site).fault = some fault → (check.leave site).state = check ∧
          ∃ error, fault = .contract error ∧ error.code.identifier = "HF-2002") ∧
      (∀ site, site.kind ∉ [.classDef, .variableDef, .parameterDef] →
        ∀ reached ∈ [check.visit site, check.leave site], reached.state = check ∧
          ∃ error, reached.fault = some (.contract error) ∧ error.code.identifier = "HF-2003") ∧
      (check.scopes.depth = 0 → ∀ act, act ≠ .callback .clear →
        ((Check.hiddenField check).enact act).state.core.violations = check.core.violations) ∧
      ∀ root,
        let finished := (Check.hiddenField check).enact (.callback (.finish root))
        finished.state = .hiddenField check ∧ finished.fault = none ∧
          finished.journal.atLeast .warning = if check.scopes.depth = 0 then []
            else [.scopesOpen check.core.profile.name check.scopes.depth] := by
  intro start recent
  rcases exists_inside_of_driven acts with ⟨check, classes, reached, inside, balance⟩
  refine ⟨check, reached, by rwa [inside.depth], ?_, ?_, ?_, ?_, ?_⟩
  · have base : check.scopes.base = .outermost := by
      rw [inside.scopes, ScopeStack.base_within]
    exact ⟨_, rfl, by rw [base]; exact ⟨rfl, rfl, fun isStatic name => by cases isStatic <;> rfl⟩⟩
  · intro site isClass
    have left := inside.leave_class isClass
    rw [inside.depth, List.length_eq_zero_iff]
    by_cases none : classes = []
    · rw [if_pos none] at left
      rw [left]
      refine ⟨by simp [none, Reached.refused], ?_⟩
      intro fault failed
      cases failed
      exact ⟨rfl, _, rfl, rfl⟩
    · rw [if_neg none] at left
      simp [left, none]
  · intro site other reached isOne
    rcases refuses_other other check with ⟨visited, left⟩
    rw [visited, left, List.mem_pair, or_self] at isOne
    rw [isOne]
    exact ⟨rfl, _, rfl, rfl⟩
  · exact fun closed act => (inside.nil_of_depth closed).violations_enact
  · intro root
    refine ⟨rfl, rfl, ?_⟩
    by_cases closed : check.scopes.depth = 0
    · simp [Check.enact, Check.answer, Check.finishTree, finishTree, closed, Journal.atLeast]
    · simp [Check.enact, Check.answer, Check.finishTree, finishTree, closed, Journal.atLeast,
        Entry.level]

end HiddenField

end ShadowLint
