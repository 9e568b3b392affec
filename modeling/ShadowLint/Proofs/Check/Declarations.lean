import ShadowLint.Proofs.Check.Fields

/-!
What the check asks about a declaration is what the rule asks: whether it may hide
a field, whether it does, and whether it is exempt. The check asks step by step and
stops at the first answer that settles the matter.
-/

namespace ShadowLint

namespace Site

theorem inInterface_iff {site : Site} : site.inInterface = true ↔ site.IsGovernedByInterface := by
  unfold inInterface IsGovernedByInterface nearest?
  induction site.ancestors with
  | nil => simp [Context.inInterface]
  | cons ancestor outer induction =>
    rw [Context.inInterface]
    split
    · rename_i isClass
      simp [isClass]
    · rename_i isInterface
      simp [isInterface]
    · rename_i notClass notInterface
      have outside : [Kind.classDef, .interfaceDef].contains ancestor.kind = false := by
        simpa using ⟨notClass, notInterface⟩
      rw [induction, List.find?_cons, outside]

theorem inStatic_iff {site : Site} : site.inStatic = true ↔ site.InStaticContext := by
  unfold inStatic InStaticContext nearest?
  induction site.ancestors with
  | nil => simp [Context.inStatic]
  | cons ancestor outer induction =>
    rw [Context.inStatic]
    split
    · rename_i isInit
      simp [isInit]
    · rename_i isMethod
      simp [isMethod, Tree.isDeclaredStatic_iff]
    · rename_i isClass
      simp [isClass]
    · rename_i isInterface
      simp [isInterface]
    · rename_i notInit notMethod notClass notInterface
      have outside : [Kind.staticInit, .methodDef, .classDef, .interfaceDef].contains
          ancestor.kind = false := by
        simpa using ⟨notInit, notMethod, notClass, notInterface⟩
      rw [induction, List.find?_cons, outside]

theorem isLocal_variable {site : Site} (isVariable : site.kind = .variableDef) :
    site.isLocal = true ↔
      ∃ parent ∈ site.parent?, parent.kind ∈ [.statementList, .forInit, .forEachClause] := by
  have declares (kind : Kind) : Context.declaresLocals kind = true ↔
      kind ∈ [.statementList, .forInit, .forEachClause] := by
    cases kind <;> simp [Context.declaresLocals]
  unfold isLocal Context.isLocal
  cases site.parent? with
  | none => simp
  | some parent => simp only [Option.map_some, isVariable, declares, Option.mem_some_iff,
      exists_eq_left']

end Site

namespace HiddenField

theorem isCandidate_iff {site : Site} : isCandidate site = true ↔ site.IsCandidate := by
  have free : (!site.inInterface) = true ↔ ¬ site.IsGovernedByInterface := by
    rw [Bool.not_eq_true', ← Site.inInterface_iff, Bool.not_eq_true]
  rw [isCandidate, Site.IsCandidate, Bool.and_eq_true, free]
  refine and_congr_right fun _ => ?_
  rw [Bool.or_eq_true, beq_iff_eq]
  by_cases isParameter : site.kind = .parameterDef
  · simp [isParameter]
  · by_cases isVariable : site.kind = .variableDef
    · simp [isVariable, Site.isLocal_variable isVariable]
    · have notLocal : site.isLocal = false := by
        unfold Site.isLocal Context.isLocal
        cases site.parent? with
        | none => rfl
        | some parent => simp
      simp [isParameter, isVariable, notLocal]

theorem hidesField_iff {check : HiddenField} {site : Site}
    (inside : check.scopes = .within site.ancestors)
    (named : ScopeStack.AllNamed site.ancestors) (name : String) :
    check.hidesField site name = true ↔ site.HidesField name := by
  rw [hidesField, Site.HidesField, Bool.or_eq_true, Bool.and_eq_true, inside,
    ScopeStack.seesStatic_within named, ScopeStack.seesInstance_within named, Bool.not_eq_true',
    ← Site.inStatic_iff, Bool.not_eq_true]
  rfl

theorem ignoresName_iff {check : HiddenField} {name : String} :
    check.ignoresName name = true ↔ check.settings.IgnoresName name := by
  unfold ignoresName Settings.IgnoresName settings
  cases check.ignoreFormat <;> simp

theorem ignoresConstructorParameter_iff {check : HiddenField} {site : Site} :
    check.ignoresConstructorParameter site = true ↔
      check.settings.ignoreConstructorParameter = true ∧ site.IsConstructorParameter := by
  unfold ignoresConstructorParameter settings Site.IsConstructorParameter
  by_cases isParameter : site.kind = .parameterDef
  · cases check.ignoreConstructorParameter <;> cases site.grandparent? <;> simp [isParameter]
  · simp [isParameter]

theorem ignoresSetterParameter_of_nameless {check : HiddenField} {site : Site} {method : Tree}
    (on : check.ignoreSetter = true) (nameless : site.HasNamelessMethod method) (name : String) :
    check.ignoresSetterParameter site name = .error (.noIdent method) := by
  rcases nameless with ⟨⟨isParameter, parameters, parent, single⟩, grandparent, isMethod, missing⟩
  rw [Option.mem_def] at parent
  simp [ignoresSetterParameter, isParameter, on, parent, single, grandparent, isMethod, missing]

theorem ignoresSetterParameter_of_other {check : HiddenField} {site : Site}
    (other : ¬ (check.ignoreSetter = true ∧ site.IsOnlyParameter)) (name : String) :
    check.ignoresSetterParameter site name = .ok false := by
  unfold ignoresSetterParameter
  split
  · rfl
  · rename_i asked
    have on : check.ignoreSetter = true := by simp_all
    have isParameter : site.kind = .parameterDef := by simp_all
    cases parent : site.parent? with
    | none => rfl
    | some parameters =>
      have several : parameters.countOf .parameterDef ≠ 1 := fun single =>
        other ⟨on, isParameter, parameters, parent, single⟩
      simp [several]

theorem ignoresSetterParameter_of_method {check : HiddenField} {site : Site} {method ident : Tree}
    (on : check.ignoreSetter = true) (only : site.IsOnlyParameter)
    (grandparent : site.grandparent? = some method) (isMethod : method.kind = .methodDef)
    (declared : method.firstOf? .ident = some ident) (name : String) :
    check.ignoresSetterParameter site name =
      .ok (decide (ident.text = setterName name ∧
        ∃ type ∈ method.firstOf? .typeName, type.Holds .literalVoid)) := by
  rcases only with ⟨isParameter, parameters, parent, single⟩
  rw [Option.mem_def] at parent
  by_cases setter : ident.text = setterName name
  · cases returned : method.firstOf? .typeName with
    | none =>
      simp [ignoresSetterParameter, isParameter, on, parent, single, grandparent, isMethod,
        declared, setter, returned]
    | some type =>
      simp [ignoresSetterParameter, isParameter, on, parent, single, grandparent, isMethod,
        declared, setter, returned, ← Tree.branchContains_iff]
  · simp [ignoresSetterParameter, isParameter, on, parent, single, grandparent, isMethod,
      declared, setter]

theorem ignoresSetterParameter_of_named {check : HiddenField} {site : Site}
    (named : check.ignoreSetter = true → ∀ method, ¬ site.HasNamelessMethod method)
    (name : String) :
    ∃ ignored, check.ignoresSetterParameter site name = .ok ignored ∧
      (ignored = true ↔ check.ignoreSetter = true ∧ site.IsSetterParameter name) := by
  by_cases only : check.ignoreSetter = true ∧ site.IsOnlyParameter
  · rcases only with ⟨on, isOnly⟩
    have outside (noMethod : ∀ method ∈ site.grandparent?, method.kind ≠ .methodDef) :
        check.ignoresSetterParameter site name = .ok false := by
      rcases isOnly with ⟨isParameter, parameters, parent, single⟩
      rw [Option.mem_def] at parent
      cases grandparent : site.grandparent? with
      | none => simp [ignoresSetterParameter, isParameter, on, parent, single, grandparent]
      | some method =>
        simp [ignoresSetterParameter, isParameter, on, parent, single, grandparent,
          noMethod method grandparent]
    by_cases exists_ : ∃ method ∈ site.grandparent?, method.kind = .methodDef
    · rcases exists_ with ⟨method, grandparent, isMethod⟩
      rw [Option.mem_def] at grandparent
      cases declared : method.firstOf? .ident with
      | none => exact absurd ⟨isOnly, grandparent, isMethod, declared⟩ (named on method)
      | some ident =>
        refine ⟨_, ignoresSetterParameter_of_method on isOnly grandparent isMethod declared name,
          ?_⟩
        simp [Site.IsSetterParameter, on, isOnly, grandparent, isMethod, Tree.declaredName?,
          declared]
    · refine ⟨false, outside fun method member isMethod => exists_ ⟨method, member, isMethod⟩, ?_⟩
      simp only [Bool.false_eq_true, false_iff]
      rintro ⟨_, _, method, member, isMethod, _⟩
      exact exists_ ⟨method, member, isMethod⟩
  · refine ⟨false, ignoresSetterParameter_of_other only name, ?_⟩
    simp only [Bool.false_eq_true, false_iff]
    rintro ⟨on, isOnly, _⟩
    exact only ⟨on, isOnly⟩

theorem exempts_of_nameless {check : HiddenField} {site : Site} {name : String} {method : Tree}
    (on : check.ignoreSetter = true) (kept : ¬ check.settings.IgnoresName name)
    (nameless : site.HasNamelessMethod method) :
    check.exempts site name = .error (.noIdent method) := by
  rw [← ignoresName_iff] at kept
  simp [exempts, kept, ignoresSetterParameter_of_nameless on nameless]

theorem exempts_of_named {check : HiddenField} {site : Site} {name : String}
    (named : check.ignoreSetter = true → ¬ check.settings.IgnoresName name →
      ∀ method, ¬ site.HasNamelessMethod method) :
    ∃ exempt, check.exempts site name = .ok exempt ∧
      (exempt = true ↔ check.settings.Exempts site name) := by
  by_cases ignored : check.settings.IgnoresName name
  · refine ⟨true, ?_, by simp [Settings.Exempts, ignored]⟩
    simp [exempts, ignoresName_iff.mpr ignored]
  · have kept : check.ignoresName name ≠ true := fun found => ignored (ignoresName_iff.mp found)
    have answers := ignoresSetterParameter_of_named (fun on => named on ignored) name
    rcases answers with ⟨setter, answer, setter_iff⟩
    have on : check.settings.ignoreSetter = check.ignoreSetter := rfl
    cases setter with
    | true =>
      refine ⟨true, by simp [exempts, kept, answer], ?_⟩
      simpa [Settings.Exempts, on] using .inr (.inl (setter_iff.mp rfl))
    | false =>
      refine ⟨check.ignoresConstructorParameter site, by simp [exempts, kept, answer], ?_⟩
      have other : ¬ (check.ignoreSetter = true ∧ site.IsSetterParameter name) :=
        fun holds => Bool.false_ne_true (setter_iff.mpr holds)
      rw [ignoresConstructorParameter_iff, Settings.Exempts, on, or_iff_right ignored,
        or_iff_right other]

/-- A declaration is passed over, breaks the contract, or is reported if it hides a field. -/
theorem processDeclaration_cases (check : HiddenField) (site : Site) :
    check.processDeclaration site = .done check ∨
    (∃ error, check.processDeclaration site = .refused check (.contract error)) ∨
    ∃ ident : Tree, check.hidesField site ident.text = true ∧
      check.processDeclaration site =
        (check.core.report ident.label messageKey [.text ident.text]).map fun core =>
          { check with core } := by
  unfold processDeclaration
  split
  · split
    · exact .inr (.inl ⟨_, rfl⟩)
    · rename_i ident _
      split
      · rename_i hides
        split
        · exact .inr (.inl ⟨_, rfl⟩)
        · exact .inl rfl
        · exact .inr (.inr ⟨ident, hides, rfl⟩)
      · exact .inl rfl
  · exact .inl rfl

end HiddenField

end ShadowLint
