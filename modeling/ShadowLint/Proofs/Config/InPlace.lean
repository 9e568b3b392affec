import ShadowLint.Proofs.Config.Failing

/-!
Setting a check in place. The setters of a check for hidden fields, and configuring it, as
programs that work on the check statement by statement, so that one that fails leaves what
was done until then. They come to what the functions that answer a changed check come to
(`HiddenField.SetterCall.ended_program`, `HiddenField.InPlace.ended_configure`). Each setter
changes the check with its last statement, and configuring is one setter after the other. So
what a failure leaves is the check that the entries before it lead to
(`HiddenField.failure_leaves_start`).
-/

namespace ShadowLint.HiddenField

open MonadExcept (ofExcept)

/-- A program that works on a check for hidden fields. What it did before it failed stays
done. -/
abbrev InPlace (Answer : Type) : Type := EStateM SettingFault HiddenField Answer

/-- What a kind is given by: the kind itself, or a value that is to be the name of one. -/
inductive KindSpec where
  | kind (kind : Kind)
  | value (value : Value)

def KindSpec.toKind : KindSpec → Except SettingFault Kind
  | .kind known => .ok known
  | .value (.text name) => (Conversion.kindOf name).mapError .refused
  | .value _ => .error .notText

def KindSpec.accepted (core : Core) (spec : KindSpec) : Except SettingFault Kind := do
  let kind ← spec.toKind
  (core.acceptedKind kind).mapError .refused

/-! ## The programs -/

namespace InPlace

variable {Given : Type}

def acceptKind (core : Core) (spec : KindSpec) : InPlace Kind := do
  let kind ← ofExcept spec.toKind
  ofExcept ((core.acceptedKind kind).mapError .refused)

def chooseKinds (core : Core) (chosen : List Kind) : List KindSpec → InPlace (List Kind)
  | [] => return chosen
  | spec :: rest => do
    let kind ← acceptKind core spec
    chooseKinds core (chosen ++ [kind]) rest

def setTokens (specs : List KindSpec) : InPlace Unit := do
  let check ← get
  -- All that can fail comes before the one statement that changes the check.
  let chosen ← chooseKinds check.core [] specs
  modify (·.put (.tokens (some (.ofList chosen))))

def setConverted (converted : Except SettingFault Given) (setting : Given → Setting) :
    InPlace Unit := do
  let given ← ofExcept converted
  modify (·.put (setting given))

def setSeverity (given : Value) : InPlace Unit :=
  setConverted (Conversion.toSeverity given) .severity

def setIgnoreFormat (pattern : String) : InPlace Unit :=
  if pattern = "" then modify (·.put (.ignoreFormat none))
  else setConverted (filterOf pattern) fun filter => .ignoreFormat (some filter)

def setFlag (property : Property) (setting : Bool → Setting) (given : Value) : InPlace Unit :=
  setConverted ((Conversion.toBool property.name given).mapError .refused) setting

def setProperty : Property → Value → InPlace Unit
  | .tokens, value => do
    let names ← ofExcept (Conversion.toNames value)
    setTokens (names.map fun name => .value (.text name))
  | .severity, value => setSeverity value
  | .ignoreFormat, value => setIgnoreFormat (Conversion.toPatternText value)
  | .ignoreSetter, value => setFlag .ignoreSetter .ignoreSetter value
  | .ignoreConstructorParameter, value =>
    setFlag .ignoreConstructorParameter .ignoreConstructorParameter value

def setEntry (entry : String × Value) : InPlace Unit := do
  let check ← get
  match (Check.hiddenField check).property? entry.1 with
  | none =>
    throw (.refused (.unknownProperty entry.1 check.core.profile.name entry.2
      (Check.hiddenField check).propertyNames))
  | some property => setProperty property entry.2

def configure (properties : List (String × Value)) : InPlace Unit := forM properties setEntry

/-! ## How programs end -/

def endOf (check : HiddenField) :
    Except SettingFault Setting → EStateM.Result SettingFault HiddenField Unit
  | .ok setting => .ok () (check.put setting)
  | .error fault => .error fault check

theorem endOf_eq_error_iff {check after : HiddenField} {meant : Except SettingFault Setting}
    {fault : SettingFault} :
    endOf check meant = .error fault after ↔ meant = .error fault ∧ after = check := by
  cases meant with
  | ok setting => exact ⟨nofun, fun both => nomatch both.1⟩
  | error found =>
    rw [endOf, EStateM.Result.error.injEq, Except.error.injEq, eq_comm (b := after)]

theorem run_ofExcept_bind {Answer : Type} (answer : Except SettingFault Given)
    (next : Given → InPlace Answer) (check : HiddenField) :
    (ofExcept answer >>= next : InPlace Answer).run check =
      match answer with
      | .ok given => (next given).run check
      | .error fault => .error fault check := by
  cases answer <;> rfl

theorem run_setConverted (converted : Except SettingFault Given) (setting : Given → Setting)
    (check : HiddenField) :
    (setConverted converted setting).run check = endOf check (converted.map setting) := by
  rw [setConverted, run_ofExcept_bind]
  cases converted <;> rfl

theorem run_setIgnoreFormat (pattern : String) (check : HiddenField) :
    (setIgnoreFormat pattern).run check = endOf check
      (if pattern = "" then .ok (.ignoreFormat none)
      else (filterOf pattern).map fun filter => .ignoreFormat (some filter)) := by
  rw [setIgnoreFormat]
  split
  · rfl
  · exact run_setConverted _ _ check

theorem acceptKind_eq (core : Core) (spec : KindSpec) :
    acceptKind core spec = ofExcept (spec.accepted core) := by
  rw [acceptKind, KindSpec.accepted]
  cases spec.toKind <;> rfl

theorem run_chooseKinds (core : Core) (chosen : List Kind) (specs : List KindSpec)
    (check : HiddenField) :
    (chooseKinds core chosen specs).run check =
      match specs.mapM (KindSpec.accepted core) with
      | .ok kinds => .ok (chosen ++ kinds) check
      | .error fault => .error fault check := by
  induction specs generalizing chosen with
  | nil =>
    change EStateM.Result.ok chosen check = .ok (chosen ++ []) check
    rw [List.append_nil]
  | cons spec rest induction =>
    rw [chooseKinds, acceptKind_eq, run_ofExcept_bind, List.mapM_cons]
    cases spec.accepted core with
    | error fault => rfl
    | ok kind =>
      dsimp only
      rw [induction]
      cases rest.mapM (KindSpec.accepted core) with
      | error fault => rfl
      | ok kinds =>
        change EStateM.Result.ok (chosen ++ [kind] ++ kinds) check = _
        rw [List.append_assoc, List.singleton_append]
        rfl

theorem run_setTokens (specs : List KindSpec) (check : HiddenField) :
    (setTokens specs).run check = endOf check
      ((specs.mapM (KindSpec.accepted check.core)).map fun kinds =>
        .tokens (some (.ofList kinds))) := by
  have chosen := run_chooseKinds check.core [] specs check
  rw [setTokens, EStateM.run_bind, EStateM.run_get]
  dsimp only
  rw [EStateM.run_bind, chosen]
  cases specs.mapM (KindSpec.accepted check.core) <;> rfl

theorem mapM_accepted_names (core : Core) (names : List String) :
    (names.map fun name => KindSpec.value (.text name)).mapM (KindSpec.accepted core) =
      (names.mapM core.profile.kindNamed).mapError .refused := by
  rw [List.mapM_map, ← Success.mapM_mapError]
  congr 1
  funext name
  change ((Conversion.kindOf name).mapError .refused >>= fun kind =>
    (core.acceptedKind kind).mapError SettingFault.refused) = _
  rw [Profile.kindNamed]
  cases Conversion.kindOf name <;> rfl

theorem mapM_accepted_kinds (core : Core) (kinds : List Kind) :
    (kinds.map KindSpec.kind).mapM (KindSpec.accepted core) =
      (kinds.mapM core.acceptedKind).mapError .refused := by
  rw [List.mapM_map, ← Success.mapM_mapError]
  rfl

theorem run_setProperty (property : Property) (value : Value) (check : HiddenField) :
    (setProperty property value).run check =
      endOf check (Setting.ofValue check.core.profile property value) := by
  cases property with
  | tokens =>
    rw [setProperty, run_ofExcept_bind, Setting.ofValue]
    cases Conversion.toNames value with
    | error fault => rfl
    | ok names =>
      dsimp only
      rw [run_setTokens, mapM_accepted_names]
      change _ = endOf check ((names.mapM check.core.profile.kindNamed).mapError .refused >>= _)
      cases names.mapM check.core.profile.kindNamed <;> rfl
  | severity => exact run_setConverted _ _ check
  | ignoreFormat => exact run_setIgnoreFormat _ check
  | ignoreSetter => exact run_setConverted _ _ check
  | ignoreConstructorParameter => exact run_setConverted _ _ check

theorem run_setEntry (entry : String × Value) (check : HiddenField) :
    (setEntry entry).run check = endOf check (Setting.ofEntry check.core.profile entry) := by
  rw [setEntry, EStateM.run_bind, EStateM.run_get]
  dsimp only
  rw [property?_eq, Setting.ofEntry]
  cases Property.ofName? entry.1 with
  | none => rfl
  | some property => exact run_setProperty property entry.2 check

theorem exists_of_forM_error {Item : Type} {step : Item → InPlace Unit} {items : List Item}
    {check after : HiddenField} {fault : SettingFault}
    (failed : (forM items step).run check = .error fault after) :
    ∃ before item rest middle, items = before ++ item :: rest ∧
      (forM before step).run check = .ok () middle ∧
      (step item).run middle = .error fault after := by
  -- The rest of the items starts from the check that the first one leaves.
  induction items generalizing check with
  | nil => cases failed
  | cons first later induction =>
    rw [List.forM_cons, EStateM.run_bind] at failed
    cases ended : (step first).run check with
    | error found left =>
      rw [ended] at failed
      cases failed
      exact ⟨[], first, later, check, rfl, rfl, ended⟩
    | ok _ changed =>
      rw [ended] at failed
      rcases induction failed with ⟨before, item, rest, middle, rfl, succeeded, stopped⟩
      refine ⟨first :: before, item, rest, middle, rfl, ?_, stopped⟩
      rw [List.forM_cons, EStateM.run_bind, ended]
      exact succeeded

def ended : EStateM.Result SettingFault HiddenField Unit → Check × Option SettingFault
  | .ok _ after => (.hiddenField after, none)
  | .error fault after => (.hiddenField after, some fault)

theorem ended_eq_some_iff {result : EStateM.Result SettingFault HiddenField Unit} {after : Check}
    {fault : SettingFault} :
    ended result = (after, some fault) ↔
      ∃ left, after = .hiddenField left ∧ result = .error fault left := by
  cases result with
  | ok _ left => exact ⟨nofun, fun failed => nomatch failed.choose_spec.2⟩
  | error found left =>
    constructor
    · intro same
      cases same
      exact ⟨left, rfl, rfl⟩
    · intro failed
      rcases failed with ⟨_, rfl, same⟩
      cases same
      rfl

/-- Configuring in place comes to what configuring comes to. -/
theorem ended_configure (properties : List (String × Value)) (check : HiddenField) :
    ended ((configure properties).run check) =
      (((Check.hiddenField check).configure properties).check,
        ((Check.hiddenField check).configure properties).fault) := by
  induction properties generalizing check with
  | nil => rfl
  | cons entry rest induction =>
    rw [configure, List.forM_cons, EStateM.run_bind, run_setEntry]
    cases meant : Setting.ofEntry check.core.profile entry with
    | error fault =>
      rcases configure_of_offence meant rest with ⟨left, failed⟩
      rw [left, failed]
      rfl
    | ok setting =>
      have each : List.Forall₂ (Setting.IsMeantBy check.core.profile) [entry] [setting] :=
        .cons (Setting.isMeantBy_iff.mpr meant) .nil
      rcases configure_append each rest with ⟨sameCheck, sameFault⟩
      rw [List.singleton_append] at sameCheck sameFault
      rw [sameCheck, sameFault]
      exact induction (check.put setting)

end InPlace

/-! ## Calls of setters -/

/-- A call of one setter: with kinds or what should be their names, with a severity, or
with a value that is first converted as the one for a property is. -/
inductive SetterCall where
  | tokens (specs : List KindSpec)
  | level (severity : Severity)
  | converted (property : Property) (given : Value)

namespace SetterCall

def program : SetterCall → InPlace Unit
  | tokens specs => .setTokens specs
  | level severity => modify (·.put (.severity severity))
  | converted property given => .setProperty property given

/-- What the functions that answer a changed check answer to the same call. -/
inductive IsAnswered (check : HiddenField) : SetterCall → Except SettingFault Check → Prop
  | names (names : List String) :
    IsAnswered check (.tokens (names.map fun name => .value (.text name)))
      (((Check.hiddenField check).setKindNames names).mapError .refused)
  | kinds (kinds : List Kind) :
    IsAnswered check (.tokens (kinds.map .kind))
      (((Check.hiddenField check).setKinds kinds).mapError .refused)
  | level (severity : Severity) :
    IsAnswered check (.level severity) (.ok ((Check.hiddenField check).setSeverity severity))
  | format (pattern : String) :
    IsAnswered check (.converted .ignoreFormat (.text pattern))
      ((check.setIgnoreFormat pattern).map .hiddenField)
  | converted (property : Property) (given : Value) :
    IsAnswered check (.converted property given) ((Check.hiddenField check).set property given)

def settled (check : HiddenField) : Except SettingFault Check → Check × Option SettingFault
  | .ok changed => (changed, none)
  | .error fault => (.hiddenField check, some fault)

def meaning (core : Core) : SetterCall → Except SettingFault Setting
  | tokens specs =>
    (specs.mapM (KindSpec.accepted core)).map fun kinds => .tokens (some (.ofList kinds))
  | level severity => .ok (.severity severity)
  | converted property given => Setting.ofValue core.profile property given

theorem run_program (call : SetterCall) (check : HiddenField) :
    call.program.run check = InPlace.endOf check (call.meaning check.core) := by
  cases call with
  | tokens specs => exact InPlace.run_setTokens specs check
  | level severity => rfl
  | converted property given => exact InPlace.run_setProperty property given check

variable {check : HiddenField} {call : SetterCall} {answer : Except SettingFault Check}

theorem IsAnswered.eq (answered : call.IsAnswered check answer) :
    answer = (call.meaning check.core).map fun setting => .hiddenField (check.put setting) := by
  cases answered with
  | names names =>
    rw [meaning, InPlace.mapM_accepted_names]
    change ((check.core.restrictToNames names).map _).mapError _ = _
    rw [Core.restrictToNames_eq]
    cases names.mapM check.core.profile.kindNamed <;> rfl
  | kinds kinds =>
    rw [meaning, InPlace.mapM_accepted_kinds]
    change ((kinds.mapM check.core.acceptedKind >>= _).map _).mapError _ = _
    cases kinds.mapM check.core.acceptedKind <;> rfl
  | level severity => rfl
  | format pattern => exact set_eq check .ignoreFormat (.text pattern)
  | converted property given => exact set_eq check property given

theorem ended_program (answered : call.IsAnswered check answer) :
    InPlace.ended (call.program.run check) = settled check answer := by
  rw [run_program, answered.eq]
  cases call.meaning check.core <;> rfl

theorem isVariantOf_ended (call : SetterCall) (check : HiddenField) :
    Check.IsVariantOf check (InPlace.ended (call.program.run check)).1 := by
  rw [run_program]
  cases call.meaning check.core with
  | error fault => exact Check.isVariantOf_self check
  | ok setting => exact ⟨_, rfl, isVariantOf_put check setting⟩

end SetterCall

/-! ## What a failure leaves -/

theorem exists_of_configure_error {check after : HiddenField}
    {properties : List (String × Value)} {fault : SettingFault}
    (failed : (InPlace.configure properties).run check = .error fault after) :
    ∃ before entry rest, properties = before ++ entry :: rest ∧
      (InPlace.configure before).run check = .ok () after ∧
      (InPlace.configure [entry]).run after = .error fault after := by
  rcases InPlace.exists_of_forM_error failed with
    ⟨before, entry, rest, middle, split, succeeded, stopped⟩
  have same : after = middle := by
    rw [InPlace.run_setEntry, InPlace.endOf_eq_error_iff] at stopped
    exact stopped.2
  subst same
  refine ⟨before, entry, rest, split, succeeded, ?_⟩
  rw [InPlace.configure, List.forM_cons, EStateM.run_bind, stopped]

/-- What a failure leaves. If configuring fails at some entry, the check that is left is the
one that the entries before it lead to by themselves, which do not fail. A single call of a
setter that fails leaves the check as it was. Neither changes, whether it fails or not, the
scopes, the findings or the file. All this is so for the programs that work in place, and
these come to what the functions that answer a changed check come to. -/
theorem failure_leaves_start (check : HiddenField) :
    (∀ properties fault, ((Check.hiddenField check).configure properties).fault = some fault →
      ∃ before entry rest, properties = before ++ entry :: rest ∧
        let start := (Check.hiddenField check).configure before
        start.fault = none ∧
          ((Check.hiddenField check).configure properties).check = start.check ∧
          (start.check.configure [entry]).fault = some fault) ∧
    (∀ properties,
      let configured := (Check.hiddenField check).configure properties
      InPlace.ended ((InPlace.configure properties).run check) =
          (configured.check, configured.fault) ∧
        Check.IsVariantOf check configured.check) ∧
    ∀ call : SetterCall,
      (∀ fault after, call.program.run check = .error fault after → after = check) ∧
        (∀ answer, call.IsAnswered check answer →
          InPlace.ended (call.program.run check) = SetterCall.settled check answer) ∧
        Check.IsVariantOf check (InPlace.ended (call.program.run check)).1 := by
  refine ⟨?_, ?_, ?_⟩
  · intro properties fault failed
    have ended := InPlace.ended_configure properties check
    rw [failed, InPlace.ended_eq_some_iff] at ended
    rcases ended with ⟨after, left, ran⟩
    rcases exists_of_configure_error ran with ⟨before, entry, rest, split, succeeded, stopped⟩
    have start := InPlace.ended_configure before check
    have stop := InPlace.ended_configure [entry] after
    rw [succeeded] at start
    rw [stopped] at stop
    rcases Prod.mk.inj start with ⟨startCheck, succeeds⟩
    rcases Prod.mk.inj stop with ⟨-, fails⟩
    exact ⟨before, entry, rest, split, succeeds.symm, left.trans startCheck,
      startCheck ▸ fails.symm⟩
  · intro properties
    refine ⟨InPlace.ended_configure properties check, ?_⟩
    exact (Check.isVariantOf_kept check).configure (Check.isVariantOf_self check) properties
  · intro call
    refine ⟨?_, fun answer => SetterCall.ended_program, call.isVariantOf_ended check⟩
    intro fault after failed
    rw [SetterCall.run_program, InPlace.endOf_eq_error_iff] at failed
    exact failed.2

def classesAfterPattern : List (String × Value) :=
  [("ignoreFormat", .text "^tmp"), ("tokens", .text "VARIABLE_DEF, CLASS_DEF"),
    ("ignoreSetter", .bool true)]

theorem kinds_refused_after_pattern :
    (∃ before entry rest, classesAfterPattern = before ++ entry :: rest ∧
      ((Check.hiddenField .initial).configure before).fault = none ∧
      ((Check.hiddenField .initial).configure classesAfterPattern).fault ≠ none ∧
      ((Check.hiddenField .initial).configure classesAfterPattern).check =
        ((Check.hiddenField .initial).configure before).check) ∧
    ∃ fault, (SetterCall.tokens [.kind .variableDef, .value (.text "CLASS_DEF")]).program.run
      .initial = .error fault .initial := by
  rcases failure_leaves_start .initial with ⟨configuring, -, calling⟩
  constructor
  · cases failed : ((Check.hiddenField .initial).configure classesAfterPattern).fault with
    | none =>
      have fails : ((Check.hiddenField .initial).configure classesAfterPattern).fault.isSome =
          true := by
        decide +kernel
      rw [failed] at fails
      cases fails
    | some fault =>
      rcases configuring classesAfterPattern fault failed with
        ⟨before, entry, rest, split, succeeds, same, -⟩
      exact ⟨before, entry, rest, split, succeeds, Option.some_ne_none fault, same⟩
  · let call : SetterCall := .tokens [.kind .variableDef, .value (.text "CLASS_DEF")]
    have failed : ∃ fault after, call.program.run .initial = .error fault after := ⟨_, _, rfl⟩
    rcases failed with ⟨fault, after, failed⟩
    have unchanged := (calling call).1 fault after failed
    exact ⟨fault, unchanged ▸ failed⟩

end ShadowLint.HiddenField
