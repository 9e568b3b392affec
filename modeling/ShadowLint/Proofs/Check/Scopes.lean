import ShadowLint.Proofs.Check.Findings
import ShadowLint.Proofs.Check.History
import ShadowLint.Proofs.Walk.Place

/-!
The scopes throughout a walk. At every call to the check for hidden fields its stack
shows the classes around: one frame for each, from the outside in, with all the fields
that the class declares (`ScopeStack.Shows`). This holds where a walk begins, and a call
that does not fail keeps it on the way from node to node (`HiddenField.Stands.make`). So
no scope is left that was not entered, no node is given to the check that it does not
know, and no scope is open in the end (`HiddenField.scopes_throughout`).
-/

namespace ShadowLint

/-! ## What the stack shows -/

namespace ScopeStack

/-- The stack shows the classes among the ancestors: below everything the frame that
stands for what is outside of classes, and above it a frame for each class, the
outermost first, that names the position below its own. -/
structure Shows (scopes : ScopeStack) (ancestors : List Tree) : Prop where
  base : scopes.base = .outermost
  depth : scopes.depth = (ancestors.filter (·.kind = .classDef)).length
  frames : ∀ position type,
    (ancestors.filter (·.kind = .classDef)).reverse[position]? = some type →
      ∃ frame, scopes.frameAt? (position + 1) = some frame ∧ frame.parent = some position ∧
        (frame.isStatic = true ↔ type.IsStatic) ∧
        ∀ isStatic name, frame.holds isStatic name = true ↔ type.Declares isStatic name

theorem shows_within {ancestors : List Tree} (named : AllNamed ancestors) :
    (within ancestors).Shows ancestors := by
  refine ⟨base_within ancestors, depth_within ancestors, ?_⟩
  intro position type isAt
  have member : type ∈ ancestors.filter (·.kind = .classDef) :=
    List.mem_reverse.mp (List.mem_of_getElem? isAt)
  rcases List.mem_filter.mp member with ⟨inside, isClass⟩
  have fields := Tree.namedMembers_eq (named type inside (of_decide_eq_true isClass))
  refine ⟨.ofClass type position, ?_, FieldFrame.parent_ofClass .., ?_, ?_⟩
  · rw [frameAt?_eq, frames_within, List.getElem?_cons_succ, List.getElem?_mapIdx, isAt]
    rfl
  · rw [FieldFrame.isStatic_ofClass, Tree.isDeclaredStatic_iff]
  · intro isStatic name
    rw [FieldFrame.holds_ofClass, fields, Tree.Declares]

end ScopeStack

/-! ## What calls note -/

section notes

variable {name : String} {depth : Nat}

theorem Core.not_scopesOpen_report (core : Core) (label : Label) (key : String)
    (arguments : List Value) :
    Entry.scopesOpen name depth ∉ (core.report label key arguments).journal := by
  unfold report
  split <;> simp [Reached.refused]

theorem HiddenField.not_scopesOpen_processDeclaration (check : HiddenField) (site : Site) :
    Entry.scopesOpen name depth ∉ (check.processDeclaration site).journal := by
  rcases check.processDeclaration_cases site with passed | ⟨error, broken⟩ | ⟨ident, _, reported⟩
  · simp [passed, Reached.done]
  · simp [broken, Reached.refused]
  · rw [reported]
    exact check.core.not_scopesOpen_report _ _ _

theorem HiddenField.not_scopesOpen_leaveClass (check : HiddenField) :
    Entry.scopesOpen name depth ∉ check.leaveClass.journal := by
  unfold leaveClass
  split <;> simp [Reached.refused]

theorem Recorder.not_scopesOpen_visit (check : Recorder) (site : Site) :
    Entry.scopesOpen name depth ∉ (check.visit site).journal := by
  unfold visit
  dsimp only
  split
  · simp [Reached.done]
  · exact Core.not_scopesOpen_report _ _ _ _

theorem Check.not_scopesOpen_of_call (check : Check) (call : Call) :
    Entry.scopesOpen name depth ∉ (check.answer (.call call)).journal := by
  cases check with
  | hiddenField check =>
    cases call with
    | visit site =>
      simp only [answer, visit, Reached.map, HiddenField.visit]
      split
      · simp [HiddenField.enterClass_eq]
      · exact check.not_scopesOpen_processDeclaration site
      · exact check.not_scopesOpen_processDeclaration site
      · simp [Reached.refused]
    | leave site =>
      simp only [answer, leave, Reached.map, HiddenField.leave]
      split
      · exact check.not_scopesOpen_leaveClass
      · simp [Reached.done]
      · simp [Reached.done]
      · simp [Reached.refused]
  | recorder check =>
    cases call with
    | visit site => exact check.not_scopesOpen_visit site
    | leave site => simp [answer, leave, Reached.map, Recorder.leave, Reached.done]

end notes

/-! ## One call -/

namespace HiddenField

/-- The check is as it has to be where the given nodes are entered. -/
structure Stands (kinds : KindSet) (ancestors : List Tree) (check : HiddenField) : Prop where
  lawful : check.Lawful
  asks : check.core.registeredKinds = kinds
  inside : check.scopes = .within ancestors
  named : ScopeStack.AllNamed ancestors

/-- The fault of a call is that a node lacks a child, if there is one. -/
def LacksChild (fault : CheckFault) : Prop :=
  ∃ error, fault = .contract error ∧ error.code = .missingChild

theorem Stands.make {kinds : KindSet} {call : Call} {check : HiddenField}
    (stands : Stands kinds call.around check) :
    let reached := call.make (ifAsked kinds visit) (ifAsked kinds leave) check
    (reached.fault = none → Stands kinds call.beyond reached.state) ∧
      ∀ fault ∈ reached.fault, LacksChild fault := by
  have asks := stands.asks
  cases call with
  | visit site =>
    have outcome := visit_outcome stands.lawful stands.inside stands.named
    rw [asks] at outcome
    simp only [Call.make]
    generalize ifAsked kinds visit site check = reached at outcome
    cases outcome with
    | completed sound =>
      refine ⟨fun _ => ⟨stands.lawful.recorded _ _, asks, rfl, ?_⟩, by simp⟩
      exact allNamed_cons (sound site List.mem_cons_self) stands.named
    | stopped _ _ breaks => exact ⟨by rintro ⟨⟩, by rintro _ ⟨⟩; exact ⟨_, rfl, breaks.code_eq⟩⟩
  | leave site =>
    have outcome := leave_outcome stands.lawful stands.inside
    rw [asks] at outcome
    simp only [Call.make]
    generalize ifAsked kinds leave site check = reached at outcome
    cases outcome with
    | completed _ =>
      refine ⟨fun _ => ⟨stands.lawful.recorded _ _, asks, rfl, ?_⟩, by simp⟩
      exact fun ancestor member => stands.named ancestor (List.mem_cons_of_mem _ member)
    | stopped split _ _ => simp at split

/-! ## One check in a walk -/

def called (check : HiddenField) : Call → Reached HiddenField
  | .visit site => check.visit site
  | .leave site => check.leave site

theorem answer_call (check : HiddenField) (call : Call) :
    Check.answer (.hiddenField check) (.call call) = (check.called call).map .hiddenField := by
  cases call <;> rfl

theorem make_ifAsked (kinds : KindSet) (call : Call) (check : HiddenField) :
    call.make (ifAsked kinds visit) (ifAsked kinds leave) check =
      if kinds.has call.site.kind then check.called call else .done check := by
  cases call <;> rfl

def StandsAt (kinds : KindSet) (moment : Moment Check) : Prop :=
  ∃ check, moment.state = .hiddenField check ∧
    match moment.turn.callback with
    | .call call => kinds.has call.site.kind = true ∧ Stands kinds call.around check
    | .finish _ => Stands kinds [] check
    | _ => True

theorem Stands.walk {kinds : KindSet} {start final : List Tree} {calls : List Call}
    {check : HiddenField} (path : Path start calls final) (stands : Stands kinds start check)
    (place : Nat) :
    let turns := calls.flatMap (Crew.ownTurns place kinds)
    (∀ moment ∈ Check.alone.moments turns (.hiddenField check), StandsAt kinds moment) ∧
      ((Check.alone.run turns (.hiddenField check)).fault = none →
        ∃ after, (Check.alone.run turns (.hiddenField check)).state = .hiddenField after ∧
          Stands kinds final after) := by
  induction path generalizing check with
  | nil =>
    dsimp only
    rw [List.flatMap_nil, Crew.run]
    exact ⟨by simp [Crew.moments], fun _ => ⟨check, rfl, stands⟩⟩
  | @cons call rest final _ induction =>
    have step := stands.make
    rw [make_ifAsked] at step
    dsimp only
    rw [List.flatMap_cons, Crew.ownTurns]
    by_cases asks : kinds.has call.site.kind = true
    · rw [if_pos asks, List.singleton_append]
      rw [if_pos asks] at step
      have answers : Check.alone.answer ⟨place, .call call⟩ (.hiddenField check) =
          (check.called call).map .hiddenField := answer_call check call
      have faults : (Check.alone.answer ⟨place, .call call⟩ (.hiddenField check)).fault =
          (check.called call).fault := congrArg Reached.fault answers
      have here : StandsAt kinds ⟨.hiddenField check, ⟨place, .call call⟩⟩ :=
        ⟨check, rfl, asks, stands⟩
      cases failed : (check.called call).fault with
      | some fault =>
        have fails := faults.trans failed
        rw [Crew.moments_of_fault fails, Crew.run_of_fault fails, fails]
        exact ⟨by simpa using here, by rintro ⟨⟩⟩
      | none =>
        have succeeds := faults.trans failed
        rw [Crew.moments_of_success succeeds, Crew.run_of_success succeeds, answers]
        rcases induction (step.1 failed) with ⟨others, reaches⟩
        exact ⟨List.forall_mem_cons.mpr ⟨here, others⟩, reaches⟩
    · rw [if_neg asks, List.nil_append]
      rw [if_neg asks] at step
      exact induction (step.1 rfl)

theorem run_opening (check : HiddenField) (place : Nat) (root : Tree) (file : String) :
    Check.alone.run (Crew.opening root file [place]) (.hiddenField check) =
      .done (.hiddenField (check.prepared file)) :=
  Check.run_opening (.hiddenField check) place root file

theorem standsAt_opening (check : HiddenField) (kinds : KindSet) (place : Nat) (root : Tree)
    (file : String) :
    ∀ moment ∈ Check.alone.moments (Crew.opening root file [place]) (.hiddenField check),
      StandsAt kinds moment := by
  simp only [Crew.opening, List.flatMap_cons, List.flatMap_nil, List.append_nil, Crew.moments,
    Check.alone, Check.answer, Reached.done, List.mem_cons, List.not_mem_nil, or_false]
  rintro moment (rfl | rfl | rfl) <;> exact ⟨_, rfl, trivial⟩

theorem Lawful.walk {check : HiddenField} (lawful : check.Lawful) (place : Nat) (root : Tree)
    (file : String) :
    let script := Crew.ownScript place check.core.registeredKinds root file
    (∀ moment ∈ Check.alone.moments script (.hiddenField check),
        StandsAt check.core.registeredKinds moment) ∧
      ((Check.alone.run script (.hiddenField check)).fault = none →
        ∃ after, (Check.alone.run script (.hiddenField check)).state = .hiddenField after ∧
          after.scopes = .initial) := by
  have begun : Stands check.core.registeredKinds [] (check.prepared file) :=
    ⟨lawful.prepared file, rfl, rfl, by simp [ScopeStack.AllNamed]⟩
  have first := standsAt_opening check check.core.registeredKinds place root file
  have opened := run_opening check place root file
  rcases begun.walk (Path.callsUnder root []) place with ⟨walking, ends⟩
  dsimp only
  rw [Crew.ownScript, Crew.moments_append (by rw [opened]; rfl), Crew.run_append, opened,
    Reached.andThen_done, List.forall_mem_append]
  simp only [Reached.done, Tree.calls]
  generalize root.callsUnder [] = calls at walking ends
  cases failed : (Check.alone.run (calls.flatMap (Crew.ownTurns place check.core.registeredKinds))
      (.hiddenField (check.prepared file))).fault with
  | some fault =>
    rw [Crew.moments_append_of_fault failed, Crew.run_append, Reached.andThen_of_fault failed,
      failed]
    exact ⟨⟨first, walking⟩, by rintro ⟨⟩⟩
  | none =>
    rcases ends failed with ⟨after, reached, stands⟩
    rw [Crew.moments_append failed, Crew.run_append, Reached.andThen_of_success failed,
      List.forall_mem_append, reached]
    refine ⟨⟨first, walking, ?_⟩, fun _ => ⟨after, rfl, stands.inside⟩⟩
    intro moment member
    rw [List.mem_singleton.mp member]
    exact ⟨after, rfl, stands⟩

end HiddenField

/-! ## Faults and notes -/

/-- In a turn nothing fails but a search for a child that has to be there, or a template,
and it is not noted that scopes are open. -/
structure Quiet (moment : Moment Check) : Prop where
  lacksChild : ∀ error, (Check.alone.after moment).fault = some (.contract error) →
    error.code = .missingChild
  closed : ∀ name depth, Entry.scopesOpen name depth ∉ (Check.alone.after moment).journal

theorem HiddenField.StandsAt.quiet {kinds : KindSet} {moment : Moment Check}
    (standsAt : StandsAt kinds moment) : Quiet moment := by
  rcases moment with ⟨state, place, callback⟩
  rcases standsAt with ⟨check, rfl, stands⟩
  cases callback with
  | call call =>
    rcases stands with ⟨asks, stands⟩
    have answers : Check.alone.after ⟨.hiddenField check, ⟨place, .call call⟩⟩ =
        (check.called call).map .hiddenField := answer_call check call
    have step := stands.make.2
    rw [make_ifAsked, if_pos asks] at step
    refine ⟨fun error failed => ?_, fun name depth => Check.not_scopesOpen_of_call _ call⟩
    rw [answers] at failed
    rcases step _ failed with ⟨cause, same, code⟩
    rwa [CheckFault.contract.inj same]
  | finish root =>
    have closed : check.finishTree = #[] := by
      rw [finishTree, stands.inside]
      rfl
    have answers : Check.alone.after ⟨.hiddenField check, ⟨place, .finish root⟩⟩ =
        ⟨.hiddenField check, check.finishTree, none⟩ := rfl
    rw [closed] at answers
    exact ⟨by simp [answers], by simp [answers]⟩
  | clear | setFile | begin => exact ⟨by rintro _ ⟨⟩, fun _ _ => Array.not_mem_empty _⟩

theorem Core.not_contract_report (core : Core) (label : Label) (key : String)
    (arguments : List Value) (error : ContractError) :
    (core.report label key arguments).fault ≠ some (.contract error) := by
  unfold report
  split <;> simp [Reached.refused]

namespace Recorder

theorem visit_not_contract (check : Recorder) (site : Site) (error : ContractError) :
    (check.visit site).fault ≠ some (.contract error) := by
  unfold visit
  dsimp only
  split
  · simp [Reached.done]
  · exact Core.not_contract_report _ _ _ _ error

theorem quiet (check : Recorder) (turn : Turn) : Quiet ⟨.recorder check, turn⟩ := by
  rcases turn with ⟨place, callback⟩
  cases callback with
  | call call =>
    refine ⟨fun error failed => ?_, fun name depth => Check.not_scopesOpen_of_call _ call⟩
    cases call with
    | visit site => exact absurd failed (check.visit_not_contract site error)
    | leave site => cases failed
  | clear | setFile | begin | finish =>
    exact ⟨by rintro _ ⟨⟩, fun _ _ => Array.not_mem_empty _⟩

theorem quiet_of_moment (check : Recorder) {turns : List Turn} {moment : Moment Check}
    (taken : moment ∈ Check.alone.moments turns (.recorder check)) : Quiet moment := by
  have keeps (turn : Turn) (state : Check) (isRecorder : state.IsRecorder) :
      (Check.alone.answer turn state).state.IsRecorder := by
    rcases isRecorder with ⟨recorder, rfl⟩
    exact Check.answer_recorder recorder turn.callback
  rcases (Check.alone.run_keeps keeps ⟨check, rfl⟩).1 moment taken with ⟨recorder, same⟩
  rcases moment with ⟨state, turn⟩
  subst same
  exact recorder.quiet turn

end Recorder

/-! ## Whole walks -/

namespace HiddenField

theorem standsAt_of_moment {walker : Walker} {bench : Bench} {place : Nat}
    {check : HiddenField} (lawful : check.Lawful)
    (present : bench[place]? = some (.hiddenField check)) (once : walker.places.count place = 1)
    {root : Tree} {file : String} {moment : Moment Bench}
    (taken : moment ∈ Bench.crew.moments (walker.script bench root file) bench)
    (own : moment.turn.place = place) :
    ∃ reached, moment.state[place]? = some reached ∧
      StandsAt check.core.registeredKinds ⟨reached, moment.turn⟩ := by
  rcases Bench.own_of_moment present taken own with ⟨reached, found, inside⟩
  rw [Bench.turnsAt_script present once root file] at inside
  exact ⟨reached, found, (lawful.walk place root file).1 _ inside⟩

theorem not_scope_code {error : ContractError} (lacksChild : error.code = .missingChild) :
    error.code.identifier ≠ "HF-2002" ∧ error.code.identifier ≠ "HF-2003" := by
  rw [lacksChild]
  decide

/-- The check at a place is a recorder, or a check for hidden fields that was made,
configured and registered once. -/
def IsUsual (walker : Walker) (bench : Bench) (place : Nat) : Prop :=
  (∃ recorder, bench[place]? = some (.recorder recorder)) ∨
    ∃ check, IsConfigured check ∧ bench[place]? = some (.hiddenField check) ∧
      walker.places.count place = 1

section walks

variable {walker : Walker} {bench : Bench} {root : Tree} {file : String}

theorem IsUsual.quiet {moment : Moment Bench} (usual : IsUsual walker bench moment.turn.place)
    (taken : moment ∈ Bench.crew.moments (walker.script bench root file) bench) :
    ∃ reached, moment.state[moment.turn.place]? = some reached ∧ Quiet ⟨reached, moment.turn⟩ := by
  rcases usual with ⟨recorder, present⟩ | ⟨check, configured, present, once⟩
  · rcases Bench.own_of_moment present taken rfl with ⟨reached, found, inside⟩
    exact ⟨reached, found, recorder.quiet_of_moment inside⟩
  · rcases standsAt_of_moment configured.lawful present once taken rfl with
      ⟨reached, found, standsAt⟩
    exact ⟨reached, found, standsAt.quiet⟩

theorem quiet_of_usual (usual : ∀ place ∈ walker.places, IsUsual walker bench place) :
    (∀ error, (walker.process bench root file).outcome = .error (.contract error) →
      error.code = .missingChild) ∧
    ∀ name depth, Entry.scopesOpen name depth ∉ (walker.process bench root file).journal := by
  have quiet (moment : Moment Bench)
      (taken : moment ∈ Bench.crew.moments (walker.script bench root file) bench) :=
    (usual _ (Bench.crew.place_of_script (Bench.crew.turn_of_moment taken))).quiet taken
  constructor
  · intro error answered
    rw [Walker.outcome_process] at answered
    cases failed : (Bench.crew.run (walker.script bench root file) bench).fault with
    | none => simp [failed] at answered
    | some fault =>
      simp only [failed, Except.error.injEq] at answered
      subst answered
      rcases Bench.crew.turns_of_fault failed with ⟨earlier, last, later, taken, -, fails, -⟩
      rcases quiet last (by simp [taken]) with ⟨reached, found, quiet⟩
      exact quiet.lacksChild error ((Bench.after_own found).1 ▸ fails)
  · intro name depth noted
    rcases Walker.mem_journal_process noted with inRun | ⟨nodes, violations, other⟩
    · rcases Bench.crew.moment_of_entry inRun with ⟨moment, taken, inside⟩
      rcases quiet moment taken with ⟨reached, found, quiet⟩
      exact quiet.closed name depth ((Bench.after_own found).2 ▸ inside)
    · cases other

theorem closed_of_completed {place : Nat} {check : HiddenField} (lawful : check.Lawful)
    (present : bench[place]? = some (.hiddenField check)) (once : walker.places.count place = 1)
    {violations : List Violation}
    (completed : (walker.process bench root file).outcome = .ok violations) :
    ∃ after, (walker.process bench root file).bench[place]? = some (.hiddenField after) ∧
      after.scopes = .initial := by
  rw [Walker.outcome_process] at completed
  cases failed : (Bench.crew.run (walker.script bench root file) bench).fault with
  | some fault => simp [failed] at completed
  | none =>
    rcases Bench.own_of_run present failed with ⟨reached, succeeded⟩
    rw [Bench.turnsAt_script present once, ← Walker.bench_process] at reached
    rw [Bench.turnsAt_script present once] at succeeded
    rcases (lawful.walk place root file).2 succeeded with ⟨after, same, closed⟩
    exact ⟨after, reached.trans (congrArg some same), closed⟩

end walks

/-- Whenever it is the turn of a check for hidden fields that was made, configured and
registered once, its stack shows the classes around the node: those that enclose it,
and the node itself where it is left. -/
theorem scopes_throughout {walker : Walker} {bench : Bench} {place : Nat} {check : HiddenField}
    (configured : check.IsConfigured) (present : bench[place]? = some (.hiddenField check))
    (once : walker.places.count place = 1) (root : Tree) (file : String) :
    let walk := walker.process bench root file
    let noted := Bench.crew.noting.process walker.places root file (bench, [])
    let taken : List (Moment Bench) := noted.state.2
    walk = Walker.ofCourse file ⟨noted.state.1, noted.journal, noted.answered⟩ ∧
    (∀ moment ∈ taken, moment.turn.place = place →
      (∀ call, moment.turn.callback = .call call → ∃ hider,
        moment.state[place]? = some (.hiddenField hider) ∧ hider.scopes.Shows call.around) ∧
      (∀ error, (Bench.crew.after moment).fault = some (.contract error) →
        error.code.identifier ≠ "HF-2002" ∧ error.code.identifier ≠ "HF-2003") ∧
      ∀ name depth, Entry.scopesOpen name depth ∉ (Bench.crew.after moment).journal) ∧
    (∀ violations, walk.outcome = .ok violations → ∃ hider,
      walk.bench[place]? = some (.hiddenField hider) ∧ hider.scopes.depth = 0) ∧
    ((∀ other ∈ walker.places, IsUsual walker bench other) →
      (∀ error, walk.outcome = .error (.contract error) →
        error.code.identifier ≠ "HF-2002" ∧ error.code.identifier ≠ "HF-2003") ∧
      ∀ name depth, Entry.scopesOpen name depth ∉ walk.journal) := by
  intro walk noted taken
  have lawful := configured.lawful
  have erased := Bench.crew.process_noting walker.places root file bench
  have made : taken = Bench.crew.moments (walker.script bench root file) bench := by
    dsimp only [taken, noted]
    rw [erased]
    rfl
  refine ⟨?_, ?_, ?_, ?_⟩
  · dsimp only [walk, noted]
    rw [erased]
    exact walker.process_eq_course root file bench
  · intro moment member own
    rw [made] at member
    rcases standsAt_of_moment lawful present once member own with ⟨state, found, standsAt⟩
    have quiet := standsAt.quiet
    have same := Bench.after_own (own.symm ▸ found)
    rw [same.1, same.2]
    refine ⟨?_, fun error failed => not_scope_code (quiet.lacksChild error failed), quiet.closed⟩
    intro call isCall
    rcases standsAt with ⟨hider, rfl, stands⟩
    simp only [isCall] at stands
    exact ⟨hider, found, stands.2.inside ▸ ScopeStack.shows_within stands.2.named⟩
  · intro violations completed
    rcases closed_of_completed lawful present once completed with ⟨after, found, closed⟩
    exact ⟨after, found, closed ▸ ScopeStack.depth_initial⟩
  · intro usual
    rcases quiet_of_usual usual with ⟨lacksChild, closed⟩
    exact ⟨fun error failed => not_scope_code (lacksChild error failed), closed⟩

/-- A check cannot be restricted to classes, so only the second call counts. -/
theorem ignoringSetters_isConfigured : ignoringSetters.IsConfigured :=
  ⟨[.kinds [.classDef], .ignoreSetter true], rfl⟩

def isDeepCall (moment : Moment Bench) : Bool :=
  match moment.turn.callback with
  | .call call => (call.around.filter (·.kind = .classDef)).length == 2
  | _ => false

theorem nestedClasses_shown :
    ignoringSetters.IsConfigured ∧
    let noted := Bench.crew.noting.process [0] nestedClasses "Nested.java"
      (.only ignoringSetters, [])
    ∃ moment ∈ noted.state.2, ∃ call hider, moment.turn.callback = .call call ∧
      moment.state[0]? = some (.hiddenField hider) ∧ hider.scopes.Shows call.around ∧
      hider.scopes.depth = 2 := by
  have deep : (Bench.crew.noting.process [0] nestedClasses "Nested.java"
      (.only ignoringSetters, [])).state.2.any
        (fun moment => decide (moment.turn.place = 0) && isDeepCall moment) = true := by
    with_unfolding_all rfl
  have shown := (@scopes_throughout ⟨[0]⟩ (.only ignoringSetters) 0 ignoringSetters
    ignoringSetters_isConfigured rfl rfl nestedClasses "Nested.java").2.1
  refine ⟨ignoringSetters_isConfigured, ?_⟩
  rcases List.any_eq_true.mp deep with ⟨moment, taken, isDeep⟩
  rcases Bool.and_eq_true_iff.mp isDeep with ⟨own, isDeep⟩
  refine ⟨moment, taken, ?_⟩
  unfold isDeepCall at isDeep
  split at isDeep
  · rename_i call isCall
    rcases (shown moment taken (of_decide_eq_true own)).1 call isCall with ⟨hider, found, shows⟩
    exact ⟨call, hider, isCall, found, shows, shows.depth.trans (eq_of_beq isDeep)⟩
  · cases isDeep

end HiddenField

end ShadowLint
