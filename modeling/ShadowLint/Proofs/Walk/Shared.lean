import Mathlib.Data.List.Nodup
import ShadowLint.Proofs.Walk.Place

/-!
Checks that share a walker. The calls of all checks are made node by node, and yet each
check comes to what it comes to when it is walked alone. A walk fails with the failure
that is met first: the one at the earliest call, and of those at one call the one of the
check that was registered first (`Walker.process_splits`).
-/

namespace ShadowLint

namespace Crew

variable {State : Type} (crew : Crew State)

variable {crew} in
theorem success_of_append {first second : List Turn} {state : State}
    (succeeded : (crew.run (first ++ second) state).fault = none) :
    (crew.run first state).fault = none ∧
      (crew.run second (crew.run first state).state).fault = none := by
  rw [run_append] at succeeded
  cases first : (crew.run first state).fault with
  | some fault =>
    rw [Reached.andThen_of_fault first, first] at succeeded
    cases succeeded
  | none =>
    rw [Reached.andThen_of_success first] at succeeded
    exact ⟨rfl, succeeded⟩

theorem run_flatMap_fault_iff {Item : Type} (turns : Item → List Turn) (items : List Item)
    (state : State) (fault : CheckFault) :
    (crew.run (items.flatMap turns) state).fault = some fault ↔
      ∃ number item, items[number]? = some item ∧
        let before := crew.run ((items.take number).flatMap turns) state
        before.fault = none ∧ (crew.run (turns item) before.state).fault = some fault := by
  induction items generalizing state with
  | nil => simp [run, Reached.done]
  | cons item rest induction =>
    rw [List.flatMap_cons, run_append]
    cases first : (crew.run (turns item) state).fault with
    | some cause =>
      rw [Reached.andThen_of_fault first, first]
      constructor
      · intro same
        cases same
        exact ⟨0, item, rfl, rfl, first⟩
      · intro firstFailure
        rcases firstFailure with ⟨number, other, found, succeeded, fails⟩
        cases number with
        | zero =>
          cases found
          exact first.symm.trans fails
        | succ number =>
          rw [List.take_succ_cons, List.flatMap_cons] at succeeded
          cases first.symm.trans (success_of_append succeeded).1
    | none =>
      have step (number : Nat) :
          crew.run (((item :: rest).take (number + 1)).flatMap turns) state =
            (crew.run ((rest.take number).flatMap turns)
              (crew.run (turns item) state).state).notedAfter
                (crew.run (turns item) state).journal := by
        rw [List.take_succ_cons, List.flatMap_cons, run_append, Reached.andThen_of_success first]
      rw [Reached.andThen_of_success first]
      refine (induction _).trans ⟨?_, ?_⟩
      · intro firstFailure
        rcases firstFailure with ⟨number, other, found, succeeded, fails⟩
        refine ⟨number + 1, other, found, ?_⟩
        rw [step]
        exact ⟨succeeded, fails⟩
      · intro firstFailure
        rcases firstFailure with ⟨number, other, found, reached⟩
        cases number with
        | zero =>
          cases found
          cases first.symm.trans reached.2
        | succ number =>
          rw [step] at reached
          exact ⟨number, other, found, reached⟩

theorem turnsAt_take {turnsFor : Nat → List Turn} {place : Nat} {places : List Nat}
    (own : ∀ other, ∀ turn ∈ turnsFor other, turn.place = other) (distinct : places.Nodup)
    (member : place ∈ places) (count : Nat) :
    turnsAt place ((places.take count).flatMap turnsFor) =
      if places.idxOf place < count then turnsFor place else [] := by
  split
  · rename_i isFirst
    have inside : place ∈ places.take count := (List.mem_take_iff_idxOf_lt member).mpr isFirst
    exact turnsAt_flatMap own
      (List.count_eq_one_of_mem (distinct.sublist (List.take_sublist _ _)) inside)
  · rename_i isLater
    exact turnsAt_flatMap_absent own fun inside =>
      isLater ((List.mem_take_iff_idxOf_lt member).mp inside)

end Crew

def Walker.walked (walker : Walker) (bench : Bench) (root : Tree) (file : String) : Reached Bench :=
  Bench.crew.run (Crew.walking (Bench.crew.requests walker.places bench) [] root)
    (walker.prepareAll root file bench)

namespace Bench

/-- Walked alone, the check at the place fails at the call with this number: it is made
ready, the calls before that it asks for are made without a failure, and this one fails. -/
def FailsAt (bench : Bench) (place : Nat) (root : Tree) (file : String) (number : Nat)
    (fault : CheckFault) : Prop :=
  ∃ check call, bench[place]? = some check ∧ root.calls[number]? = some call ∧
    let turns := Crew.ownTurns place check.core.registeredKinds
    let before := Check.alone.run ((root.calls.take number).flatMap turns)
      (check.prepare root file)
    before.fault = none ∧ (Check.alone.run (turns call) before.state).fault = some fault

section alone

variable {bench : Bench} {place : Nat} {check : Check} {root : Tree} {file : String}

theorem FailsAt.le_of_success {number count : Nat} {fault : CheckFault}
    (fails : bench.FailsAt place root file number fault) (present : bench[place]? = some check)
    (succeeded : (Check.alone.run ((root.calls.take count).flatMap
      (Crew.ownTurns place check.core.registeredKinds)) (check.prepare root file)).fault = none) :
    count ≤ number := by
  rcases fails with ⟨same, call, found, called, before, fails⟩
  cases present.symm.trans found
  by_contra inside
  have earlier : number < count := Nat.lt_of_not_le inside
  have failed := (Check.alone.run_flatMap_fault_iff
    (Crew.ownTurns place check.core.registeredKinds) (root.calls.take count)
    (check.prepare root file) fault).mpr ⟨number, call, by
      rw [List.getElem?_take_of_lt earlier, called], by
      rw [List.take_take, Nat.min_eq_left (Nat.le_of_lt earlier)]
      exact ⟨before, fails⟩⟩
  cases succeeded.symm.trans failed

theorem FailsAt.unique {number other : Nat} {fault cause : CheckFault}
    (first : bench.FailsAt place root file number fault)
    (second : bench.FailsAt place root file other cause) : number = other ∧ fault = cause := by
  have firstOnly := first
  have secondOnly := second
  rcases first with ⟨check, call, present, called, before, fails⟩
  rcases second with ⟨same, otherCall, found, otherCalled, otherBefore, otherFails⟩
  cases present.symm.trans found
  have equal : number = other :=
    Nat.le_antisymm (secondOnly.le_of_success present before)
      (firstOnly.le_of_success present otherBefore)
  subst equal
  cases called.symm.trans otherCalled
  exact ⟨rfl, Option.some.inj (fails.symm.trans otherFails)⟩

end alone

/-! ## The shared walk -/

section shared

variable {walker : Walker} {bench : Bench} {place : Nat} {check : Check} {root : Tree}
  {file : String}

theorem prepareAll_once (present : bench[place]? = some check)
    (once : walker.places.count place = 1) (root : Tree) (file : String) :
    (walker.prepareAll root file bench)[place]? = some (check.prepare root file) := by
  have opens : (crew.run (Crew.opening root file walker.places) bench).fault = none := by
    rw [run_opening]
    rfl
  have opened := (own_of_run present opens).1
  rwa [run_opening, Crew.turnsAt_opening once, Check.run_opening] at opened

theorem own_of_calls (present : bench[place]? = some check)
    (once : walker.places.count place = 1) {calls : List Call}
    (succeeded : (crew.run (calls.flatMap (Crew.turnsOf (crew.requests walker.places bench)))
      (walker.prepareAll root file bench)).fault = none) :
    let own := Check.alone.run (calls.flatMap (Crew.ownTurns place check.core.registeredKinds))
      (check.prepare root file)
    (crew.run (calls.flatMap (Crew.turnsOf (crew.requests walker.places bench)))
        (walker.prepareAll root file bench)).state[place]? = some own.state ∧ own.fault = none := by
  have reached := own_of_run (prepareAll_once present once root file) succeeded
  rwa [turnsAt_turnsOf present once] at reached

theorem run_ownTurns_own (kinds : KindSet) (call : Call) {state : Bench}
    (present : state[place]? = some check) :
    (crew.run (Crew.ownTurns place kinds call) state).fault =
      (Check.alone.run (Crew.ownTurns place kinds call) check).fault := by
  rw [Crew.ownTurns]
  split
  · rw [Crew.run_cons, Crew.run_cons]
    exact (congrArg Reached.fault (Reached.andThen_done_right _)).trans
      ((answer_own present rfl).2.trans
        (congrArg Reached.fault (Reached.andThen_done_right _)).symm)
  · rfl

theorem present_of_fault {call : Call} {state : Bench} {fault : CheckFault}
    (failed : (crew.run (Crew.ownTurns place (crew.registered bench place) call) state).fault =
      some fault) : ∃ check, bench[place]? = some check := by
  cases found : bench[place]? with
  | some check => exact ⟨check, rfl⟩
  | none =>
    simp [crew, found, Crew.ownTurns, KindSet.empty, Crew.run, Reached.done] at failed

/-- The check at the place, walked alone, fails at the call with this number, and among
the checks of the walker there is no earlier failure: none at an earlier call, and at the
same call none of a check that was registered before. -/
def FailsFirst (walker : Walker) (bench : Bench) (root : Tree) (file : String)
    (place number : Nat) (fault : CheckFault) : Prop :=
  bench.FailsAt place root file number fault ∧
    ∀ other ∈ walker.places, ∀ otherNumber cause, bench.FailsAt other root file otherNumber cause →
      number < otherNumber ∨
        number = otherNumber ∧ walker.places.idxOf place ≤ walker.places.idxOf other

theorem failsFirst_of_walked (distinct : walker.places.Nodup) {fault : CheckFault}
    (failed : (walker.walked bench root file).fault = some fault) :
    ∃ place ∈ walker.places, ∃ number, bench.FailsFirst walker root file place number fault := by
  have once {place : Nat} (member : place ∈ walker.places) : walker.places.count place = 1 :=
    List.count_eq_one_of_mem distinct member
  -- The call that fails, and at that call the check that fails.
  rcases (crew.run_flatMap_fault_iff _ _ _ fault).mp failed with
    ⟨number, call, called, earlierCalls, fails⟩
  rw [turnsOf_requests] at fails
  rcases (crew.run_flatMap_fault_iff _ _ _ fault).mp fails with
    ⟨index, place, isAt, earlierChecks, fails⟩
  have member : place ∈ walker.places := List.mem_of_getElem? isAt
  rcases present_of_fault fails with ⟨check, present⟩
  have asks : crew.registered bench place = check.core.registeredKinds := by
    simp [crew, present]
  have position : walker.places.idxOf place = index := by
    rcases List.getElem?_eq_some_iff.mp isAt with ⟨inside, rfl⟩
    exact distinct.idxOf_getElem index inside
  have turnsBefore {other : Nat} (inside : other ∈ walker.places) :=
    @Crew.turnsAt_take (fun place => Crew.ownTurns place (crew.registered bench place) call) other
      walker.places (fun _ _ => Crew.place_of_ownTurns) distinct inside index
  rcases own_of_calls present (once member) earlierCalls with ⟨reached, before⟩
  have here := (own_of_run reached earlierChecks).1
  rw [turnsBefore member, if_neg (by omega)] at here
  rw [run_ownTurns_own _ _ here, asks] at fails
  refine ⟨place, member, number, ⟨check, call, present, called, before, fails⟩, ?_⟩
  intro other inside otherNumber cause failsToo
  rcases failsToo with ⟨otherCheck, otherCall, otherPresent, otherCalled, otherBefore, otherFails⟩
  have otherAsks : crew.registered bench other = otherCheck.core.registeredKinds := by
    simp [crew, otherPresent]
  rcases own_of_calls otherPresent (once inside) earlierCalls with ⟨otherReached, succeeded⟩
  have notEarlier : number ≤ otherNumber :=
    FailsAt.le_of_success ⟨_, _, otherPresent, otherCalled, otherBefore, otherFails⟩ otherPresent
      succeeded
  rcases Nat.lt_or_eq_of_le notEarlier with later | same
  · exact .inl later
  · refine .inr ⟨same, ?_⟩
    by_contra registeredBefore
    subst same
    cases called.symm.trans otherCalled
    have answered := (own_of_run otherReached earlierChecks).2
    rw [turnsBefore inside, if_pos (by omega), otherAsks] at answered
    cases answered.symm.trans otherFails

theorem not_failsAt_of_walked (distinct : walker.places.Nodup)
    (succeeded : (walker.walked bench root file).fault = none)
    (member : place ∈ walker.places) (number : Nat) (fault : CheckFault) :
    ¬ bench.FailsAt place root file number fault := by
  intro fails
  have failsToo := fails
  rcases failsToo with ⟨check, call, present, called, -⟩
  have answered := (own_of_calls present (List.count_eq_one_of_mem distinct member) succeeded).2
  rw [← Tree.calls, ← @List.take_length _ root.calls] at answered
  have outside : root.calls.length ≤ number := fails.le_of_success present answered
  rw [List.getElem?_eq_none outside] at called
  cases called

theorem walked_fault_iff (distinct : walker.places.Nodup) (fault : CheckFault) :
    (walker.walked bench root file).fault = some fault ↔
      ∃ place ∈ walker.places, ∃ number, bench.FailsFirst walker root file place number fault := by
  refine ⟨failsFirst_of_walked distinct, ?_⟩
  intro firstFails
  rcases firstFails with ⟨place, member, number, fails, first⟩
  cases walked : (walker.walked bench root file).fault with
  | none => exact absurd fails (not_failsAt_of_walked distinct walked member number fault)
  | some cause =>
    rcases failsFirst_of_walked distinct walked with
      ⟨other, inside, otherNumber, otherFails, otherFirst⟩
    have notLater := first other inside otherNumber cause otherFails
    have notEarlier := otherFirst place member number fault fails
    have samePlace : place = other := (List.idxOf_inj member).mp (by omega)
    subst samePlace
    rw [(fails.unique otherFails).2]

/-! ## What is left of the checks -/

def aloneAfter (bench : Bench) (root : Tree) (file : String) (place : Nat) : Option Check :=
  bench[place]?.map fun check =>
    let turns := root.calls.flatMap (Crew.ownTurns place check.core.registeredKinds)
    ((Check.alone.run turns (check.prepare root file)).state.finishTree root).1

theorem absent_run (absent : bench[place]? = none) (turns : List Turn) :
    (crew.run turns bench).state[place]? = none := by
  have keeps (turn : Turn) (state : Bench) (absent : state[place]? = none) :
      (crew.answer turn state).state[place]? = none := by
    by_cases own : turn.place = place
    · subst own
      rw [answer_absent absent]
      exact absent
    · exact (answer_other own state).trans absent
  exact (crew.run_keeps keeps absent).2

def finishedAt (bench : Bench) (root : Tree) (place : Nat) : Option Check :=
  bench[place]?.map fun check => (check.finishTree root).1

def foundBy (check : Option Check) : List Violation :=
  (check.map fun check => check.core.violations.toList).getD []

theorem finishAll_cons (root : Tree) (first : Nat) (rest : List Nat) (bench : Bench) :
    ∃ next : Bench, next[first]? = bench.finishedAt root first ∧
      (∀ other, first ≠ other → next[other]? = bench[other]?) ∧
      (Walker.finishAll root (first :: rest) bench).1 = (Walker.finishAll root rest next).1 ∧
      (Walker.finishAll root (first :: rest) bench).2.2 =
        foundBy (bench.finishedAt root first) ++ (Walker.finishAll root rest next).2.2 := by
  rw [Walker.finishAll]
  cases found : bench[first]? with
  | none => exact ⟨bench, by simp [finishedAt, found], fun _ _ => rfl, rfl, by
      simp [finishedAt, foundBy, found]⟩
  | some check =>
    refine ⟨bench.set! first (check.finishTree root).1, ?_, ?_, rfl, ?_⟩
    · rw [getElem?_set_self found]
      simp [finishedAt, found]
    · intro other different
      rw [Array.set!_eq_setIfInBounds, Array.getElem?_setIfInBounds_ne different]
    · simp [finishedAt, foundBy, found]

theorem finishAll_of_nodup (root : Tree) {places : List Nat} (distinct : places.Nodup)
    (bench : Bench) :
    (Walker.finishAll root places bench).2.2 =
        places.flatMap (fun place => foundBy (bench.finishedAt root place)) ∧
      ∀ place, (Walker.finishAll root places bench).1[place]? =
        if place ∈ places then bench.finishedAt root place else bench[place]? := by
  induction places generalizing bench with
  | nil => exact ⟨rfl, fun place => rfl⟩
  | cons first rest induction =>
    rcases List.nodup_cons.mp distinct with ⟨outside, distinctRest⟩
    rcases finishAll_cons root first rest bench with ⟨next, own, others, final, found⟩
    rcases induction distinctRest next with ⟨foundRest, finalRest⟩
    have same {place : Nat} (member : place ∈ rest) :
        next.finishedAt root place = bench.finishedAt root place := by
      rw [finishedAt, finishedAt, others place fun equal => outside (equal ▸ member)]
    rw [found, final, foundRest, List.flatMap_cons]
    refine ⟨congrArg _ (List.flatMap_congr fun place member => by rw [same member]), ?_⟩
    intro place
    rw [finalRest]
    by_cases member : place ∈ rest
    · rw [if_pos member, if_pos (List.mem_cons_of_mem _ member), same member]
    · rw [if_neg member]
      by_cases here : first = place
      · rw [if_pos (here ▸ List.mem_cons_self), ← here, own]
      · rw [if_neg (by simp [member, Ne.symm here]), others place here]

end shared

end Bench

namespace Walker

variable {walker : Walker} {bench : Bench} {root : Tree} {file : String}

theorem process_of_fault {fault : CheckFault}
    (failed : (walker.walked bench root file).fault = some fault) :
    (walker.process bench root file).outcome = .error fault := by
  rw [process]
  dsimp only
  rw [traverse_prepareAll, Crew.traverse_reached, ← walked, failed]

theorem process_of_walked (succeeded : (walker.walked bench root file).fault = none) :
    let finished := finishAll root walker.places (walker.walked bench root file).state
    (walker.process bench root file).outcome = .ok finished.2.2 ∧
      (walker.process bench root file).bench = finished.1 := by
  dsimp only
  rw [process]
  dsimp only
  rw [traverse_prepareAll, Crew.traverse_reached, ← walked, succeeded]
  exact ⟨rfl, rfl⟩

theorem outcome_error_iff (fault : CheckFault) :
    (walker.process bench root file).outcome = .error fault ↔
      (walker.walked bench root file).fault = some fault := by
  cases walks : (walker.walked bench root file).fault with
  | some cause => simp [process_of_fault walks]
  | none => simp [(process_of_walked walks).1]

theorem process_of_success (distinct : walker.places.Nodup)
    (succeeded : (walker.walked bench root file).fault = none) :
    (walker.process bench root file).outcome =
        .ok (walker.places.flatMap fun place => Bench.foundBy (bench.aloneAfter root file place)) ∧
      ∀ place ∈ walker.places,
        (walker.process bench root file).bench[place]? = bench.aloneAfter root file place := by
  have own {place : Nat} (member : place ∈ walker.places) :
      (walker.walked bench root file).state.finishedAt root place =
        bench.aloneAfter root file place := by
    rw [Bench.finishedAt, Bench.aloneAfter]
    cases found : bench[place]? with
    | some check =>
      have once := List.count_eq_one_of_mem distinct member
      have reached := (Bench.own_of_calls found once succeeded).1
      rw [← Tree.calls] at reached
      rw [walked, Crew.walking, ← Tree.calls, reached]
      rfl
    | none =>
      have opened := Bench.absent_run found (Crew.opening root file walker.places)
      rw [Bench.run_opening, Reached.done] at opened
      rw [walked, Bench.absent_run opened]
      rfl
  rcases process_of_walked succeeded with ⟨outcome, final⟩
  rcases Bench.finishAll_of_nodup root distinct (walker.walked bench root file).state with
    ⟨found, finished⟩
  rw [outcome, final, found]
  refine ⟨congrArg _ (List.flatMap_congr fun place member => by rw [own member]), ?_⟩
  intro place member
  rw [finished, if_pos member, own member]

/-! ## A single check -/

theorem single_fails_iff (bench : Bench) (root : Tree) (file : String) (place : Nat)
    (fault : CheckFault) :
    ((⟨[place]⟩ : Walker).process bench root file).outcome = .error fault ↔
      ∃ number, bench.FailsAt place root file number fault := by
  rw [outcome_error_iff, Bench.walked_fault_iff (List.nodup_singleton place)]
  constructor
  · intro firstFails
    rcases firstFails with ⟨same, member, number, fails, -⟩
    rw [List.mem_singleton.mp member] at fails
    exact ⟨number, fails⟩
  · intro alone
    rcases alone with ⟨number, fails⟩
    refine ⟨place, List.mem_singleton_self place, number, fails, ?_⟩
    intro other inside otherNumber cause failsToo
    rw [List.mem_singleton.mp inside] at failsToo ⊢
    exact .inr ⟨(fails.unique failsToo).1, Nat.le_refl _⟩

theorem single_of_report {place : Nat} {report : List Violation}
    (answered : ((⟨[place]⟩ : Walker).process bench root file).outcome = .ok report) :
    report = Bench.foundBy (bench.aloneAfter root file place) ∧
      ((⟨[place]⟩ : Walker).process bench root file).bench[place]? =
        bench.aloneAfter root file place := by
  cases walks : ((⟨[place]⟩ : Walker).walked bench root file).fault with
  | some fault =>
    rw [process_of_fault walks] at answered
    cases answered
  | none =>
    rcases process_of_success (List.nodup_singleton place) walks with ⟨outcome, final⟩
    have reports := Except.ok.inj (answered.symm.trans outcome)
    rw [List.flatMap_singleton] at reports
    exact ⟨reports, final place (List.mem_singleton_self place)⟩

/-- Checks that share a walker do not influence each other. The walk fails if and only if
one of them fails alone; otherwise it answers what each of them answers alone, in the order
of registration, and leaves each as it is left alone. What it fails with is the failure at
the earliest call, and at that call the one of the check that was registered first. -/
theorem process_splits (walker : Walker) (distinct : walker.places.Nodup) (bench : Bench)
    (root : Tree) (file : String) :
    let shared := walker.process bench root file
    let single (place : Nat) := (⟨[place]⟩ : Walker).process bench root file
    ((∃ fault, shared.outcome = .error fault) ↔
        ∃ place ∈ walker.places, ∃ fault, (single place).outcome = .error fault) ∧
      (∀ report : Nat → List Violation,
          (∀ place ∈ walker.places, (single place).outcome = .ok (report place)) →
        shared.outcome = .ok (walker.places.flatMap report) ∧
          ∀ place ∈ walker.places, shared.bench[place]? = (single place).bench[place]?) ∧
      (∀ place fault, (single place).outcome = .error fault ↔
        ∃ number, bench.FailsAt place root file number fault) ∧
      ∀ fault, shared.outcome = .error fault ↔ ∃ place ∈ walker.places, ∃ number,
        bench.FailsFirst walker root file place number fault := by
  intro shared single
  have firstFails (fault : CheckFault) : shared.outcome = .error fault ↔
      ∃ place ∈ walker.places, ∃ number,
        bench.FailsFirst walker root file place number fault := by
    rw [outcome_error_iff, Bench.walked_fault_iff distinct]
  refine ⟨⟨?_, ?_⟩, ?_, single_fails_iff bench root file, firstFails⟩
  · intro shared
    rcases shared with ⟨fault, failed⟩
    rcases (firstFails fault).mp failed with ⟨place, member, number, fails, -⟩
    exact ⟨place, member, fault, (single_fails_iff bench root file place fault).mpr
      ⟨number, fails⟩⟩
  · intro single
    rcases single with ⟨place, member, fault, failed⟩
    rcases (single_fails_iff bench root file place fault).mp failed with ⟨number, fails⟩
    cases walks : (walker.walked bench root file).fault with
    | some cause => exact ⟨cause, process_of_fault walks⟩
    | none => exact absurd fails (Bench.not_failsAt_of_walked distinct walks member number fault)
  · intro report each
    cases walks : (walker.walked bench root file).fault with
    | some fault =>
      rcases (firstFails fault).mp (process_of_fault walks) with ⟨place, member, number, fails, -⟩
      have failed := (single_fails_iff bench root file place fault).mpr ⟨number, fails⟩
      cases (each place member).symm.trans failed
    | none =>
      rcases process_of_success distinct walks with ⟨outcome, final⟩
      refine ⟨outcome.trans ?_, ?_⟩
      · exact congrArg _ (List.flatMap_congr fun place member =>
          (single_of_report (each place member)).1.symm)
      · intro place member
        rw [final place member, (single_of_report (each place member)).2]

def bodylessClass : Tree := .node (.make .classDef "" 1 0) []

/-- The recorder that is registered first cannot fill its template at the class, at which
the other check fails, too. -/
def unfillableFirst : Bench :=
  #[.hiddenField .initial, .recorder { classReporter with key := some "\x7b9\x7d" }]

theorem bodylessClass_stops_at_recorder :
    let walker : Walker := ⟨[1, 0]⟩
    walker.places.Nodup ∧
      ((⟨[0]⟩ : Walker).process unfillableFirst bodylessClass "A.java").outcome =
        .error (.contract (.noBody bodylessClass)) ∧
      ∃ number, unfillableFirst.FailsFirst walker bodylessClass "A.java" 1 number
        (.template (.noArgument 9)) := by
  intro walker
  have distinct : walker.places.Nodup := by decide
  have hidden : ((⟨[0]⟩ : Walker).process unfillableFirst bodylessClass "A.java").outcome =
      .error (.contract (.noBody bodylessClass)) := by
    with_unfolding_all rfl
  have shared : (walker.process unfillableFirst bodylessClass "A.java").outcome =
      .error (.template (.noArgument 9)) := by
    with_unfolding_all rfl
  rcases process_splits walker distinct unfillableFirst bodylessClass "A.java" with
    ⟨-, -, single, first⟩
  rcases (first _).mp shared with ⟨place, member, number, failsFirst⟩
  have isOne : place = 1 ∨ place = 0 := by simpa [walker] using member
  rcases isOne with rfl | rfl
  · exact ⟨distinct, hidden, number, failsFirst⟩
  · cases hidden.symm.trans ((single 0 _).mpr ⟨number, failsFirst.1⟩)

end Walker

end ShadowLint
