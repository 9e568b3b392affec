import ShadowLint.Proofs.Success
import ShadowLint.Proofs.Walk.Script

/-!
The callbacks that a walker makes. The checks on a bench are a crew
(`Bench.crew`), and a walker drives them as any crew is driven
(`Walker.process_eq_course`). What a walk calls, whatever the checks are, is the
script, up to the first callback that fails (`Walker.process_takes_turns`).
-/

namespace ShadowLint

namespace Check

def answer (check : Check) : Callback → Reached Check
  | .clear => .done (check.withCore check.core.clearViolations)
  | .setFile file => .done (check.withCore { check.core with file })
  | .begin root => .done (check.beginTree root)
  | .call (.visit site) => check.visit site
  | .call (.leave site) => check.leave site
  | .finish root => ⟨(check.finishTree root).1, (check.finishTree root).2, none⟩

theorem answer_recorder (check : Recorder) (callback : Callback) :
    ∃ after, (Check.answer (.recorder check) callback).state = .recorder after := by
  cases callback with
  | call call => cases call <;> exact ⟨_, rfl⟩
  | clear | setFile | begin | finish => exact ⟨_, rfl⟩

theorem prepare_eq (check : Check) (root : Tree) (file : String) :
    let cleared := check.withCore check.core.clearViolations
    check.prepare root file = (cleared.withCore { cleared.core with file }).beginTree root := by
  cases check <;> rfl

theorem registeredKinds_prepare (check : Check) (root : Tree) (file : String) :
    (check.prepare root file).core.registeredKinds = check.core.registeredKinds := by
  cases check <;> rfl

end Check

namespace Bench

/-- The checks on a bench. A place without a check asks for nothing, does nothing and
finds nothing. -/
def crew : Crew Bench where
  registered bench place :=
    (bench[place]?.map fun check => check.core.registeredKinds).getD .empty
  answer turn bench :=
    match bench[turn.place]? with
    | none => .done bench
    | some check => (check.answer turn.callback).map (bench.set! turn.place)
  violations bench place :=
    (bench[place]?.map fun check => check.core.violations.toList).getD []

variable {bench : Bench} {place : Nat} {check : Check}

/-! ## Places -/

theorem getElem?_set_self (present : bench[place]? = some check) (other : Check) :
    (bench.set! place other)[place]? = some other := by
  have inside : place < bench.size := (Array.getElem?_eq_some_iff.mp present).1
  simp [Array.set!_eq_setIfInBounds, inside]

theorem set_set (bench : Bench) (place : Nat) (check other : Check) :
    (bench.set! place check).set! place other = bench.set! place other := by
  simp [Array.set!_eq_setIfInBounds]

theorem modify_absent (absent : bench[place]? = none) (change : Check → Check) :
    bench.modify place change = bench := by
  apply Array.ext_getElem?
  intro other
  rw [Array.getElem?_modify]
  split
  · rename_i same
    rw [← same, absent]
    rfl
  · rfl

theorem modify_other {first : Nat} (other : first ≠ place) (change : Check → Check) :
    (bench.modify first change)[place]? = bench[place]? := by
  rw [Array.getElem?_modify, if_neg other]

theorem modify_present (present : bench[place]? = some check) (change : Check → Check) :
    bench.modify place change = bench.set! place (change check) := by
  apply Array.ext_getElem?
  intro other
  rw [Array.getElem?_modify, Array.set!_eq_setIfInBounds]
  split
  · rename_i same
    rw [← same, present, ← Array.set!_eq_setIfInBounds, getElem?_set_self present]
    rfl
  · rename_i different
    rw [Array.getElem?_setIfInBounds_ne different]

/-! ## Turns -/

theorem answer_absent (absent : bench[place]? = none) (callback : Callback) :
    crew.answer ⟨place, callback⟩ bench = .done bench := by
  simp [crew, absent]

theorem answer_present (present : bench[place]? = some check) (callback : Callback) :
    crew.answer ⟨place, callback⟩ bench = (check.answer callback).map (bench.set! place) := by
  simp [crew, present]

theorem run_done {callback : Callback} {after : Check} (present : bench[place]? = some check)
    (answers : check.answer callback = .done after) (rest : List Turn) :
    crew.run (⟨place, callback⟩ :: rest) bench = crew.run rest (bench.set! place after) := by
  rw [Crew.run_cons, answer_present present, answers]
  exact Reached.andThen_done _ _

theorem run_opening_one (bench : Bench) (place : Nat) (root : Tree) (file : String) :
    crew.run [⟨place, .clear⟩, ⟨place, .setFile file⟩, ⟨place, .begin root⟩] bench =
      .done (bench.modify place fun check => check.prepare root file) := by
  cases found : bench[place]? with
  | none =>
    rw [modify_absent found]
    simp only [Crew.run, answer_absent found, Reached.andThen_done]
  | some check =>
    have named := getElem?_set_self found (check.withCore check.core.clearViolations)
    rw [modify_present found, run_done found rfl, run_done named rfl, set_set,
      run_done (getElem?_set_self found _) rfl, set_set, Check.prepare_eq]
    rfl

theorem run_opening (walker : Walker) (root : Tree) (file : String) (bench : Bench) :
    crew.run (Crew.opening root file walker.places) bench =
      .done (walker.prepareAll root file bench) := by
  rcases walker with ⟨places⟩
  induction places generalizing bench with
  | nil => rfl
  | cons place rest induction =>
    rw [Crew.opening, List.flatMap_cons, Crew.run_append, run_opening_one, Reached.andThen_done]
    exact induction _

theorem run_call (call : Call) (places : List Nat) :
    crew.run (places.map fun place => ⟨place, .call call⟩) =
      callEach (fun check => check.answer (.call call)) places := by
  induction places with
  | nil => rfl
  | cons place rest induction =>
    funext bench
    rw [List.map_cons, Crew.run_cons, callEach, induction]
    cases found : bench[place]? with
    | none => rw [answer_absent found, Reached.andThen_done]
    | some check => rw [answer_present found]

theorem finishAll_eq (root : Tree) (places : List Nat) (bench : Bench) :
    let finished := Walker.finishAll root places bench
    crew.finishAll root places bench = (⟨finished.1, finished.2.1, none⟩, finished.2.2) := by
  induction places generalizing bench with
  | nil => rfl
  | cons place rest induction =>
    rw [Crew.finishAll, Walker.finishAll]
    cases found : bench[place]? with
    | none =>
      rw [answer_absent found]
      simp only [Reached.done, Reached.notedAfter, induction, Array.empty_append]
      simp only [crew, found, Option.map_none, Option.getD_none, List.nil_append]
    | some check =>
      rw [answer_present found]
      have present := getElem?_set_self found (check.finishTree root).1
      simp only [Check.answer, Reached.map, Reached.notedAfter, induction]
      simp only [crew, present, Option.map_some, Option.getD_some]

/-! ## What checks ask for -/

theorem registered_modify (root : Tree) (file : String) (bench : Bench) (first place : Nat) :
    crew.registered (bench.modify first fun check => check.prepare root file) place =
      crew.registered bench place := by
  simp only [crew, Array.getElem?_modify]
  split
  · rw [Option.map_map, Function.comp_def]
    simp only [Check.registeredKinds_prepare]
  · rfl

theorem registered_prepareAll (walker : Walker) (root : Tree) (file : String) (bench : Bench)
    (place : Nat) :
    crew.registered (walker.prepareAll root file bench) place = crew.registered bench place := by
  rcases walker with ⟨places⟩
  induction places generalizing bench with
  | nil => rfl
  | cons first rest induction =>
    rw [← registered_modify root file bench first place]
    exact induction _

theorem listeners_eq (walker : Walker) (bench : Bench) (kind : Kind) :
    Walker.listeners (walker.requests bench) kind =
      Walker.listeners (crew.requests walker.places bench) kind := by
  rcases walker with ⟨places⟩
  induction places with
  | nil => rfl
  | cons place rest induction =>
    simp only [Walker.listeners, Walker.requests, Crew.requests, List.filterMap_cons, crew,
      List.map_cons, List.filter_cons] at induction ⊢
    cases found : bench[place]? with
    | none => simpa [KindSet.empty] using induction
    | some check =>
      simp only [Option.map_some, Option.getD_some, List.filter_cons]
      split
      · rw [List.map_cons, List.map_cons, induction]
      · exact induction

end Bench

namespace Walker

def ofCourse (file : String) (course : Crew.Course Bench) : Walk :=
  ⟨course.state, match course.answered with
    | .error _ => course.journal
    | .ok (nodes, violations) => course.journal.push (.walked file nodes violations.length),
    course.answered.map Prod.snd⟩

theorem traverse_prepareAll (walker : Walker) (root : Tree) (file : String) (bench : Bench) :
    walker.traverse root (walker.prepareAll root file bench) =
      Bench.crew.traverse (Bench.crew.requests walker.places bench) root
        (walker.prepareAll root file bench) := by
  have listens (kind : Kind) :
      listeners (walker.requests (walker.prepareAll root file bench)) kind =
        listeners (Bench.crew.requests walker.places bench) kind := by
    rw [Bench.listeners_eq]
    simp only [Crew.requests, Bench.registered_prepareAll]
  rw [traverse, Crew.traverse]
  simp only [listens, Crew.turnsOf, Bench.run_call]
  rfl

theorem process_eq_course (walker : Walker) (root : Tree) (file : String) (bench : Bench) :
    walker.process bench root file =
      ofCourse file (Bench.crew.process walker.places root file bench) := by
  rw [process, Crew.process, Bench.run_opening, traverse_prepareAll]
  simp only [Reached.done, Reached.notedAfter_empty]
  cases (Bench.crew.traverse (Bench.crew.requests walker.places bench) root
      (walker.prepareAll root file bench)) with
  | mk reached entered =>
    cases failed : reached.fault with
    | some fault => simp [ofCourse, Except.map]
    | none => simp [ofCourse, Except.map, Bench.finishAll_eq, Crew.courseOf, Reached.notedAfter]

def script (walker : Walker) (bench : Bench) (root : Tree) (file : String) : List Turn :=
  Crew.script (Bench.crew.requests walker.places bench) root file

section process

variable (walker : Walker) (bench : Bench) (root : Tree) (file : String)

theorem bench_process :
    (walker.process bench root file).bench =
      (Bench.crew.run (walker.script bench root file) bench).state := by
  rw [process_eq_course, Crew.process_eq]
  rfl

theorem outcome_process :
    (walker.process bench root file).outcome =
      match (Bench.crew.run (walker.script bench root file) bench).fault with
      | some fault => .error fault
      | none => .ok ((Bench.crew.moments (walker.script bench root file) bench).flatMap
          Bench.crew.found) := by
  rw [process_eq_course, Crew.process_eq, script]
  dsimp only [ofCourse, Crew.courseOf]
  cases (Bench.crew.run (Crew.script (Bench.crew.requests walker.places bench) root file)
    bench).fault <;> rfl

variable {walker bench root file} in
theorem mem_journal_process {entry : Entry}
    (noted : entry ∈ (walker.process bench root file).journal) :
    entry ∈ (Bench.crew.run (walker.script bench root file) bench).journal ∨
      ∃ nodes violations, entry = .walked file nodes violations := by
  rw [process_eq_course, Crew.process_eq] at noted
  dsimp only [ofCourse, Crew.courseOf] at noted
  split at noted
  · exact .inl noted
  · rcases Array.mem_push.mp noted with before | last
    · exact .inl before
    · exact .inr ⟨_, _, last⟩

end process

/-- What a walk calls, whatever the checks are: each check in the order of registration
is cleared, given the file and begun; then the tree is walked, each node visited, its
children walked and the node left, by all the checks that asked for its kind at first;
then each check finishes. The walk goes on to the end of this script and answers what
each check has found right after it has finished, or it ends with the first callback
that fails. -/
theorem process_takes_turns (walker : Walker) (root : Tree) (file : String) :
    (∀ bench, walker.process bench root file =
      ofCourse file (Bench.crew.process walker.places root file bench)) ∧
    ∀ {State : Type} (crew : Crew State) (state : State),
      let script := Crew.script (crew.requests walker.places state) root file
      let course := crew.process walker.places root file state
      let noted := crew.noting.process walker.places root file (state, [])
      let taken : List (Moment State) := noted.state.2
      (noted.state.1 = course.state ∧ noted.journal = course.journal ∧
        noted.answered = course.answered) ∧
      (∀ nodes violations, course.answered = .ok (nodes, violations) →
        taken.map Moment.turn = script ∧
        (∀ moment ∈ taken, (crew.after moment).fault = none) ∧
        nodes = root.size ∧ violations = taken.flatMap crew.found) ∧
      ∀ fault, course.answered = .error fault →
        ∃ (earlier : List (Moment State)) (last : Moment State) (later : List Turn),
          taken = earlier ++ [last] ∧
          script = taken.map Moment.turn ++ later ∧ (crew.after last).fault = some fault ∧
          ∀ moment ∈ earlier, (crew.after moment).fault = none := by
  refine ⟨fun bench => walker.process_eq_course root file bench, ?_⟩
  intro State crew state script course noted taken
  have erased : noted = ⟨(course.state, crew.moments script state), course.journal,
      course.answered⟩ := crew.process_noting walker.places root file state
  have made : taken = crew.moments script state := by
    dsimp only [taken]
    rw [erased]
  have reached : course = Crew.courseOf (crew.run script state)
      (root.size, (crew.moments script state).flatMap crew.found) :=
    crew.process_eq walker.places root file state
  rw [made, erased]
  refine ⟨⟨rfl, rfl, rfl⟩, ?_, ?_⟩
  · intro nodes violations answered
    rw [reached, Crew.courseOf] at answered
    cases failed : (crew.run script state).fault with
    | some fault => simp [failed] at answered
    | none =>
      simp only [failed, Except.ok.injEq, Prod.mk.injEq] at answered
      rcases answered with ⟨nodes, violations⟩
      rcases crew.turns_of_success failed with ⟨turns, sound⟩
      exact ⟨turns, sound, nodes.symm, violations.symm⟩
  · intro fault answered
    rw [reached, Crew.courseOf] at answered
    cases failed : (crew.run script state).fault with
    | none => simp [failed] at answered
    | some cause =>
      simp only [failed, Except.error.injEq] at answered
      subst answered
      rcases crew.turns_of_fault failed with ⟨earlier, last, later, taken, split, fails, sound⟩
      exact ⟨earlier, last, later, taken, taken ▸ split, fails, sound⟩

def classReporter : Recorder :=
  { core := .ofProfile
      { name := "Classes", sort := "Recorder", messages := [], defaultKinds := .ofList [.classDef]
        acceptableKinds := .empty, requiredKinds := .empty }
    key := some "class", events := #[] }

def emptyClass : Tree := .node (.make .classDef "" 1 0) [.node (.make .objBlock "" 1 8) []]

def reporterFirst : Bench := #[.recorder classReporter, .hiddenField .initial]

/-- A check that is registered twice takes each of its turns twice, and what it has
found is answered twice. -/
theorem emptyClass_reported_twice :
    let noted := Bench.crew.noting.process [0, 1, 0] emptyClass "A.java" (reporterFirst, [])
    noted.state.2.map (·.turn.place) =
        [0, 0, 0, 1, 1, 1, 0, 0, 0] ++ ([0, 1, 0] ++ [0, 1, 0]) ++ [0, 1, 0] ∧
      ∃ violations, noted.answered = .ok (emptyClass.size, violations) ∧ violations.length = 4 := by
  have counted : (Bench.crew.process [0, 1, 0] emptyClass "A.java" reporterFirst).answered.map
      (fun answer => (answer.1, answer.2.length)) = .ok (2, 4) := by
    with_unfolding_all rfl
  have script : (Crew.script (Bench.crew.requests [0, 1, 0] reporterFirst) emptyClass
      "A.java").map Turn.place =
        [0, 0, 0, 1, 1, 1, 0, 0, 0] ++ ([0, 1, 0] ++ [0, 1, 0]) ++ [0, 1, 0] := by
    with_unfolding_all rfl
  have taken := (process_takes_turns ⟨[0, 1, 0]⟩ emptyClass "A.java").2 Bench.crew reporterFirst
  rcases Success.of_map counted with ⟨answer, answered, counts⟩
  have completed := taken.2.1 answer.1 answer.2 answered
  refine ⟨?_, answer.2, ?_, congrArg Prod.snd counts⟩
  · rw [← script, ← completed.1, List.map_map]
    rfl
  · rw [← completed.2.2.1]
    exact taken.1.2.2.trans answered

end Walker

end ShadowLint
