import Mathlib.Data.List.Forall2
import ShadowLint.Proofs.Check.Findings
import ShadowLint.Proofs.Check.History
import ShadowLint.Proofs.Walk.Place

/-!
Nothing is remembered from one tree to the next. Whatever was done before, a walk
begins with clearing what earlier walks have left in the checks for hidden fields that
it drives, and keeps to these checks; so it comes to what it comes to with checks that
were just made and have the same settings (`HiddenField.process_forgets`).
-/

namespace ShadowLint

namespace HiddenField

/-- The check without what a walk leaves in it. -/
def emptied (check : HiddenField) : HiddenField :=
  { check with scopes := .initial, core := { check.core with violations := #[], file := "" } }

/-- A check that was just made, with the settings of another one. -/
def renewed (check : HiddenField) : HiddenField :=
  { initial with
    core := { initial.core with
      chosenKinds := check.core.chosenKinds, severity := check.core.severity }
    ignoreFormat := check.ignoreFormat, ignoreSetter := check.ignoreSetter
    ignoreConstructorParameter := check.ignoreConstructorParameter }

theorem Lawful.renewed_eq {check : HiddenField} (lawful : check.Lawful) :
    check.renewed = check.emptied := by
  rcases check with ⟨⟨profile, kinds, severity, file, violations⟩, _, _, _, _⟩
  have same : profile = HiddenField.profile := lawful.profile
  subst same
  rfl

theorem lawful_emptied {check : HiddenField} : check.emptied.Lawful ↔ check.Lawful :=
  ⟨fun lawful => ⟨lawful.profile, lawful.chosen⟩, fun lawful => ⟨lawful.profile, lawful.chosen⟩⟩

theorem prepared_emptied (check : HiddenField) (file : String) :
    check.emptied.prepared file = check.prepared file := rfl

theorem prepared_prepared (check : HiddenField) (file : String) :
    (check.prepared file).prepared file = check.prepared file := rfl

/-! ## What calls leave alone -/

theorem emptied_processDeclaration (check : HiddenField) (site : Site) :
    (check.processDeclaration site).state.emptied = check.emptied := by
  rcases check.processDeclaration_cases site with passed | ⟨error, broken⟩ | ⟨ident, _, reported⟩
  · rw [passed]
    rfl
  · rw [broken]
    rfl
  · rw [reported, Core.report]
    split <;> rfl

theorem emptied_visit (check : HiddenField) (site : Site) :
    (check.visit site).state.emptied = check.emptied := by
  unfold visit
  split
  · rw [enterClass_eq]
    rfl
  · exact check.emptied_processDeclaration site
  · exact check.emptied_processDeclaration site
  · rfl

theorem emptied_leave (check : HiddenField) (site : Site) :
    (check.leave site).state.emptied = check.emptied := by
  rcases check.leave_changes_scopes site with ⟨scopes, left⟩
  rw [left]
  rfl

theorem answer_emptied (check : HiddenField) (callback : Callback) :
    ∃ after, (Check.answer (.hiddenField check) callback).state = .hiddenField after ∧
      after.emptied = check.emptied := by
  cases callback with
  | call call =>
    cases call with
    | visit site => exact ⟨_, rfl, check.emptied_visit site⟩
    | leave site => exact ⟨_, rfl, check.emptied_leave site⟩
  | clear | setFile | begin | finish => exact ⟨_, rfl, rfl⟩

end HiddenField

namespace Bench

def emptiedAt (bench : Bench) (place : Nat) : Option HiddenField :=
  match bench[place]? with
  | some (.hiddenField check) => some check.emptied
  | _ => none

theorem emptiedAt_answer (turn : Turn) (bench : Bench) (place : Nat) :
    (crew.answer turn bench).state.emptiedAt place = bench.emptiedAt place := by
  by_cases own : turn.place = place
  · cases found : bench[place]? with
    | none =>
      subst own
      rw [answer_absent found, Reached.done]
    | some check =>
      have next := (answer_own found own).1
      simp only [emptiedAt, found, next, Check.alone]
      cases check with
      | hiddenField check =>
        rcases check.answer_emptied turn.callback with ⟨after, reached, same⟩
        simp only [reached, same]
      | recorder check =>
        rcases Check.answer_recorder check turn.callback with ⟨after, reached⟩
        simp only [reached]
  · rw [emptiedAt, emptiedAt, answer_other own]

theorem emptiedAt_run (turns : List Turn) (bench : Bench) (place : Nat) :
    (crew.run turns bench).state.emptiedAt place = bench.emptiedAt place := by
  have keeps (turn : Turn) (reached : Bench)
      (same : reached.emptiedAt place = bench.emptiedAt place) :
      (crew.answer turn reached).state.emptiedAt place = bench.emptiedAt place :=
    (emptiedAt_answer turn reached place).trans same
  exact (crew.run_keeps keeps rfl).2

/-! ## What a walk reads -/

def AgreeOn (places : List Nat) (first second : Bench) : Prop :=
  ∀ place ∈ places, first[place]? = second[place]?

namespace AgreeOn

variable {places : List Nat} {first second : Bench}

theorem answer (agree : AgreeOn places first second) {turn : Turn} (inside : turn.place ∈ places) :
    (crew.answer turn first).fault = (crew.answer turn second).fault ∧
      AgreeOn places (crew.answer turn first).state (crew.answer turn second).state := by
  have same := agree turn.place inside
  cases found : second[turn.place]? with
  | none =>
    rw [answer_absent (same.trans found), answer_absent found]
    exact ⟨rfl, agree⟩
  | some check =>
    have left := answer_own (same.trans found) rfl
    have right := answer_own found rfl
    refine ⟨left.2.trans right.2.symm, fun place member => ?_⟩
    by_cases own : turn.place = place
    · rw [← own, left.1, right.1]
    · rw [answer_other own, answer_other own, agree place member]

theorem found (agree : AgreeOn places first second) {turn : Turn} (inside : turn.place ∈ places) :
    crew.found ⟨first, turn⟩ = crew.found ⟨second, turn⟩ := by
  have after := (agree.answer inside).2 turn.place inside
  unfold Crew.found
  dsimp only
  split
  · simp only [Crew.after, crew] at after ⊢
    rw [after]
  · rfl

theorem run (agree : AgreeOn places first second) {turns : List Turn}
    (inside : ∀ turn ∈ turns, turn.place ∈ places) :
    (crew.run turns first).fault = (crew.run turns second).fault ∧
      AgreeOn places (crew.run turns first).state (crew.run turns second).state ∧
      (crew.moments turns first).flatMap crew.found =
        (crew.moments turns second).flatMap crew.found := by
  induction turns, second using crew.run_induction generalizing first with
  | ended second => exact ⟨rfl, agree, rfl⟩
  | failing turn rest second fault fails =>
    have here := inside turn List.mem_cons_self
    rcases agree.answer here with ⟨faults, after⟩
    have failsToo := faults.trans fails
    rw [Crew.run_of_fault fails, Crew.run_of_fault failsToo, Crew.moments_of_fault fails,
      Crew.moments_of_fault failsToo]
    exact ⟨faults, after, by simp [agree.found here]⟩
  | going turn rest second answers induction =>
    have here := inside turn List.mem_cons_self
    rcases agree.answer here with ⟨faults, after⟩
    have answersToo := faults.trans answers
    rw [Crew.run_of_success answers, Crew.run_of_success answersToo,
      Crew.moments_of_success answers, Crew.moments_of_success answersToo]
    rcases induction after fun other member => inside other (List.mem_cons_of_mem _ member) with
      ⟨faults, final, others⟩
    exact ⟨faults, final, by simp [agree.found here, others]⟩

end AgreeOn

/-- The checks at the places are checks for hidden fields, and the same but for what
walks have left in them. -/
def Alike (places : List Nat) (first second : Bench) : Prop :=
  ∀ place ∈ places, ∃ check,
    first.emptiedAt place = some check ∧ second.emptiedAt place = some check

theorem emptiedAt_of_present {bench : Bench} {place : Nat} {check : HiddenField}
    (present : bench[place]? = some (.hiddenField check)) :
    bench.emptiedAt place = some check.emptied := by
  simp [emptiedAt, present]

theorem exists_of_emptiedAt {bench : Bench} {place : Nat} {emptied : HiddenField}
    (found : bench.emptiedAt place = some emptied) :
    ∃ check, bench[place]? = some (.hiddenField check) ∧ check.emptied = emptied := by
  unfold emptiedAt at found
  split at found
  · rename_i check present
    exact ⟨check, present, Option.some.inj found⟩
  · cases found

theorem prepareAll_other {walker : Walker} {place : Nat} (other : place ∉ walker.places)
    (root : Tree) (file : String) (bench : Bench) :
    (walker.prepareAll root file bench)[place]? = bench[place]? := by
  rcases walker with ⟨places⟩
  induction places generalizing bench with
  | nil => rfl
  | cons first rest induction =>
    rcases not_or.mp (mt List.mem_cons.mpr other) with ⟨different, outside⟩
    have here := @modify_other bench place first (Ne.symm different)
      fun check => check.prepare root file
    exact (induction _ outside).trans here

theorem prepareAll_own {walker : Walker} {place : Nat} (own : place ∈ walker.places)
    (root : Tree) (file : String) {bench : Bench} {check : HiddenField}
    (present : bench[place]? = some (.hiddenField check)) :
    (walker.prepareAll root file bench)[place]? = some (.hiddenField (check.prepared file)) := by
  rcases walker with ⟨places⟩
  induction places generalizing bench check with
  | nil => cases own
  | cons first rest induction =>
    by_cases here : first = place
    · have next : (bench.modify first fun check => check.prepare root file)[place]? =
          some (.hiddenField (check.prepared file)) := by
        rw [Array.getElem?_modify, if_pos here, present]
        rfl
      by_cases again : place ∈ rest
      · rw [← check.prepared_prepared file]
        exact induction next again
      · exact (@prepareAll_other ⟨rest⟩ place again root file _).trans next
    · have next := (@modify_other bench place first here
        fun check => check.prepare root file).trans present
      exact induction next ((List.mem_cons.mp own).resolve_left (Ne.symm here))

namespace Alike

variable {walker : Walker} {first second : Bench}

theorem exists_checks (alike : Alike walker.places first second) {place : Nat}
    (member : place ∈ walker.places) :
    ∃ left right, first[place]? = some (.hiddenField left) ∧
      second[place]? = some (.hiddenField right) ∧ left.emptied = right.emptied := by
  rcases alike place member with ⟨emptied, inFirst, inSecond⟩
  rcases exists_of_emptiedAt inFirst with ⟨left, presentLeft, sameLeft⟩
  rcases exists_of_emptiedAt inSecond with ⟨right, presentRight, sameRight⟩
  exact ⟨left, right, presentLeft, presentRight, sameLeft.trans sameRight.symm⟩

theorem agreeOn_prepareAll (alike : Alike walker.places first second) (root : Tree)
    (file : String) :
    AgreeOn walker.places (walker.prepareAll root file first)
      (walker.prepareAll root file second) := by
  intro place member
  rcases alike.exists_checks member with ⟨left, right, presentLeft, presentRight, same⟩
  rw [prepareAll_own member root file presentLeft, prepareAll_own member root file presentRight,
    ← left.prepared_emptied, ← right.prepared_emptied, same]

theorem requests_eq (alike : Alike walker.places first second) :
    crew.requests walker.places first = crew.requests walker.places second := by
  refine List.map_congr_left fun place member => ?_
  rcases alike.exists_checks member with ⟨left, right, presentLeft, presentRight, same⟩
  have kinds : left.emptied.core.registeredKinds = right.emptied.core.registeredKinds := by
    rw [same]
  simp only [crew, presentLeft, presentRight, Option.map_some, Option.getD_some]
  exact congrArg _ kinds

theorem process (alike : Alike walker.places first second) (root : Tree) (file : String) :
    (walker.process first root file).outcome = (walker.process second root file).outcome ∧
      AgreeOn walker.places (walker.process first root file).bench
        (walker.process second root file).bench := by
  let rest := Crew.walking (crew.requests walker.places second) [] root ++
    Crew.closing root walker.places
  have script (bench : Bench) (same : crew.requests walker.places bench =
      crew.requests walker.places second) :
      walker.script bench root file = Crew.opening root file walker.places ++ rest := by
    rw [Walker.script, same, Crew.script, Crew.map_fst_requests]
  have inside : ∀ turn ∈ rest, turn.place ∈ walker.places := by
    intro turn member
    apply @Crew.place_of_script _ crew walker.places root file second turn
    rw [← Walker.script, script second rfl]
    exact List.mem_append_right _ member
  have opens (bench : Bench) :
      (crew.run (Crew.opening root file walker.places) bench).fault = none := by
    rw [run_opening]
    rfl
  rcases (alike.agreeOn_prepareAll root file).run inside with ⟨faults, final, found⟩
  rw [Walker.outcome_process, Walker.outcome_process, Walker.bench_process, Walker.bench_process,
    script first alike.requests_eq, script second rfl]
  simp only [Crew.run_append, run_opening, Reached.andThen_done, Crew.moments_append (opens _),
    List.flatMap_append, Crew.found_opening, List.nil_append]
  dsimp only [Reached.done]
  rw [faults, found]
  exact ⟨rfl, final⟩

end Alike

theorem emptiedAt_process (walker : Walker) (bench : Bench) (root : Tree) (file : String)
    (place : Nat) :
    (walker.process bench root file).bench.emptiedAt place = bench.emptiedAt place := by
  rw [Walker.bench_process, emptiedAt_run]

theorem emptiedAt_processAll (walker : Walker) (bench : Bench) (file : String)
    (trees : List Tree) (place : Nat) :
    (walker.processAll bench file trees).bench.emptiedAt place = bench.emptiedAt place := by
  induction trees generalizing bench with
  | nil => rfl
  | cons root rest induction =>
    rw [Walker.processAll]
    dsimp only
    split
    · exact emptiedAt_process walker bench root file place
    · dsimp only
      rw [induction, emptiedAt_process]

namespace Alike

variable {walker : Walker} {bench fresh : Bench}

theorem after_process (alike : Alike walker.places bench fresh) (root : Tree) (file : String) :
    Alike walker.places (walker.process bench root file).bench fresh := by
  intro place member
  rw [emptiedAt_process]
  exact alike place member

theorem after_processAll (alike : Alike walker.places bench fresh) (file : String)
    (trees : List Tree) : Alike walker.places (walker.processAll bench file trees).bench fresh := by
  intro place member
  rw [emptiedAt_processAll]
  exact alike place member

end Alike

theorem Alike.processAll {walker : Walker} {bench fresh : Bench}
    (alike : Alike walker.places bench fresh) (file : String) (trees : List Tree)
    (violations : List Violation) :
    (walker.processAll bench file trees).outcome = .ok violations ↔
      ∃ reports, List.Forall₂
        (fun root report => (walker.process fresh root file).outcome = .ok report) trees reports ∧
        violations = reports.flatten := by
  induction trees generalizing bench violations with
  | nil =>
    constructor
    · intro answered
      exact ⟨[], .nil, (Except.ok.inj answered).symm⟩
    · rintro ⟨reports, each, rfl⟩
      cases each
      rfl
  | cons root rest induction =>
    have same := (alike.process root file).1
    have alikeAfter := alike.after_process root file
    rw [Walker.processAll]
    dsimp only
    cases first : (walker.process bench root file).outcome with
    | error fault =>
      constructor
      · intro answered
        cases answered
      · rintro ⟨reports, each, -⟩
        cases each with
        | cons here _ => cases first.symm.trans (same.trans here)
    | ok found =>
      constructor
      · intro answered
        rcases Success.of_map answered with ⟨others, inOthers, rfl⟩
        rcases (induction alikeAfter others).mp inOthers with ⟨reports, each, rfl⟩
        exact ⟨found :: reports, .cons (same.symm.trans first) each, rfl⟩
      · rintro ⟨reports, each, rfl⟩
        cases each with
        | cons here each =>
          have others := (induction alikeAfter _).mpr ⟨_, each, rfl⟩
          cases first.symm.trans (same.trans here)
          dsimp only
          rw [others]
          rfl

end Bench

/-! ## Histories -/

/-- Something that is done with checks and walkers. A turn is a callback that is made to
a check directly. -/
inductive Deed where
  | make
  | makeRecorder (recorder : Recorder)
  | configure (place : Nat) (call : ConfigCall)
  | turn (turn : Turn)
  | process (walker : Walker) (root : Tree) (file : String)
  | processAll (walker : Walker) (file : String) (trees : List Tree)

namespace Bench

/-- What a deed leaves, whether or not it fails. -/
def after (bench : Bench) : Deed → Bench
  | .make => bench.push (.hiddenField .initial)
  | .makeRecorder recorder => bench.push (.recorder recorder)
  | .configure place call => bench.modify place fun check => check.after call
  | .turn turn => (crew.answer turn bench).state
  | .process walker root file => (walker.process bench root file).bench
  | .processAll walker file trees => (walker.processAll bench file trees).bench

def afterAll (deeds : List Deed) : Bench := deeds.foldl after #[]

def AllLawful (bench : Bench) : Prop :=
  ∀ (place : Nat) (check : HiddenField),
    bench[place]? = some (Check.hiddenField check) → check.Lawful

namespace AllLawful

variable {bench : Bench}

theorem of_emptiedAt (lawful : bench.AllLawful) {changed : Bench}
    (same : ∀ place, changed.emptiedAt place = bench.emptiedAt place) : changed.AllLawful := by
  intro place check present
  have emptied := (same place).symm.trans (emptiedAt_of_present present)
  rcases exists_of_emptiedAt emptied with ⟨earlier, found, equal⟩
  rw [← HiddenField.lawful_emptied, ← equal, HiddenField.lawful_emptied]
  exact lawful place earlier found

theorem push (lawful : bench.AllLawful) {check : Check}
    (added : ∀ hider, check = .hiddenField hider → hider.Lawful) :
    AllLawful (Array.push bench check) := by
  intro place hider present
  rw [Array.getElem?_push] at present
  split at present
  · exact added hider (Option.some.inj present)
  · exact lawful place hider present

theorem configure (lawful : bench.AllLawful) (place : Nat) (call : ConfigCall) :
    AllLawful (Array.modify bench place fun check => check.after call) := by
  intro other hider present
  rw [Array.getElem?_modify] at present
  split at present
  · rcases Option.map_eq_some_iff.mp present with ⟨check, found, changed⟩
    cases check with
    | hiddenField earlier =>
      have configured := Check.isLawful_kept.after ⟨earlier, rfl, lawful other earlier found⟩ call
      rcases changed ▸ configured with ⟨same, equal, lawful⟩
      exact Check.hiddenField.inj equal ▸ lawful
    | recorder recorder =>
      rcases changed ▸ Check.isRecorder_kept.after ⟨recorder, rfl⟩ call with ⟨same, equal⟩
      cases equal
  · exact lawful other hider present

theorem after (lawful : bench.AllLawful) (deed : Deed) : (bench.after deed).AllLawful := by
  cases deed with
  | make =>
    refine lawful.push ?_
    rintro hider ⟨⟩
    exact HiddenField.lawful_initial
  | makeRecorder recorder => exact lawful.push nofun
  | configure place call => exact lawful.configure place call
  | turn turn => exact lawful.of_emptiedAt (emptiedAt_answer turn bench)
  | process walker root file => exact lawful.of_emptiedAt (emptiedAt_process walker bench root file)
  | processAll walker file trees =>
    exact lawful.of_emptiedAt (emptiedAt_processAll walker bench file trees)

end AllLawful

theorem allLawful_afterAll (deeds : List Deed) : (afterAll deeds).AllLawful := by
  have each (start : Bench) (lawful : start.AllLawful) : (deeds.foldl after start).AllLawful := by
    induction deeds generalizing start with
    | nil => exact lawful
    | cons deed rest induction => exact induction _ (lawful.after deed)
  exact each #[] nofun

end Bench

namespace HiddenField

/-- Whatever was done before, with or without failures, a walk of checks for hidden
fields answers what it answers with new checks that have the same settings, and leaves
them the same. Walks over several trees answer what new checks answer for each tree. -/
theorem process_forgets {deeds : List Deed} {walker : Walker} {fresh : Bench}
    (renewal : ∀ place ∈ walker.places, ∃ check : HiddenField,
      (Bench.afterAll deeds)[place]? = some (.hiddenField check) ∧
        fresh[place]? = some (.hiddenField check.renewed)) (file : String) :
    let bench := Bench.afterAll deeds
    (∀ root,
      (walker.process bench root file).outcome = (walker.process fresh root file).outcome ∧
      ∀ place ∈ walker.places, ∃ after : HiddenField,
        (walker.process bench root file).bench[place]? = some (.hiddenField after) ∧
          (walker.process fresh root file).bench[place]? = some (.hiddenField after)) ∧
    ∀ trees violations, (walker.processAll bench file trees).outcome = .ok violations ↔
      ∃ reports, List.Forall₂
        (fun root report => (walker.process fresh root file).outcome = .ok report) trees reports ∧
        violations = reports.flatten := by
  intro bench
  have alike : Bench.Alike walker.places bench fresh := by
    intro place member
    rcases renewal place member with ⟨check, present, renewed⟩
    have lawful := Bench.allLawful_afterAll deeds place check present
    rw [lawful.renewed_eq] at renewed
    exact ⟨check.emptied, Bench.emptiedAt_of_present present,
      @Bench.emptiedAt_of_present fresh place check.emptied renewed⟩
  refine ⟨fun root => ?_, alike.processAll file⟩
  rcases alike.process root file with ⟨outcomes, agree⟩
  refine ⟨outcomes, fun place member => ?_⟩
  rcases alike place member with ⟨emptied, found, -⟩
  rw [← Bench.emptiedAt_process walker bench root file place] at found
  rcases Bench.exists_of_emptiedAt found with ⟨after, present, -⟩
  exact ⟨after, present, (agree place member).symm.trans present⟩

/-- Scopes are left open and a walk is begun that cannot be completed. -/
def disturbances : List Deed := [
  .make, .configure 0 (.ignoreSetter true), .turn ⟨0, .call (.visit (.root nestedClasses))⟩,
  .process .alone sizedClass "Sized.java"]

theorem disturbances_are_forgotten :
    (Walker.alone.process (Bench.afterAll disturbances) nestedClasses "Nested.java").outcome =
      .ok [hiddenTotal] := by
  have settings : (Bench.afterAll disturbances).emptiedAt 0 = some ignoringSetters := by
    rw [Bench.afterAll, disturbances]
    simp only [List.foldl_cons, List.foldl_nil, Bench.after, Bench.emptiedAt_process,
      Bench.emptiedAt_answer]
    rfl
  rcases Bench.exists_of_emptiedAt settings with ⟨check, present, same⟩
  have renewal : ∀ place ∈ Walker.alone.places, ∃ check : HiddenField,
      (Bench.afterAll disturbances)[place]? = some (.hiddenField check) ∧
        (Bench.only ignoringSetters)[place]? = some (.hiddenField check.renewed) := by
    intro place member
    have lawful := Bench.allLawful_afterAll disturbances 0 check present
    rw [List.mem_singleton.mp member]
    exact ⟨check, present, by rw [lawful.renewed_eq, same]; rfl⟩
  rw [((process_forgets renewal "Nested.java").1 nestedClasses).1]
  with_unfolding_all rfl

end HiddenField

end ShadowLint
