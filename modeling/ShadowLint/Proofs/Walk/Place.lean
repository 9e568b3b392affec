import ShadowLint.Proofs.Walk.Callbacks

/-!
One check of a walk. Whatever the other checks on a bench do, they leave the check
at a place alone, so that for this check a run is a run of its own turns
(`Bench.own_of_moment`, `Bench.own_of_run`). Where a check is registered once, its
turns in a walk are one opening, a call for every node of a kind that it asked for,
on the way down and on the way up, and one finish (`Bench.turnsAt_script`).
-/

namespace ShadowLint

namespace Check

def alone : Crew Check where
  registered check _ := check.core.registeredKinds
  answer turn check := check.answer turn.callback
  violations check _ := check.core.violations.toList

theorem run_opening (check : Check) (place : Nat) (root : Tree) (file : String) :
    alone.run (Crew.opening root file [place]) check = .done (check.prepare root file) := by
  simp only [Crew.opening, List.flatMap_cons, List.flatMap_nil, List.append_nil, Crew.run, alone,
    answer, Reached.andThen_done, prepare_eq]

end Check

namespace Crew

def turnsAt (place : Nat) (turns : List Turn) : List Turn :=
  turns.filter fun turn => turn.place = place

def ownTurns (place : Nat) (kinds : KindSet) (call : Call) : List Turn :=
  if kinds.has call.site.kind then [⟨place, .call call⟩] else []

def ownScript (place : Nat) (kinds : KindSet) (root : Tree) (file : String) : List Turn :=
  opening root file [place] ++ (root.calls.flatMap (ownTurns place kinds) ++ closing root [place])

theorem turnsAt_own {place : Nat} {turn : Turn} (own : turn.place = place) (rest : List Turn) :
    turnsAt place (turn :: rest) = turn :: turnsAt place rest :=
  List.filter_cons_of_pos (decide_eq_true own)

theorem turnsAt_other {place : Nat} {turn : Turn} (other : turn.place ≠ place)
    (rest : List Turn) : turnsAt place (turn :: rest) = turnsAt place rest :=
  List.filter_cons_of_neg (by simpa using other)

theorem turnsAt_flatMap_absent {turnsFor : Nat → List Turn} {place : Nat} {places : List Nat}
    (own : ∀ other, ∀ turn ∈ turnsFor other, turn.place = other) (absent : place ∉ places) :
    turnsAt place (places.flatMap turnsFor) = [] := by
  rw [turnsAt, List.filter_eq_nil_iff]
  intro turn member isOwn
  rcases List.mem_flatMap.mp member with ⟨other, inside, listed⟩
  have same := (own other turn listed).symm.trans (of_decide_eq_true isOwn)
  exact absent (same ▸ inside)

theorem turnsAt_flatMap {turnsFor : Nat → List Turn} {place : Nat} {places : List Nat}
    (own : ∀ other, ∀ turn ∈ turnsFor other, turn.place = other)
    (once : places.count place = 1) : turnsAt place (places.flatMap turnsFor) = turnsFor place := by
  have here : turnsAt place (turnsFor place) = turnsFor place := by
    rw [turnsAt, List.filter_eq_self]
    exact fun turn member => decide_eq_true (own place turn member)
  have present : place ∈ places := List.count_pos_iff.mp (once ▸ Nat.one_pos)
  rcases List.append_of_mem present with ⟨before, after, rfl⟩
  rw [List.count_append, List.count_cons_self] at once
  have outside : place ∉ before ∧ place ∉ after := by
    rw [← List.count_eq_zero, ← List.count_eq_zero]
    omega
  have split : turnsAt place ((before ++ place :: after).flatMap turnsFor) =
      turnsAt place (before.flatMap turnsFor) ++
        (turnsAt place (turnsFor place) ++ turnsAt place (after.flatMap turnsFor)) := by
    simp only [turnsAt, List.flatMap_append, List.flatMap_cons, List.filter_append]
  rw [split, turnsAt_flatMap_absent own outside.1, turnsAt_flatMap_absent own outside.2, here]
  simp

theorem turnsAt_opening {place : Nat} {places : List Nat} (once : places.count place = 1)
    (root : Tree) (file : String) :
    turnsAt place (opening root file places) = opening root file [place] :=
  turnsAt_flatMap (by simp) once

theorem turnsAt_closing {place : Nat} {places : List Nat} (once : places.count place = 1)
    (root : Tree) : turnsAt place (closing root places) = closing root [place] := by
  rw [closing, List.map_eq_flatMap]
  exact turnsAt_flatMap (by simp) once

theorem place_of_ownTurns {place : Nat} {kinds : KindSet} {call : Call} {turn : Turn}
    (member : turn ∈ ownTurns place kinds call) : turn.place = place := by
  rw [ownTurns] at member
  split at member
  · rw [List.mem_singleton.mp member]
  · cases member

end Crew

namespace Bench

variable {bench : Bench} {place : Nat} {check : Check}

theorem answer_other {turn : Turn} (other : turn.place ≠ place) (bench : Bench) :
    (crew.answer turn bench).state[place]? = bench[place]? := by
  cases found : bench[turn.place]? with
  | none => rw [answer_absent found, Reached.done]
  | some check =>
    rw [answer_present found, Reached.map, Array.set!_eq_setIfInBounds,
      Array.getElem?_setIfInBounds_ne other]

theorem answer_own (present : bench[place]? = some check) {turn : Turn}
    (own : turn.place = place) :
    (crew.answer turn bench).state[place]? = some (Check.alone.answer turn check).state ∧
      (crew.answer turn bench).fault = (Check.alone.answer turn check).fault := by
  subst own
  rw [answer_present present]
  exact ⟨getElem?_set_self present _, rfl⟩

theorem after_own {moment : Moment Bench}
    (present : moment.state[moment.turn.place]? = some check) :
    (crew.after moment).fault = (Check.alone.after ⟨check, moment.turn⟩).fault ∧
      (crew.after moment).journal = (Check.alone.after ⟨check, moment.turn⟩).journal := by
  rw [Crew.after, answer_present present]
  exact ⟨rfl, rfl⟩

/-- A moment of a run in which it is the turn of a check is a moment of the check by
itself. -/
theorem own_of_moment {turns : List Turn} {moment : Moment Bench}
    (present : bench[place]? = some check) (member : moment ∈ crew.moments turns bench)
    (own : moment.turn.place = place) :
    ∃ reached, moment.state[place]? = some reached ∧
      ⟨reached, moment.turn⟩ ∈ Check.alone.moments (Crew.turnsAt place turns) check := by
  induction turns, bench using crew.run_induction generalizing check with
  | ended bench => cases member
  | failing turn rest bench fault fails =>
    rw [Crew.moments_of_fault fails, List.mem_singleton] at member
    subst member
    rw [Crew.turnsAt_own own]
    exact ⟨check, present, List.mem_cons_self⟩
  | going turn rest bench answers induction =>
    rw [Crew.moments_of_success answers, List.mem_cons] at member
    by_cases here : turn.place = place
    · rcases answer_own present here with ⟨next, same⟩
      rw [Crew.turnsAt_own here, Crew.moments_of_success (same.symm.trans answers)]
      rcases member with first | later
      · subst first
        exact ⟨check, present, List.mem_cons_self⟩
      · rcases induction next later with ⟨reached, found, inside⟩
        exact ⟨reached, found, List.mem_cons_of_mem _ inside⟩
    · rw [Crew.turnsAt_other here]
      rcases member with first | later
      · subst first
        exact absurd own here
      · exact induction ((answer_other here bench).trans present) later

theorem own_of_run {turns : List Turn} (present : bench[place]? = some check)
    (succeeded : (crew.run turns bench).fault = none) :
    (crew.run turns bench).state[place]? =
        some (Check.alone.run (Crew.turnsAt place turns) check).state ∧
      (Check.alone.run (Crew.turnsAt place turns) check).fault = none := by
  induction turns, bench using crew.run_induction generalizing check with
  | ended bench => exact ⟨present, rfl⟩
  | failing turn rest bench fault fails =>
    rw [Crew.run_of_fault fails, fails] at succeeded
    cases succeeded
  | going turn rest bench answers induction =>
    rw [Crew.run_of_success answers] at succeeded ⊢
    by_cases here : turn.place = place
    · rcases answer_own present here with ⟨next, same⟩
      rw [Crew.turnsAt_own here, Crew.run_of_success (same.symm.trans answers)]
      exact induction next succeeded
    · rw [Crew.turnsAt_other here]
      exact induction ((answer_other here bench).trans present) succeeded

theorem turnsOf_requests (places : List Nat) (bench : Bench) (call : Call) :
    Crew.turnsOf (crew.requests places bench) call =
      places.flatMap fun other => Crew.ownTurns other (crew.registered bench other) call := by
  induction places with
  | nil => rfl
  | cons other rest induction =>
    simp only [Crew.turnsOf, Walker.listeners, Crew.requests, List.map_cons, List.filter_cons,
      List.flatMap_cons, Crew.ownTurns] at induction ⊢
    split
    · rw [List.map_cons, List.map_cons, induction]
      rfl
    · rw [induction]
      rfl

theorem turnsAt_turnsOf {places : List Nat} (present : bench[place]? = some check)
    (once : places.count place = 1) (calls : List Call) :
    Crew.turnsAt place (calls.flatMap (Crew.turnsOf (crew.requests places bench))) =
      calls.flatMap (Crew.ownTurns place check.core.registeredKinds) := by
  have asks : crew.registered bench place = check.core.registeredKinds := by
    simp [crew, present]
  have calling (call : Call) :
      Crew.turnsAt place (Crew.turnsOf (crew.requests places bench) call) =
        Crew.ownTurns place check.core.registeredKinds call := by
    rw [turnsOf_requests, ← asks]
    exact @Crew.turnsAt_flatMap
      (fun other => Crew.ownTurns other (crew.registered bench other) call) _ _
      (fun _ _ => Crew.place_of_ownTurns) once
  rw [Crew.turnsAt, List.filter_flatMap]
  exact congrArg calls.flatMap (funext calling)

theorem turnsAt_script {walker : Walker} (present : bench[place]? = some check)
    (once : walker.places.count place = 1) (root : Tree) (file : String) :
    Crew.turnsAt place (walker.script bench root file) =
      Crew.ownScript place check.core.registeredKinds root file := by
  have opening := Crew.turnsAt_opening once root file
  have walking := turnsAt_turnsOf present once root.calls
  have closing := Crew.turnsAt_closing once root
  simp only [Crew.turnsAt] at opening walking closing
  rw [Walker.script, Crew.script, Crew.map_fst_requests, Crew.turnsAt, List.filter_append,
    List.filter_append, opening, closing, Crew.walking, ← Tree.calls, walking]
  rfl

end Bench

end ShadowLint
