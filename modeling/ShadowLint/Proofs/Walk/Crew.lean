import ShadowLint.Proofs.Walk.Calls
import ShadowLint.Walk.Walker

/-!
The callbacks of a walk, to checks of any sort. A crew says what its checks ask
for, what a callback to one of them does, and what they have found; a callback may
do anything to the checks and may fail. Turns are taken in order, up to the first
that fails (`Crew.run`), and the moments of a run say which turns were taken and
what there was when they were (`Crew.moments`).
-/

namespace ShadowLint

inductive Callback where
  | clear
  | setFile (file : String)
  | begin (root : Tree)
  | call (call : Call)
  | finish (root : Tree)

structure Turn where
  place : Nat
  callback : Callback

structure Crew (State : Type) where
  registered : State → Nat → KindSet
  answer : Turn → State → Reached State
  violations : State → Nat → List Violation

/-- A turn, and what there is when it is taken. -/
structure Moment (State : Type) where
  state : State
  turn : Turn

namespace Crew

variable {State : Type} (crew : Crew State)

def run : List Turn → State → Reached State
  | [], state => .done state
  | turn :: rest, state => (crew.answer turn state).andThen (run rest)

/-- The turns that are taken, the one that fails included. -/
def moments : List Turn → State → List (Moment State)
  | [], _ => []
  | turn :: rest, state =>
    let reached := crew.answer turn state
    ⟨state, turn⟩ ::
      match reached.fault with
      | some _ => []
      | none => moments rest reached.state

def after (moment : Moment State) : Reached State := crew.answer moment.turn moment.state

/-- The same checks, with every turn noted when it is taken. -/
def noting : Crew (State × List (Moment State)) where
  registered noted place := crew.registered noted.1 place
  answer turn noted :=
    (crew.answer turn noted.1).map fun state => (state, noted.2 ++ [⟨noted.1, turn⟩])
  violations noted place := crew.violations noted.1 place

/-! ## Runs -/

theorem run_cons (turn : Turn) (rest : List Turn) (state : State) :
    crew.run (turn :: rest) state = (crew.answer turn state).andThen (crew.run rest) := rfl

variable {crew} in
theorem run_of_success {turn : Turn} {state : State}
    (succeeded : (crew.answer turn state).fault = none) (rest : List Turn) :
    crew.run (turn :: rest) state =
      (crew.run rest (crew.answer turn state).state).notedAfter (crew.answer turn state).journal :=
  Reached.andThen_of_success succeeded _

variable {crew} in
theorem run_of_fault {turn : Turn} {state : State} {fault : CheckFault}
    (failed : (crew.answer turn state).fault = some fault) (rest : List Turn) :
    crew.run (turn :: rest) state = crew.answer turn state :=
  Reached.andThen_of_fault failed _

/-- Runs go turn by turn: one ends, a turn in it fails, or it goes on from where the
turn has led. -/
@[elab_as_elim]
theorem run_induction {motive : List Turn → State → Prop} (ended : ∀ state, motive [] state)
    (failing : ∀ turn rest state fault, (crew.answer turn state).fault = some fault →
      motive (turn :: rest) state)
    (going : ∀ turn rest state, (crew.answer turn state).fault = none →
      motive rest (crew.answer turn state).state → motive (turn :: rest) state)
    (turns : List Turn) (state : State) : motive turns state := by
  induction turns generalizing state with
  | nil => exact ended state
  | cons turn rest induction =>
    cases answers : (crew.answer turn state).fault with
    | some fault => exact failing turn rest state fault answers
    | none => exact going turn rest state answers (induction _)

theorem run_append (first second : List Turn) (state : State) :
    crew.run (first ++ second) state = (crew.run first state).andThen (crew.run second) := by
  induction first generalizing state with
  | nil => exact (Reached.andThen_done state _).symm
  | cons turn rest induction =>
    rw [List.cons_append, run_cons, run_cons, Reached.andThen_assoc]
    congr 1
    funext after
    exact induction after

theorem makeAll_run (turns : Call → List Turn) (calls : List Call) (state : State) :
    Call.makeAll (fun site => crew.run (turns (.visit site)))
        (fun site => crew.run (turns (.leave site))) calls state =
      crew.run (calls.flatMap turns) state := by
  induction calls generalizing state with
  | nil => rfl
  | cons call rest induction =>
    have first : call.make (fun site => crew.run (turns (.visit site)))
        (fun site => crew.run (turns (.leave site))) state = crew.run (turns call) state := by
      cases call <;> rfl
    rw [List.flatMap_cons, run_append, Call.makeAll_cons, first]
    congr 1
    funext after
    exact induction after

/-! ## Moments -/

variable {crew} in
theorem moments_of_success {turn : Turn} {state : State}
    (succeeded : (crew.answer turn state).fault = none) (rest : List Turn) :
    crew.moments (turn :: rest) state =
      ⟨state, turn⟩ :: crew.moments rest (crew.answer turn state).state := by
  simp only [moments, succeeded]

variable {crew} in
theorem moments_of_fault {turn : Turn} {state : State} {fault : CheckFault}
    (failed : (crew.answer turn state).fault = some fault) (rest : List Turn) :
    crew.moments (turn :: rest) state = [⟨state, turn⟩] := by
  simp only [moments, failed]

variable {crew} in
theorem moments_append {first : List Turn} {state : State}
    (succeeded : (crew.run first state).fault = none) (second : List Turn) :
    crew.moments (first ++ second) state =
      crew.moments first state ++ crew.moments second (crew.run first state).state := by
  induction first, state using crew.run_induction with
  | ended state => rfl
  | failing turn rest state fault fails =>
    rw [run_of_fault fails, fails] at succeeded
    cases succeeded
  | going turn rest state answers induction =>
    rw [run_of_success answers] at succeeded ⊢
    rw [List.cons_append, moments_of_success answers, moments_of_success answers,
      List.cons_append, induction succeeded]
    rfl

variable {crew} in
theorem moments_append_of_fault {first : List Turn} {state : State} {fault : CheckFault}
    (failed : (crew.run first state).fault = some fault) (second : List Turn) :
    crew.moments (first ++ second) state = crew.moments first state := by
  induction first, state using crew.run_induction with
  | ended state => cases failed
  | failing turn rest state fault fails =>
    rw [List.cons_append, moments_of_fault fails, moments_of_fault fails]
  | going turn rest state answers induction =>
    rw [run_of_success answers] at failed
    rw [List.cons_append, moments_of_success answers, moments_of_success answers,
      induction failed]

theorem run_noting (turns : List Turn) (state : State) (noted : List (Moment State)) :
    crew.noting.run turns (state, noted) =
      (crew.run turns state).map fun after => (after, noted ++ crew.moments turns state) := by
  induction turns, state using crew.run_induction generalizing noted with
  | ended state => simp [run, moments, Reached.done, Reached.map]
  | failing turn rest state fault fails =>
    have failsToo : (crew.noting.answer turn (state, noted)).fault = some fault := fails
    rw [moments_of_fault fails, run_of_fault fails, run_of_fault failsToo]
    rfl
  | going turn rest state answers induction =>
    have answersToo : (crew.noting.answer turn (state, noted)).fault = none := answers
    have after : (crew.noting.answer turn (state, noted)).state =
        ((crew.answer turn state).state, noted ++ [⟨state, turn⟩]) := rfl
    rw [moments_of_success answers, run_of_success answers, run_of_success answersToo, after,
      induction, List.append_assoc]
    rfl

theorem moments_noting (turns : List Turn) (state : State) (noted : List (Moment State)) :
    (crew.noting.moments turns (state, noted)).map (fun moment => ⟨moment.state.1, moment.turn⟩) =
      crew.moments turns state := by
  induction turns, state using crew.run_induction generalizing noted with
  | ended state => rfl
  | failing turn rest state fault fails =>
    have failsToo : (crew.noting.answer turn (state, noted)).fault = some fault := fails
    rw [moments_of_fault fails, moments_of_fault failsToo]
    rfl
  | going turn rest state answers induction =>
    have answersToo : (crew.noting.answer turn (state, noted)).fault = none := answers
    rw [moments_of_success answers, moments_of_success answersToo, List.map_cons]
    exact congrArg _ (induction _)

variable {turns : List Turn} {state : State}

theorem turns_of_success (succeeded : (crew.run turns state).fault = none) :
    (crew.moments turns state).map Moment.turn = turns ∧
      ∀ moment ∈ crew.moments turns state, (crew.after moment).fault = none := by
  induction turns, state using crew.run_induction with
  | ended state => simp [moments]
  | failing turn rest state fault fails =>
    rw [run_of_fault fails, fails] at succeeded
    cases succeeded
  | going turn rest state answers induction =>
    rw [run_of_success answers] at succeeded
    rcases induction succeeded with ⟨turns, others⟩
    rw [moments_of_success answers]
    exact ⟨congrArg _ turns, List.forall_mem_cons.mpr ⟨answers, others⟩⟩

theorem turns_of_fault {fault : CheckFault} (failed : (crew.run turns state).fault = some fault) :
    ∃ earlier last later, crew.moments turns state = earlier ++ [last] ∧
      turns = (earlier ++ [last]).map Moment.turn ++ later ∧
      (crew.after last).fault = some fault ∧
      ∀ moment ∈ earlier, (crew.after moment).fault = none := by
  induction turns, state using crew.run_induction with
  | ended state => cases failed
  | failing turn rest state cause fails =>
    rw [run_of_fault fails] at failed
    rw [moments_of_fault fails]
    exact ⟨[], ⟨state, turn⟩, rest, rfl, rfl, failed, by simp⟩
  | going turn rest state answers induction =>
    rw [run_of_success answers] at failed
    rcases induction failed with ⟨earlier, last, later, taken, split, fails, others⟩
    rw [moments_of_success answers, taken, split]
    exact ⟨⟨state, turn⟩ :: earlier, last, later, rfl, by simp, fails,
      List.forall_mem_cons.mpr ⟨answers, others⟩⟩

theorem turn_of_moment {moment : Moment State} (taken : moment ∈ crew.moments turns state) :
    moment.turn ∈ turns := by
  induction turns, state using crew.run_induction with
  | ended state => cases taken
  | failing turn rest state fault fails =>
    rw [moments_of_fault fails, List.mem_singleton] at taken
    exact taken ▸ List.mem_cons_self
  | going turn rest state answers induction =>
    rw [moments_of_success answers] at taken
    rcases List.mem_cons.mp taken with first | later
    · exact first ▸ List.mem_cons_self
    · exact List.mem_cons_of_mem _ (induction later)

theorem moment_of_entry {entry : Entry} (noted : entry ∈ (crew.run turns state).journal) :
    ∃ moment ∈ crew.moments turns state, entry ∈ (crew.after moment).journal := by
  induction turns, state using crew.run_induction with
  | ended state => simp [run, Reached.done] at noted
  | failing turn rest state fault fails =>
    rw [run_of_fault fails] at noted
    exact ⟨⟨state, turn⟩, List.mem_cons_self, noted⟩
  | going turn rest state answers induction =>
    rw [run_of_success answers, Reached.notedAfter, Array.mem_append] at noted
    rcases noted with here | later
    · exact ⟨⟨state, turn⟩, List.mem_cons_self, here⟩
    · rcases induction later with ⟨moment, taken, inside⟩
      rw [moments_of_success answers]
      exact ⟨moment, List.mem_cons_of_mem _ taken, inside⟩

/-- What every turn keeps holds whenever a turn is taken, and in the end. -/
theorem run_keeps {Holds : State → Prop}
    (keeps : ∀ turn state, Holds state → Holds (crew.answer turn state).state)
    (holds : Holds state) :
    (∀ moment ∈ crew.moments turns state, Holds moment.state) ∧
      Holds (crew.run turns state).state := by
  induction turns, state using crew.run_induction with
  | ended state => exact ⟨by simp [moments], holds⟩
  | failing turn rest state fault fails =>
    rw [moments_of_fault fails, run_of_fault fails]
    exact ⟨by simpa using holds, keeps turn state holds⟩
  | going turn rest state answers induction =>
    rw [moments_of_success answers, run_of_success answers]
    rcases induction (keeps turn state holds) with ⟨others, final⟩
    exact ⟨List.forall_mem_cons.mpr ⟨holds, others⟩, final⟩

end Crew

end ShadowLint
