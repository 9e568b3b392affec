import ShadowLint.Proofs.Walk.Crew

/-!
Which callbacks a walk makes. The recursive description is a list of turns, the
script: each check is made ready in the order of registration, the tree is walked,
and each check finishes it (`Crew.script`). What drives the checks instead indexes
them by the kinds they ask for and works off a list of pending moves
(`Crew.process`). Both take the same turns (`Crew.process_eq`).
-/

namespace ShadowLint

namespace Crew

/-! ## The script -/

def opening (root : Tree) (file : String) (places : List Nat) : List Turn :=
  places.flatMap fun place => [⟨place, .clear⟩, ⟨place, .setFile file⟩, ⟨place, .begin root⟩]

def turnsOf (requests : List (Nat × KindSet)) (call : Call) : List Turn :=
  (Walker.listeners requests call.site.kind).map fun place => ⟨place, .call call⟩

def walking (requests : List (Nat × KindSet)) (ancestors : List Tree) (tree : Tree) : List Turn :=
  (tree.callsUnder ancestors).flatMap (turnsOf requests)

def closing (root : Tree) (places : List Nat) : List Turn :=
  places.map fun place => ⟨place, .finish root⟩

def script (requests : List (Nat × KindSet)) (root : Tree) (file : String) : List Turn :=
  opening root file (requests.map Prod.fst) ++
    (walking requests [] root ++ closing root (requests.map Prod.fst))

variable {State : Type} (crew : Crew State)

def requests (places : List Nat) (state : State) : List (Nat × KindSet) :=
  places.map fun place => (place, crew.registered state place)

@[simp] theorem map_fst_requests (places : List Nat) (state : State) :
    (crew.requests places state).map Prod.fst = places := by
  simp [requests, Function.comp_def]

theorem place_of_script {places : List Nat} {root : Tree} {file : String} {state : State}
    {turn : Turn} (member : turn ∈ script (crew.requests places state) root file) :
    turn.place ∈ places := by
  rw [script, map_fst_requests] at member
  rcases List.mem_append.mp member with opens | member
  · rcases List.mem_flatMap.mp opens with ⟨place, inside, isOpening⟩
    simp only [List.mem_cons, List.not_mem_nil, or_false] at isOpening
    rcases isOpening with rfl | rfl | rfl <;> exact inside
  · rcases List.mem_append.mp member with walks | closes
    · rcases List.mem_flatMap.mp walks with ⟨call, -, isCall⟩
      rcases List.mem_map.mp isCall with ⟨place, listens, rfl⟩
      rcases List.mem_map.mp listens with ⟨request, asks, rfl⟩
      rw [← crew.map_fst_requests places state]
      exact List.mem_map_of_mem (List.mem_filter.mp asks).1
    · rcases List.mem_map.mp closes with ⟨place, inside, rfl⟩
      exact inside

/-! ## Driving the checks -/

/-- What came of a walk: the checks, the notes, and the number of nodes with the
findings unless a callback failed. -/
structure Course (State : Type) where
  state : State
  journal : Journal
  answered : Except CheckFault (Nat × List Violation)

def courseOf (reached : Reached State) (answer : Nat × List Violation) : Course State :=
  ⟨reached.state, reached.journal, match reached.fault with
    | some fault => .error fault
    | none => .ok answer⟩

/-- Lets the checks finish a tree and gathers what each has found right after it. -/
def finishAll (root : Tree) : List Nat → State → Reached State × List Violation
  | [], state => (.done state, [])
  | place :: rest, state =>
    let finished := crew.answer ⟨place, .finish root⟩ state
    match finished.fault with
    | some _ => (finished, [])
    | none =>
      let others := finishAll root rest finished.state
      (others.1.notedAfter finished.journal, crew.violations finished.state place ++ others.2)

def traverse (requests : List (Nat × KindSet)) (root : Tree) (state : State) : Traversal State :=
  Traversal.ofTree (fun site => crew.run (turnsOf requests (.visit site)))
    (fun site => crew.run (turnsOf requests (.leave site))) root state

def process (places : List Nat) (root : Tree) (file : String) (state : State) : Course State :=
  let requests := crew.requests places state
  let opened := crew.run (opening root file places) state
  match opened.fault with
  | some fault => ⟨opened.state, opened.journal, .error fault⟩
  | none =>
    let traversal := crew.traverse requests root opened.state
    let walked := traversal.reached.notedAfter opened.journal
    match walked.fault with
    | some fault => ⟨walked.state, walked.journal, .error fault⟩
    | none =>
      let finished := crew.finishAll root places walked.state
      courseOf (finished.1.notedAfter walked.journal) (traversal.entered, finished.2)

/-! ## The script is followed -/

def found (moment : Moment State) : List Violation :=
  match moment.turn.callback with
  | .finish _ => crew.violations (crew.after moment).state moment.turn.place
  | _ => []

theorem traverse_reached (requests : List (Nat × KindSet)) (root : Tree) (state : State) :
    (crew.traverse requests root state).reached = crew.run (walking requests [] root) state := by
  rw [traverse, Traversal.ofTree_reached, makeAll_run, walking, Tree.calls]

theorem finishAll_reached (root : Tree) (places : List Nat) (state : State) :
    (crew.finishAll root places state).1 = crew.run (closing root places) state := by
  induction places generalizing state with
  | nil => rfl
  | cons place rest induction =>
    rw [finishAll, closing, List.map_cons]
    cases answers : (crew.answer ⟨place, .finish root⟩ state).fault with
    | some fault => rw [run_of_fault answers]
    | none =>
      rw [run_of_success answers]
      dsimp only
      rw [induction, closing]

theorem finishAll_found (root : Tree) (places : List Nat) (state : State)
    (succeeded : (crew.run (closing root places) state).fault = none) :
    (crew.finishAll root places state).2 =
      (crew.moments (closing root places) state).flatMap crew.found := by
  induction places generalizing state with
  | nil => rfl
  | cons place rest induction =>
    rw [closing, List.map_cons] at succeeded
    rw [finishAll, closing, List.map_cons]
    cases answers : (crew.answer ⟨place, .finish root⟩ state).fault with
    | some fault =>
      rw [run_of_fault answers, answers] at succeeded
      cases succeeded
    | none =>
      rw [run_of_success answers] at succeeded
      rw [moments_of_success answers, List.flatMap_cons]
      dsimp only
      rw [induction _ succeeded]
      rfl

theorem found_of_not_finish {turns : List Turn}
    (other : ∀ turn ∈ turns, ∀ root, turn.callback ≠ .finish root) (state : State) :
    (crew.moments turns state).flatMap crew.found = [] := by
  have nothing {moment : Moment State} (taken : moment ∈ crew.moments turns state) :
      crew.found moment = [] := by
    unfold found
    split
    · rename_i root finishes
      exact absurd finishes (other _ (crew.turn_of_moment taken) root)
    · rfl
  exact List.flatMap_eq_nil_iff.mpr fun moment => nothing

theorem found_opening (root : Tree) (file : String) (places : List Nat) (state : State) :
    (crew.moments (opening root file places) state).flatMap crew.found = [] := by
  apply found_of_not_finish
  intro turn member root finishes
  rcases List.mem_flatMap.mp member with ⟨place, -, isOpening⟩
  simp only [List.mem_cons, List.not_mem_nil, or_false] at isOpening
  rcases isOpening with rfl | rfl | rfl <;> cases finishes

theorem found_walking (requests : List (Nat × KindSet)) (ancestors : List Tree) (tree : Tree)
    (state : State) :
    (crew.moments (walking requests ancestors tree) state).flatMap crew.found = [] := by
  apply found_of_not_finish
  intro turn member root finishes
  rcases List.mem_flatMap.mp member with ⟨call, -, isCall⟩
  rcases List.mem_map.mp isCall with ⟨place, -, rfl⟩
  cases finishes

/-- Driving the checks takes the turns of the script. -/
theorem process_eq (places : List Nat) (root : Tree) (file : String) (state : State) :
    crew.process places root file state =
      let script := script (crew.requests places state) root file
      courseOf (crew.run script state)
        (root.size, (crew.moments script state).flatMap crew.found) := by
  dsimp only
  rw [process, script, map_fst_requests]
  dsimp only
  cases opens : (crew.run (opening root file places) state).fault with
  | some fault =>
    rw [run_append, Reached.andThen_of_fault opens]
    simp [courseOf, opens]
  | none =>
    rw [run_append, Reached.andThen_of_success opens, moments_append opens,
      List.flatMap_append, found_opening, List.nil_append]
    generalize crew.run (opening root file places) state = opened
    generalize crew.requests places state = requests
    have reached := crew.traverse_reached requests root opened.state
    cases walks : (crew.run (walking requests [] root) opened.state).fault with
    | some fault =>
      rw [run_append, Reached.andThen_of_fault walks, reached]
      simp [courseOf, walks, Reached.notedAfter]
    | none =>
      have entered : (crew.traverse requests root opened.state).entered = root.size :=
        Traversal.ofTree_entered _ _ root _ (reached ▸ walks)
      rw [run_append, Reached.andThen_of_success walks, moments_append walks,
        List.flatMap_append, found_walking, List.nil_append, reached, entered]
      generalize crew.run (walking requests [] root) opened.state = walked at walks
      dsimp only [Reached.notedAfter]
      rw [walks, finishAll_reached]
      cases closes : (crew.run (closing root places) walked.state).fault with
      | some fault => simp [courseOf]
      | none => simp [courseOf, closes, finishAll_found]

theorem process_noting (places : List Nat) (root : Tree) (file : String) (state : State) :
    crew.noting.process places root file (state, []) =
      let course := crew.process places root file state
      ⟨(course.state, crew.moments (script (crew.requests places state) root file) state),
        course.journal, course.answered⟩ := by
  have asked : crew.noting.requests places (state, []) = crew.requests places state := rfl
  have same : (crew.noting.moments (script (crew.requests places state) root file)
        (state, [])).flatMap crew.noting.found =
      (crew.moments (script (crew.requests places state) root file) state).flatMap crew.found := by
    rw [← moments_noting crew _ state [], List.flatMap_map]
    rfl
  rw [process_eq, process_eq, asked]
  dsimp only
  rw [run_noting, same]
  rfl

end Crew

end ShadowLint
