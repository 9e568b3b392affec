import ShadowLint.Contract
import ShadowLint.Journal
import ShadowLint.Template

/-!
What all checks have in common: the kinds of nodes they ask for, the severity of
their findings, the file they are at, and the findings themselves. A call of a
check that fails keeps what it did before it failed, so every call answers a
`Reached`: the state it came to, the entries it noted, and its fault if it has one.
-/

namespace ShadowLint

inductive CheckFault where
  | contract (error : ContractError)
  | template (fault : Template.Fault)

structure Reached (State : Type) where
  state : State
  journal : Journal
  fault : Option CheckFault

namespace Reached

def done {State : Type} (state : State) : Reached State := ⟨state, #[], none⟩

def refused {State : Type} (state : State) (fault : CheckFault) : Reached State :=
  ⟨state, #[], some fault⟩

def map {State Whole : Type} (reached : Reached State) (embed : State → Whole) :
    Reached Whole :=
  ⟨embed reached.state, reached.journal, reached.fault⟩

def andThen {State : Type} (reached : Reached State) (next : State → Reached State) :
    Reached State :=
  match reached.fault with
  | some _ => reached
  | none =>
    let second := next reached.state
    ⟨second.state, reached.journal ++ second.journal, second.fault⟩

@[simp] theorem andThen_done {State : Type} (state : State)
    (next : State → Reached State) : (done state).andThen next = next state := by
  simp [andThen, done]

theorem andThen_of_fault {State : Type} {reached : Reached State} {fault : CheckFault}
    (failed : reached.fault = some fault) (next : State → Reached State) :
    reached.andThen next = reached := by
  simp [andThen, failed]

def notedAfter {State : Type} (journal : Journal) (reached : Reached State) : Reached State :=
  ⟨reached.state, journal ++ reached.journal, reached.fault⟩

@[simp] theorem notedAfter_notedAfter {State : Type} (first second : Journal)
    (reached : Reached State) :
    (reached.notedAfter second).notedAfter first = reached.notedAfter (first ++ second) := by
  simp [notedAfter, Array.append_assoc]

@[simp] theorem notedAfter_empty {State : Type} (reached : Reached State) :
    reached.notedAfter #[] = reached := by
  simp [notedAfter]

theorem andThen_of_success {State : Type} {reached : Reached State}
    (succeeded : reached.fault = none) (next : State → Reached State) :
    reached.andThen next = (next reached.state).notedAfter reached.journal := by
  simp [andThen, succeeded, notedAfter]

theorem notedAfter_andThen {State : Type} (journal : Journal) (reached : Reached State)
    (next : State → Reached State) :
    (reached.notedAfter journal).andThen next = (reached.andThen next).notedAfter journal := by
  cases failed : reached.fault with
  | some fault =>
    have failedAfter : (reached.notedAfter journal).fault = some fault := failed
    rw [andThen_of_fault failed, andThen_of_fault failedAfter]
  | none =>
    have succeededAfter : (reached.notedAfter journal).fault = none := failed
    rw [andThen_of_success failed, andThen_of_success succeededAfter, notedAfter_notedAfter]
    rfl

theorem andThen_assoc {State : Type} (reached : Reached State)
    (second third : State → Reached State) :
    (reached.andThen second).andThen third =
      reached.andThen fun state => (second state).andThen third := by
  cases failed : reached.fault with
  | some fault => simp only [andThen_of_fault failed]
  | none => simp only [andThen_of_success failed, notedAfter_andThen]

theorem andThen_done_right {State : Type} (reached : Reached State) :
    reached.andThen done = reached := by
  cases failed : reached.fault with
  | some fault => exact andThen_of_fault failed done
  | none =>
    rw [andThen_of_success failed]
    simp [done, notedAfter, ← failed]

theorem map_andThen {State Whole : Type} (reached : Reached State)
    (next : State → Reached State) (embed : State → Whole) (whole : Whole → Reached Whole)
    (agree : ∀ state, whole (embed state) = (next state).map embed) :
    (reached.map embed).andThen whole = (reached.andThen next).map embed := by
  cases failed : reached.fault with
  | some fault => simp [andThen, map, failed]
  | none => simp [andThen, map, failed, agree]

end Reached

structure Profile where
  name : String
  sort : String
  messages : List (String × String)
  defaultKinds : KindSet
  /-- The kinds it may be restricted to. -/
  acceptableKinds : KindSet
  /-- The kinds it is given whatever it is restricted to. -/
  requiredKinds : KindSet

structure Core where
  profile : Profile
  /-- The kinds the check was restricted to, if it was. -/
  chosenKinds : Option KindSet
  severity : Severity
  file : String
  violations : Array Violation

namespace Core

def ofProfile (profile : Profile) : Core :=
  { profile, chosenKinds := none, severity := .error, file := "", violations := #[] }

def kinds (core : Core) : KindSet := core.chosenKinds.getD core.profile.defaultKinds

def registeredKinds (core : Core) : KindSet := core.kinds.union core.profile.requiredKinds

def describe (core : Core) : String := s!"<{core.profile.sort} '{core.profile.name}'>"

def clearViolations (core : Core) : Core := { core with violations := #[] }

/-- The template of a key; a key without one is its own template. -/
def templateOf (core : Core) (key : String) : String :=
  (core.profile.messages.lookup key).getD key

def findingAt (core : Core) (label : Label) (key : String) (arguments : List Value) :
    Except Template.Fault Violation :=
  (Template.fill (core.templateOf key) arguments).map fun message =>
    { line := label.line, column := label.column, key, arguments, message
      severity := core.severity, checkName := core.profile.name, file := core.file }

def report (core : Core) (label : Label) (key : String) (arguments : List Value) :
    Reached Core :=
  match core.findingAt label key arguments with
  | .error fault => .refused core (.template fault)
  | .ok violation =>
    ⟨{ core with violations := core.violations.push violation }, #[.reported violation], none⟩

end Core

end ShadowLint
