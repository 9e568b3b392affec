import ShadowLint.Check
import ShadowLint.Walk.Traversal

/-!
Driving checks over trees. Checks are kept on a bench and a walker knows its
checks by their places there, in the order in which they were registered and as
often as they were; several walkers may share a check. Which kinds of nodes a
check is given is settled when a walk begins.
-/

namespace ShadowLint

/-- The checks there are, by their places. -/
abbrev Bench := Array Check

namespace Bench

def callEach (call : Check → Reached Check) : (places : List Nat) → Bench → Reached Bench
  | [], bench => .done bench
  | place :: rest, bench =>
    match bench[place]? with
    | none => callEach call rest bench
    | some check =>
      ((call check).map (bench.set! place)).andThen (callEach call rest)

end Bench

/-- The checks that are driven together, by their places on the bench. -/
structure Walker where
  places : List Nat
  deriving DecidableEq, Repr, Inhabited

structure Walk where
  bench : Bench
  journal : Journal
  outcome : Except CheckFault (List Violation)

namespace Walker

def register (walker : Walker) (place : Nat) : Walker := ⟨walker.places ++ [place]⟩

def requests (walker : Walker) (bench : Bench) : List (Nat × KindSet) :=
  walker.places.filterMap fun place =>
    bench[place]?.map fun check => (place, check.core.registeredKinds)

def listeners (requests : List (Nat × KindSet)) (kind : Kind) : List Nat :=
  (requests.filter fun request => request.2.has kind).map Prod.fst

def prepareAll (walker : Walker) (root : Tree) (file : String) (bench : Bench) : Bench :=
  walker.places.foldl
    (fun bench place => bench.modify place fun check => check.prepare root file) bench

def finishAll (root : Tree) : (places : List Nat) → Bench → Bench × Journal × List Violation
  | [], bench => (bench, #[], [])
  | place :: rest, bench =>
    match bench[place]? with
    | none => finishAll root rest bench
    | some check =>
      let (finished, noted) := check.finishTree root
      let (bench, journal, violations) := finishAll root rest (bench.set! place finished)
      (bench, noted ++ journal, finished.core.violations.toList ++ violations)

def traverse (walker : Walker) (root : Tree) (bench : Bench) : Traversal Bench :=
  let requests := walker.requests bench
  Traversal.ofTree
    (fun site => Bench.callEach (·.visit site) (listeners requests site.kind))
    (fun site => Bench.callEach (·.leave site) (listeners requests site.kind))
    root bench

def process (walker : Walker) (bench : Bench) (root : Tree) (file : String) : Walk :=
  let traversal := walker.traverse root (walker.prepareAll root file bench)
  let reached := traversal.reached
  match reached.fault with
  | some fault => ⟨reached.state, reached.journal, .error fault⟩
  | none =>
    let (bench, journal, violations) := finishAll root walker.places reached.state
    let noted := reached.journal ++ journal
    ⟨bench, noted.push (.walked file traversal.entered violations.length), .ok violations⟩

def processAll (walker : Walker) (bench : Bench) (file : String) : (trees : List Tree) → Walk
  | [] => ⟨bench, #[], .ok []⟩
  | root :: rest =>
    let first := walker.process bench root file
    match first.outcome with
    | .error fault => ⟨first.bench, first.journal, .error fault⟩
    | .ok violations =>
      let others := walker.processAll first.bench file rest
      ⟨others.bench, first.journal ++ others.journal, others.outcome.map (violations ++ ·)⟩

end Walker

end ShadowLint
