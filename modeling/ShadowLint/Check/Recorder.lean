import ShadowLint.Check.Core

/-!
A check that records the calls it gets, and on request reports every node that it
visits.
-/

namespace ShadowLint

inductive Phase where
  | begin
  | visit
  | leave
  | finish
  deriving DecidableEq, Repr

def Phase.name : Phase → String
  | begin => "begin"
  | visit => "visit"
  | leave => "leave"
  | finish => "finish"

structure Recorder where
  core : Core
  /-- The key under which visited nodes are reported, if they are. -/
  key : Option String
  events : Array (Phase × Label)

namespace Recorder

def record (check : Recorder) (phase : Phase) (label : Label) : Recorder :=
  { check with events := check.events.push (phase, label) }

def visit (check : Recorder) (site : Site) : Reached Recorder :=
  let recorded := check.record .visit site.label
  match check.key with
  | none => .done recorded
  | some key =>
    (recorded.core.report site.label key [.text site.label.text, .int site.label.line]).map
      fun core => { recorded with core }

def leave (check : Recorder) (site : Site) : Reached Recorder :=
  .done (check.record .leave site.label)

end Recorder

end ShadowLint
