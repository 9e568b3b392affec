import ShadowLint.CommandLine.Arguments
import ShadowLint.Config.File
import ShadowLint.Fault
import ShadowLint.Walk.Walker

/-!
Running the command line. The checks are built from the configuration file and the
options, every dump is loaded and walked in order, and only when all of that went
well are the findings written out. The exit code tells whether something failed,
and otherwise whether there is a finding of the most serious kind.
-/

namespace ShadowLint.CommandLine

/-! ## Checks -/

def Arguments.overrides (arguments : Arguments) : List (String × Value) :=
  let given {Content : Type} (property : Property) (content : Option Content)
      (toValue : Content → Value) : List (String × Value) :=
    (content.map fun content => (property.name, toValue content)).toList
  given .tokens arguments.tokens .text ++
    given .ignoreFormat arguments.ignoreFormat .text ++
    given .ignoreSetter arguments.ignoreSetter .bool ++
    given .ignoreConstructorParameter arguments.ignoreConstructorParameter .bool ++
    given .severity arguments.severity fun severity => .text severity.name

def overridden (properties overrides : List (String × Value)) : List (String × Value) :=
  overrides.foldl (fun properties entry => putMember properties entry.1 entry.2) properties

/-- The configurations with the overrides for the check for hidden fields, which is
added if it is not among them. -/
def withOverrides (overrides : List (String × Value)) : List CheckConfig → List CheckConfig
  | [] => [⟨HiddenField.profile.name, overrides⟩]
  | config :: rest =>
    if config.name = HiddenField.profile.name then
      { config with properties := overridden config.properties overrides } :: rest
    else config :: withOverrides overrides rest

def Arguments.configured (arguments : Arguments) (files : Files) :
    Except ConfigurationError (List CheckConfig) :=
  match arguments.config with
  | none => .ok []
  | some path => if path = "" then .ok [] else Config.load files path

def Arguments.checkConfigs (arguments : Arguments) (files : Files) :
    Except ConfigurationError (List CheckConfig) :=
  (arguments.configured files).map (withOverrides arguments.overrides)

structure Noted (Result : Type) where
  journal : Journal
  result : Except Fault Result

namespace Noted

def andThen {First Second : Type} (first : Noted First) (next : First → Noted Second) :
    Noted Second :=
  match first.result with
  | .error fault => ⟨first.journal, .error fault⟩
  | .ok value =>
    let second := next value
    ⟨first.journal ++ second.journal, second.result⟩

end Noted

def createCheck (config : CheckConfig) : Noted Check :=
  match Registry.standard.create config with
  | .error error => ⟨#[], .error (.configuration error)⟩
  | .ok configured =>
    ⟨configured.journal,
      match configured.fault with
      | some fault => .error (.setting fault)
      | none => .ok configured.check⟩

def createChecks : List CheckConfig → Noted (List Check)
  | [] => ⟨#[], .ok []⟩
  | config :: rest =>
    (createCheck config).andThen fun check =>
      (createChecks rest).andThen fun checks => ⟨#[], .ok (check :: checks)⟩

def Arguments.checks (arguments : Arguments) (files : Files) : Noted (List Check) :=
  match arguments.checkConfigs files with
  | .error error => ⟨#[], .error (.configuration error)⟩
  | .ok configs => createChecks configs

/-! ## Dumps -/

def walkDump (files : Files) (walker : Walker) (bench : Bench) (path : String) :
    Noted (Bench × List Violation) :=
  let (loading, loaded) := Dump.loadFile files path (some "utf-8")
  let noted : Journal := #[.checking path] ++ loading
  match loaded with
  | .error fault => ⟨noted, .error (.load fault)⟩
  | .ok trees =>
    let walk := walker.processAll bench path trees
    ⟨noted ++ walk.journal,
      match walk.outcome with
      | .error fault => .error (.check fault)
      | .ok violations => .ok (walk.bench, violations)⟩

def walkDumps (files : Files) (walker : Walker) (bench : Bench) :
    (paths : List String) → Noted (List Violation)
  | [] => ⟨#[], .ok []⟩
  | path :: rest =>
    (walkDump files walker bench path).andThen fun (bench, violations) =>
      (walkDumps files walker bench rest).andThen fun others =>
        ⟨#[], .ok (violations ++ others)⟩

def Arguments.findings (arguments : Arguments) (files : Files) : Noted (List Violation) :=
  (arguments.checks files).andThen fun checks =>
    let registered := checks.map fun check => Entry.registered check.core.describe
    (⟨registered.toArray, .ok ()⟩ : Noted Unit).andThen fun _ =>
      walkDumps files ⟨List.range checks.length⟩ checks.toArray arguments.dumps

/-! ## Endings -/

inductive Exit where
  | clean
  | violations
  | failure
  deriving DecidableEq, Repr

def Exit.code : Exit → Nat
  | clean => 0
  | violations => 1
  | failure => 2

inductive Ending where
  | exited (exit : Exit) (output : List String)
  /-- Something went wrong that has no report. -/
  | aborted (fault : Fault)

def Format.line (format : Format) (violation : Violation) : String :=
  match format with
  | .text => violation.toLine
  | .json => violation.toJson

def Format.lines (format : Format) (violations : List Violation) : List String :=
  (violations.filter fun violation => violation.severity ≠ .ignore).map format.line

def textOfLines (lines : List String) : String :=
  lines.foldl (fun whole line => whole ++ line ++ "\n") ""

def exitFor (violations : List Violation) : Exit :=
  if violations.any (·.severity == .error) then .violations else .clean

def failureMessage? (fault : Fault) : Option String :=
  match fault.report?, fault.file? with
  | some report, _ => some report.message
  | none, some file => some s!"cannot read input: {file.message}"
  | none, none => none

structure Run where
  journal : Journal
  ending : Ending

def Arguments.run (arguments : Arguments) (files : Files) : Run :=
  let findings := arguments.findings files
  match findings.result with
  | .ok violations =>
    ⟨findings.journal, .exited (exitFor violations) (arguments.format.lines violations)⟩
  | .error fault =>
    match failureMessage? fault with
    | some message => ⟨findings.journal.push (.failed message), .exited .failure []⟩
    | none => ⟨findings.journal, .aborted fault⟩

def Arguments.level (arguments : Arguments) : Level :=
  match arguments.verbosity with
  | 0 => .warning
  | 1 => .info
  | _ => .debug

def versionLine : String := "hiddenfield 0.1.0"

structure Shown where
  log : List Entry
  ending : Ending

def run (words : List String) (files : Files) : Shown :=
  match Arguments.read words with
  | .error .help => ⟨[], .exited .clean []⟩
  | .error .version => ⟨[], .exited .clean [versionLine]⟩
  | .error .usage => ⟨[], .exited .failure []⟩
  | .ok arguments =>
    let run := arguments.run files
    ⟨run.journal.atLeast arguments.level, run.ending⟩

end ShadowLint.CommandLine
