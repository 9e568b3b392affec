import ShadowLint.CommandLine.Option
import ShadowLint.Severity

/-!
What a command line asks for. Words are dealt with from left to right: an option
takes effect at once, and the first words that are no options name the dumps;
such words further on are superfluous. Whoever asks for help or for the version
gets it as soon as the option is met, whatever is wrong after it.
-/

namespace ShadowLint.CommandLine

inductive Format where
  | text
  | json
  deriving DecidableEq, Repr

def Format.ofName? : String → Option Format
  | "text" => some .text
  | "json" => some .json
  | _ => none

/-- What a command line asks for; what it leaves open is `none`. -/
structure Arguments where
  dumps : List String
  config : Option String
  tokens : Option String
  ignoreFormat : Option String
  ignoreSetter : Option Bool
  ignoreConstructorParameter : Option Bool
  severity : Option Severity
  format : Format
  verbosity : Nat
  deriving DecidableEq, Repr

def Arguments.initial : Arguments :=
  { dumps := [], config := none, tokens := none, ignoreFormat := none, ignoreSetter := none
    ignoreConstructorParameter := none, severity := none, format := .text, verbosity := 0 }

inductive Stop where
  | help
  | version
  | usage
  deriving DecidableEq, Repr

def apply (arguments : Arguments) : Action → Except Stop Arguments
  | .help => .error .help
  | .version => .error .version
  | .verbose => .ok { arguments with verbosity := arguments.verbosity + 1 }
  | .ignoreSetter on => .ok { arguments with ignoreSetter := some on }
  | .ignoreConstructorParameter on =>
    .ok { arguments with ignoreConstructorParameter := some on }
  | _ => .error .usage

def applyTo (arguments : Arguments) (text : String) : Action → Except Stop Arguments
  | .config => .ok { arguments with config := some text }
  | .tokens => .ok { arguments with tokens := some text }
  | .ignoreFormat => .ok { arguments with ignoreFormat := some text }
  | .severity =>
    match Severity.ofName? text with
    | some severity => .ok { arguments with severity := some severity }
    | none => .error .usage
  | .format =>
    match Format.ofName? text with
    | some format => .ok { arguments with format }
    | none => .error .usage
  | _ => .error .usage

/-- The short options that share a word with a first one, given the letters after
it, and whether something is left over at the first letter that is no option. None
of them takes an argument, so that a dash or an equals sign among the letters is
out of place, and then there is no answer. -/
def cluster? : (letters : List Char) → Option (List Action × Bool)
  | [] => none
  | letter :: rest =>
    if letter = '-' then none
    else
      match spellings.lookup ['-', letter] with
      | none => some ([], true)
      | some action =>
        match rest with
        | [] => some ([action], false)
        | '=' :: _ => none
        | _ :: _ => (cluster? rest).map fun (others, isLeft) => (action :: others, isLeft)

inductive DumpWords where
  | awaited
  | current
  | complete
  deriving DecidableEq, Repr

structure Progress where
  arguments : Arguments
  dumpWords : DumpWords
  superfluous : Bool
  deriving DecidableEq, Repr

namespace Progress

def initial : Progress := ⟨.initial, .awaited, false⟩

/-- No more dumps are named once an option follows one. -/
def endDumps (progress : Progress) : Progress :=
  match progress.dumpWords with
  | .current => { progress with dumpWords := .complete }
  | _ => progress

def addPlain (progress : Progress) (text : String) : Progress :=
  match progress.dumpWords with
  | .complete => { progress with superfluous := true }
  | _ =>
    let dumps := progress.arguments.dumps ++ [text]
    { progress with
      arguments := { progress.arguments with dumps }
      dumpWords := .current }

def addSeparator (progress : Progress) : Progress :=
  { progress with superfluous := progress.superfluous || progress.dumpWords = .complete }

def addAttached (progress : Progress) (given : Given) (attached : Attached) :
    Except Stop Progress := do
  if given.action.takesArgument then
    let text := String.ofList attached.text
    let arguments ← applyTo progress.arguments text given.action
    return { progress with arguments }
  else if given.isShort && !attached.afterSign then
    match cluster? attached.text with
    | none => throw .usage
    | some (others, isLeft) =>
      let arguments ← (given.action :: others).foldlM apply progress.arguments
      return { progress with arguments, superfluous := progress.superfluous || isLeft }
  else throw .usage

def read (progress : Progress) : List Word → Except Stop Progress
  | [] => .ok progress
  | .plain text :: rest => (progress.addPlain text).read rest
  | .separator :: rest => progress.addSeparator.read rest
  | .unknownOption :: rest => { progress.endDumps with superfluous := true }.read rest
  | .option given :: rest =>
    let progress := progress.endDumps
    match given.attached with
    | some attached => do (← progress.addAttached given attached).read rest
    | none =>
      if given.action.takesArgument then
        match rest with
        | .plain text :: rest => do
          let arguments ← applyTo progress.arguments text given.action
          { progress with arguments }.read rest
        | _ => .error .usage
      else do
        let arguments ← apply progress.arguments given.action
        { progress with arguments }.read rest

end Progress

def Arguments.read (words : List String) : Except Stop Arguments :=
  match words? words with
  | none => .error .usage
  | some words =>
    match Progress.initial.read words with
    | .error stop => .error stop
    | .ok progress =>
      if progress.superfluous || progress.arguments.dumps.isEmpty then .error .usage
      else .ok progress.arguments

example : (Arguments.read ["a", "--tokens", "x", "-vv"]).toOption =
    some { Arguments.initial with dumps := ["a"], tokens := some "x", verbosity := 2 } := by
  decide +kernel

end ShadowLint.CommandLine
