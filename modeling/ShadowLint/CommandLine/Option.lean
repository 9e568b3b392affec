import ShadowLint.Text.Alphanumeric

/-!
The options of the command line and the words they are given by. Long options may
be cut short as long as only one begins that way, an argument may follow a long
option after an equals sign, and short options may share a word. A word that
looks like a negative number, or holds a space, is no option unless it spells one.
-/

namespace ShadowLint.CommandLine

inductive Action where
  | help
  | version
  | verbose
  | config
  | tokens
  | ignoreFormat
  | ignoreSetter (on : Bool)
  | ignoreConstructorParameter (on : Bool)
  | severity
  | format
  deriving DecidableEq, Repr

def Action.takesArgument : Action → Bool
  | config | tokens | ignoreFormat | severity | format => true
  | _ => false

def spellings : List (List Char × Action) := [
  ("-h".toList, .help), ("--help".toList, .help),
  ("--config".toList, .config),
  ("--tokens".toList, .tokens),
  ("--ignore-format".toList, .ignoreFormat),
  ("--ignore-setter".toList, .ignoreSetter true),
  ("--no-ignore-setter".toList, .ignoreSetter false),
  ("--ignore-constructor-parameter".toList, .ignoreConstructorParameter true),
  ("--no-ignore-constructor-parameter".toList, .ignoreConstructorParameter false),
  ("--severity".toList, .severity),
  ("--format".toList, .format),
  ("-v".toList, .verbose), ("--verbose".toList, .verbose),
  ("--version".toList, .version)]

structure Attached where
  /-- An equals sign stands before it. -/
  afterSign : Bool
  text : List Char
  deriving DecidableEq, Repr

structure Given where
  action : Action
  isShort : Bool
  attached : Option Attached
  deriving DecidableEq, Repr

inductive Word where
  | plain (text : String)
  /-- Two dashes, after which no word is an option. -/
  | separator
  | option (given : Given)
  | unknownOption
  deriving DecidableEq, Repr

def givenAs (spelling : List Char) (action : Action) (attached : Option Attached) : Given :=
  { action, isShort := spelling[1]? != some '-', attached }

def splitAtSign (word : List Char) : List Char × Option Attached :=
  match word.dropWhile (· ≠ '=') with
  | [] => (word, none)
  | _ :: after => (word.takeWhile (· ≠ '='), some ⟨true, after⟩)

/-- The options that a word which spells none may stand for: those of two dashes
which begin with the word, or the one of a single dash which the word begins with. -/
def candidates (word : List Char) : List Given :=
  if "--".toList.isPrefixOf word then
    let (start, attached) := splitAtSign word
    (spellings.filter fun (spelling, _) => start.isPrefixOf spelling).map
      fun (spelling, action) => givenAs spelling action attached
  else
    (spellings.filter fun (spelling, _) => spelling = word.take 2).map
      fun (spelling, action) => givenAs spelling action (some ⟨false, word.drop 2⟩)

/-- Is the text after the dash a number, perhaps with a line feed at its end? -/
def isNumber (text : List Char) : Bool :=
  let whole := text.takeWhile Text.isDecimalDigit
  let isEnd (rest : List Char) : Bool := rest = [] || rest = ['\n']
  match text.dropWhile Text.isDecimalDigit with
  | '.' :: rest =>
    (rest.head?.map Text.isDecimalDigit).getD false && isEnd (rest.dropWhile Text.isDecimalDigit)
  | rest => !whole.isEmpty && isEnd rest

/-- What a word is that begins with a dash and does not spell an option; `none` if
it may stand for several. -/
def unspelled? (word : List Char) : Option Word :=
  match candidates word with
  | [given] => some (.option given)
  | [] =>
    if isNumber word.tail || word.contains ' ' then some (.plain (String.ofList word))
    else some .unknownOption
  | _ => none

def word? (text : String) : Option Word :=
  let word := text.toList
  match word with
  | '-' :: _ =>
    match spellings.lookup word with
    | some action => some (.option (givenAs word action none))
    | none =>
      if word = ['-'] then some (.plain text)
      else
        match splitAtSign word with
        | (spelling, some attached) =>
          match spellings.lookup spelling with
          | some action => some (.option (givenAs spelling action (some attached)))
          | none => unspelled? word
        | (_, none) => unspelled? word
  | _ => some (.plain text)

def words? : List String → Option (List Word)
  | [] => some []
  | "--" :: rest => some (.separator :: rest.map .plain)
  | text :: rest =>
    match word? text with
    | none => none
    | some word => (words? rest).map (word :: ·)

example : words? ["--conf=a", "-vv", "b", "--", "-v"] = some [
    .option ⟨.config, false, some ⟨true, ['a']⟩⟩, .option ⟨.verbose, true, some ⟨false, ['v']⟩⟩,
    .plain "b", .separator, .plain "-v"] := by decide +kernel

end ShadowLint.CommandLine
