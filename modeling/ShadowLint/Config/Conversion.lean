import ShadowLint.Config.Error
import ShadowLint.Pattern.Reader

/-!
What the values of properties mean: booleans, lists of kinds, severities and
patterns of names. A value that means nothing is refused with a cause; a value
of a sort that the property was never meant for has a fault of its own.
-/

namespace ShadowLint

inductive SettingFault where
  | refused (error : ConfigurationError)
  | notText
  | notList
  /-- The pattern is beyond what can be read. -/
  | unreadablePattern (fault : Pattern.Fault)

namespace Conversion

/-! ## Booleans -/

/-- The boolean meant by a word: case and surrounding white space do not matter. -/
def wordMeaning? (text : String) : Option Bool :=
  let word := Text.lowercase (Text.trim text)
  if ["true", "yes", "on", "1"].contains word then some true
  else if ["false", "no", "off", "0"].contains word then some false
  else none

def toBool (property : String) : Value → Except ConfigurationError Bool
  | .bool value => .ok value
  | value =>
    match wordMeaning? value.plain with
    | some meaning => .ok meaning
    | none => .error (.notBoolean property value)

example : (toBool "p" (.text " Yes\n")).toOption = some true := by decide +kernel

/-! ## Lists of names -/

/-- The names among the entries of a list: surrounding white space does not
matter, and blank entries count for nothing. -/
def namesAmong (entries : List String) : List String :=
  (entries.map Text.trim).filter (· ≠ "")

def partsBetweenCommas : List Char → List (List Char)
  | [] => [[]]
  | char :: rest =>
    match partsBetweenCommas rest with
    | [] => [[char]]
    | part :: others => if char = ',' then [] :: part :: others else (char :: part) :: others

def textsOf : List Value → Except SettingFault (List String)
  | [] => .ok []
  | .text text :: rest => (textsOf rest).map (text :: ·)
  | _ :: _ => .error .notText

def toNames : Value → Except SettingFault (List String)
  | .text text => .ok (namesAmong ((partsBetweenCommas text.toList).map String.ofList))
  | .list items => (textsOf items).map namesAmong
  | .object members => .ok (namesAmong (members.map Prod.fst))
  | _ => .error .notList

example : (toNames (.text " A, ,B ")).toOption = some ["A", "B"] := by decide +kernel

/-! ## Severities -/

def severityOf (text : String) : Except ConfigurationError Severity :=
  match Severity.ofText? text with
  | some severity => .ok severity
  | none => .error (.unknownSeverity text)

def toSeverity : Value → Except SettingFault Severity
  | .text text => (severityOf text).mapError .refused
  | _ => .error .notText

/-! ## Kinds -/

def kindOf (name : String) : Except ConfigurationError Kind :=
  match Kind.ofName? (Text.trim name) with
  | some kind => .ok kind
  | none => .error (.unknownKind name)

/-! ## Patterns -/

/-- The text of a pattern in a value; nothing stands for the empty text. -/
def toPatternText : Value → String
  | .null => ""
  | value => value.plain

end Conversion

end ShadowLint
