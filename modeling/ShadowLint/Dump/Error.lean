import ShadowLint.Report
import ShadowLint.Json.Reader
import ShadowLint.Text.Place

/-!
Why a dump is refused.
-/

namespace ShadowLint

inductive DumpError where
  | tooDeep (limit : Nat) (place : Text.Place)
  /-- After the last complete tree and its layout there is more text. -/
  | extraText (place : Text.Place)
  | unknownKind (name : String) (place : Text.Place)
  | numberTooLong (digits : Nat)
  | notOneTree (count : Nat)
  | undecodable (encoding : String) (reason : String)
  deriving DecidableEq, Repr

namespace DumpError

def code : DumpError → Code
  | tooDeep _ _ => .dumpTooDeep
  | unknownKind _ _ => .dumpUnknownToken
  | undecodable _ _ => .dumpEncoding
  | _ => .dumpSyntax

/-- The text of the report. A number that is too long is reported without the tree of
matches, from the start of the dump down to the number, that its parser would add. -/
def text : DumpError → String
  | tooDeep limit _ => s!"tree nested more than {limit} levels deep"
  | extraText _ => "unexpected text after the last complete tree"
  | unknownKind name _ => s!"unknown token name {Text.quoted name}"
  | numberTooLong digits => s!"cannot build tree: ValueError: {Json.tooManyDigits digits}"
  | notOneTree count => s!"expected exactly one tree, found {count}"
  | undecodable encoding reason => s!"cannot decode dump as {encoding}: {reason}"

/-- The place of the error; line and column zero where there is none. -/
def place : DumpError → Text.Place
  | tooDeep _ place => place
  | extraText place => place
  | unknownKind _ place => place
  | _ => ⟨0, 0⟩

def report (source : String) (error : DumpError) : Report :=
  { code := error.code, text := error.text, hint := ""
    detail := .dump source error.place.line error.place.column }

end DumpError

end ShadowLint
