import ShadowLint.Dump.Forest
import ShadowLint.File.Fault
import ShadowLint.File.Path
import ShadowLint.Journal
import ShadowLint.Text.Encoding

/-!
Dumps in files. A file is found first, then its encoding is, then its bytes are
read as text, and then its text as a dump.
-/

namespace ShadowLint

inductive LoadFault where
  | file (fault : FileFault)
  | unknownEncoding (name : String)
  | dump (source : String) (error : DumpError)

namespace Dump

def loadNoted (source : String) (text : List Char) :
    Journal × Except LoadFault (List Tree) :=
  match checkNesting text with
  | .error error => (#[], .error (.dump source error))
  | .ok depth =>
    match treesOf text with
    | .error error => (#[.nested source depth], .error (.dump source error))
    | .ok trees => (#[.nested source depth, .loaded source trees.length], .ok trees)

def encodingOf : Option String → Except LoadFault Text.Encoding
  | none => .ok .utf8
  | some name =>
    match Text.Encoding.ofName? name with
    | some encoding => .ok encoding
    | none => .error (.unknownEncoding name)

def textOfFile (files : Files) (path : String) (encodingName : Option String) :
    Except LoadFault (List Char) := do
  let bytes ← (files.read path).mapError .file
  let encoding ← encodingOf encodingName
  match encoding.decode bytes with
  | .ok chars => return Text.unifyLineEnds chars
  | .error fault =>
    throw (.dump path (.undecodable (encodingName.getD "None") fault.cause.reason))

def loadFile (files : Files) (path : String) (encodingName : Option String) :
    Journal × Except LoadFault (List Tree) :=
  let source := normalPath path
  match textOfFile files source encodingName with
  | .error fault => (#[], .error fault)
  | .ok text => loadNoted source text

end Dump

end ShadowLint
