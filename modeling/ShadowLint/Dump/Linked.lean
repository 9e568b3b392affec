import ShadowLint.Dump.Forest
import ShadowLint.Tree.Arena

/-!
Loading a dump as linked nodes. The nodes are made while the written trees are gone through,
each after its children, which it then adopts in order. A text is refused for what it is
refused for where only its trees are asked for.
-/

namespace ShadowLint.Dump

mutual

def build (arena : Arena) : Written → Except Flaw (Arena × Nat)
  | .node name fromName attributes children =>
    match Kind.ofName? (String.ofList name) with
    | none => .error (.unknownKind name fromName)
    | some kind =>
      match readingOf ⟨[], 0, 0⟩ attributes with
      | .error flaw => .error flaw
      | .ok reading =>
        match buildAll arena children with
        | .error flaw => .error flaw
        | .ok (arena, numbers) =>
          let (arena, root) :=
            arena.make (.make kind (String.ofList reading.text) reading.line reading.column) none
          .ok (numbers.foldl (fun arena child => arena.adopt root child) arena, root)

def buildAll (arena : Arena) : List Written → Except Flaw (Arena × List Nat)
  | [] => .ok (arena, [])
  | written :: rest =>
    match build arena written with
    | .error flaw => .error flaw
    | .ok (arena, root) =>
      match buildAll arena rest with
      | .error flaw => .error flaw
      | .ok (arena, roots) => .ok (arena, root :: roots)

end

def Flaw.error (text : List Char) : Flaw → DumpError
  | unknownKind name fromName => .unknownKind (String.ofList name) (placeOfRest text fromName)
  | numberTooLong digits => .numberTooLong digits

def loadLinked (text : List Char) : Except DumpError (Arena × List Nat) :=
  match checkNesting text with
  | .error error => .error error
  | .ok _ =>
    match readForest text with
    | (written, []) => (buildAll .empty written).mapError (Flaw.error text)
    | (_, rest) => .error (.extraText (placeOfRest text rest))

end ShadowLint.Dump
