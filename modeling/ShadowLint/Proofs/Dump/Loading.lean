import ShadowLint.Dump.File

/-!
Loading a dump from a file: what is loaded is what the text of the file stands for
(`Dump.loadFile_of_read`), and a file that is missing is reported as such.
-/

namespace ShadowLint.Dump

variable {files : Files} {path : String}

theorem result_loadNoted (source : String) (text : List Char) :
    (loadNoted source text).2 = (loadTrees text).mapError (.dump source) := by
  rw [loadNoted, loadTrees]
  cases checkNesting text with
  | error error => rfl
  | ok depth => cases treesOf text <;> rfl

theorem encodingOf_utf8 : encodingOf (some "utf-8") = .ok .utf8 := by
  have known : Text.Encoding.ofName? "utf-8" = some .utf8 := by decide +kernel
  rw [encodingOf, known]

theorem loadFile_of_missing {encodingName : Option String} {fault : FileFault}
    (missing : files.read (normalPath path) = .error fault) :
    (loadFile files path encodingName).2 = .error (.file fault) := by
  have unread : textOfFile files (normalPath path) encodingName = .error (.file fault) := by
    rw [textOfFile, missing]
    rfl
  rw [loadFile, unread]

theorem textOfFile_of_read {bytes : List UInt8} (found : files.read path = .ok bytes) :
    textOfFile files path (some "utf-8") =
      match Text.Encoding.utf8.decode bytes with
      | .ok text => .ok (Text.unifyLineEnds text)
      | .error fault => .error (.dump path (.undecodable "utf-8" fault.cause.reason)) := by
  rw [textOfFile, found, encodingOf_utf8]
  rfl

theorem loadFile_of_read {bytes : List UInt8} {text : List Char} {trees : List Tree}
    (found : files.read (normalPath path) = .ok bytes)
    (decoded : Text.Encoding.utf8.decode bytes = .ok text)
    (loaded : loadTrees (Text.unifyLineEnds text) = .ok trees) :
    (loadFile files path (some "utf-8")).2 = .ok trees := by
  rw [loadFile, textOfFile_of_read found, decoded]
  dsimp only
  rw [result_loadNoted, loaded]
  rfl

theorem loadTrees_of_loadFile {encodingName : Option String} {trees : List Tree}
    (loaded : (loadFile files path encodingName).2 = .ok trees) :
    ∃ text, loadTrees text = .ok trees := by
  unfold loadFile at loaded
  dsimp only at loaded
  split at loaded
  · cases loaded
  · rename_i text _
    rw [result_loadNoted] at loaded
    refine ⟨text, ?_⟩
    cases result : loadTrees text with
    | error error =>
      rw [result] at loaded
      cases loaded
    | ok found =>
      rw [result] at loaded
      cases loaded
      rfl

end ShadowLint.Dump
