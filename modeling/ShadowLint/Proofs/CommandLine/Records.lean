import ShadowLint.Proofs.CommandLine.Ending
import ShadowLint.Proofs.Dump.Labels
import ShadowLint.Proofs.Json.Characters
import ShadowLint.Proofs.Text.Places

/-!
Findings as records. A finding in JSON is one line of printable ASCII, and reading the line
gives the finding back; the lines that the command line writes are such lines, so its output
can be cut at the line feeds and read record by record (`CommandLine.json_loses_nothing`).
-/

namespace ShadowLint

open List (Forall₂)

/-! ## One record -/

namespace Violation

/-- The arguments are texts, and line and column are short enough to be read. -/
structure IsRecordable (violation : Violation) : Prop where
  texts : ∃ texts : List String, violation.arguments = texts.map .text
  line : Json.IsShort violation.line
  column : Json.IsShort violation.column

theorem isReadable_toValue {violation : Violation} (recordable : violation.IsRecordable) :
    Json.IsReadable violation.toValue := by
  rcases recordable.texts with ⟨texts, arguments⟩
  have argumentsReadable : ∀ argument ∈ violation.arguments, Json.IsReadable argument := by
    rw [arguments]
    exact List.forall_mem_map.mpr fun text _ => .text text
  have distinct :
      ["file", "line", "column", "severity", "key", "args", "message", "check"].Nodup := by
    decide
  refine .object distinct ?_
  simp only [List.forall_mem_cons]
  exact ⟨.text _, .int recordable.line, .int recordable.column, .text _, .text _,
    .list argumentsReadable, .text _, .text _, nofun⟩

theorem toList_toJson (violation : Violation) :
    violation.toJson.toList = Json.encode violation.toValue := by
  rw [toJson, Json.write, String.toList_ofList]

theorem read_toJson {violation : Violation} (recordable : violation.IsRecordable) :
    Json.read violation.toJson.toList = .ok violation.toValue := by
  rw [toList_toJson]
  exact Json.read_encode (isReadable_toValue recordable)

theorem isPlain_toJson {violation : Violation} (recordable : violation.IsRecordable) :
    ∀ char ∈ violation.toJson.toList, Json.IsPlain char := by
  rw [toList_toJson]
  exact Json.isPlain_encode (isReadable_toValue recordable)

theorem lineFeed_not_mem_toJson {violation : Violation} (recordable : violation.IsRecordable) :
    '\n' ∉ violation.toJson.toList := fun inside =>
  absurd (isPlain_toJson recordable '\n' inside) (by decide)

end Violation

theorem HiddenField.Settings.isRecordable_of_findings {settings : HiddenField.Settings}
    {file : String} {tree : Tree}
    (short : ∀ node, tree.Has node → node.label.HasShortPlace) {violation : Violation}
    (found : violation ∈ settings.findings file tree.sites) : violation.IsRecordable := by
  rcases List.mem_filterMap.mp found with ⟨site, inSites, isFinding⟩
  rcases Option.map_eq_some_iff.mp isFinding with ⟨ident, kept, rfl⟩
  have first := (Option.filter_eq_some_iff.mp kept).1
  have isChild : ident ∈ site.node.children := List.mem_of_find?_eq_some first
  have place := short ident ((Tree.has_of_mem_sitesUnder inSites).tail isChild)
  exact ⟨⟨[ident.text], rfl⟩, place.1, place.2⟩

namespace CommandLine

/-! ## Records of a run -/

theorem toList_textOfLines (lines : List String) :
    (textOfLines lines).toList = (lines.map String.toList).flatMap (· ++ ['\n']) := by
  have general : ∀ whole : String,
      (lines.foldl (fun whole line => whole ++ line ++ "\n") whole).toList =
        whole.toList ++ (lines.map String.toList).flatMap (· ++ ['\n']) := by
    induction lines with
    | nil => simp
    | cons line rest induction =>
      intro whole
      rw [List.foldl_cons, induction]
      simp
  exact general ""

theorem lines_textOfLines {lines : List String}
    (unbroken : ∀ line ∈ lines, '\n' ∉ line.toList) :
    Text.lines (textOfLines lines).toList = lines.map String.toList ++ [[]] := by
  have cut : Text.IsCut (textOfLines lines).toList (lines.map String.toList) [] :=
    ⟨by rw [toList_textOfLines, List.append_nil], List.forall_mem_map.mpr unbroken,
      List.not_mem_nil⟩
  have split : Text.lines [] = [] :: [] := rfl
  have whole := cut.lines_append split
  rwa [List.append_nil] at whole

theorem isRecordable_of_findings {arguments : Arguments} {files : Files}
    {violations : List Violation} (succeeded : (arguments.findings files).result = .ok violations) :
    ∀ violation ∈ violations, violation.IsRecordable := by
  cases built : (arguments.checks files).result with
  | error fault =>
    rw [findings_of_error built] at succeeded
    cases succeeded
  | ok checks =>
    rcases checks_eq_singleton built with ⟨check, rfl, asked⟩
    rw [findings_of_built built] at succeeded
    rcases walkDumps_cases (Bench.alike_only check) files arguments.dumps with
      ⟨fault, failed, -⟩ | ⟨reports, walked, each⟩
    · cases failed.symm.trans succeeded
    · cases walked.symm.trans succeeded
      intro violation member
      rcases exists_tree_of_reports asked.isConfigured.lawful each violation member with
        ⟨path, trees, loaded, tree, inTrees, found⟩
      rcases Dump.loadTrees_of_loadFile loaded with ⟨text, loadedText⟩
      exact HiddenField.Settings.isRecordable_of_findings
        (Dump.hasShortPlace_of_loadTrees loadedText tree inTrees) found

/-- Output in JSON loses nothing. A finding whose arguments are texts is one line of printable
ASCII, and reading the line gives back its eight members in their order. So what a run writes
can be cut at the line feeds and read record by record, and this gives the findings that are
not to be ignored; they all have places that are short enough. -/
theorem json_loses_nothing :
    (∀ violation : Violation, violation.IsRecordable →
      (∀ char ∈ violation.toJson.toList, Json.IsPlain char) ∧
      Text.lines violation.toJson.toList = [violation.toJson.toList] ∧
      Json.read violation.toJson.toList = .ok (.object [
        ("file", .text violation.file),
        ("line", .int violation.line),
        ("column", .int violation.column),
        ("severity", .text violation.severity.name),
        ("key", .text violation.key),
        ("args", .list violation.arguments),
        ("message", .text violation.message),
        ("check", .text violation.checkName)])) ∧
    ∀ words arguments files violations, Arguments.read words = .ok arguments →
      arguments.format = .json → (arguments.findings files).result = .ok violations →
      ∃ exit output records, (run words files).ending = .exited exit output ∧
        Text.lines (textOfLines output).toList = records ++ [[]] ∧
        Forall₂ (fun record violation => Json.read record = .ok violation.toValue) records
          (violations.filter fun violation => violation.severity ≠ .ignore) := by
  constructor
  · intro violation recordable
    refine ⟨Violation.isPlain_toJson recordable, ?_, Violation.read_toJson recordable⟩
    exact List.splitOn_eq_singleton (Violation.lineFeed_not_mem_toJson recordable)
  · intro words arguments files violations accepted json succeeded
    have written : ∀ violation ∈ violations.filter fun violation => violation.severity ≠ .ignore,
        violation.IsRecordable := fun violation inside =>
      isRecordable_of_findings succeeded violation (List.mem_of_mem_filter inside)
    have lines : arguments.format.lines violations =
        (violations.filter fun violation => violation.severity ≠ .ignore).map (·.toJson) := by
      rw [json]
      rfl
    have ending : (run words files).ending = (arguments.run files).ending := by
      simp only [run, accepted]
    refine ⟨_, _, _, ending.trans (ending_of_ok succeeded), lines_textOfLines ?_, ?_⟩
    · rw [lines]
      exact List.forall_mem_map.mpr fun violation inside =>
        Violation.lineFeed_not_mem_toJson (written violation inside)
    · rw [lines, List.map_map, List.forall₂_map_left_iff, List.forall₂_same]
      exact fun violation inside => Violation.read_toJson (written violation inside)

/-- In the only dump a line feed is the name of a field and of a parameter that hides it. -/
def lineFeedName : List Char :=
  "(CLASS_DEF(OBJBLOCK(VARIABLE_DEF(IDENT\"\n\"))(PARAMETER_DEF(IDENT\"\n\"))))".toList

def onlyLineFeedName : Files where
  read _ := .ok (lineFeedName.map fun char => .ofNat char.toNat)

def hiddenLineFeed : Violation where
  line := 0
  column := 0
  key := "hidden.field"
  arguments := [.text "\n"]
  message := "'\n' hides a field."
  severity := .error
  checkName := "HiddenField"
  file := "A.ast"

/-- A finding with a quote, a backslash, control characters, a line separator and a character
above U+FFFF in it. -/
def awkward : Violation where
  line := -3
  column := 10 ^ 20
  key := "\x00\t"
  arguments := [.text "\"", .text "\\"]
  message := "\r\u2028"
  severity := .warning
  checkName := "\x7f"
  file := "😀"

def lineFeedTree : Tree :=
  let named (kind : Kind) : Tree := .node (.make kind "" 0 0) [.node (.make .ident "\n" 0 0) []]
  .node (.make .classDef "" 0 0)
    [.node (.make .objBlock "" 0 0) [named .variableDef, named .parameterDef]]

theorem load_lineFeedName :
    (Dump.loadFile onlyLineFeedName "A.ast" (some "utf-8")).2 = .ok [lineFeedTree] := by
  have decoded : Text.Encoding.utf8.decode (lineFeedName.map fun char => .ofNat char.toNat) =
      .ok lineFeedName := by
    decide +kernel
  have loaded : Dump.loadTrees (Text.unifyLineEnds lineFeedName) = .ok [lineFeedTree] := by
    decide +kernel
  exact Dump.loadFile_of_read rfl decoded loaded

theorem lineFeedName_recorded :
    let arguments : Arguments := { Arguments.initial with dumps := ["A.ast"], format := .json }
    let words := ["--format", "json", "A.ast"]
    awkward.IsRecordable ∧ Json.read awkward.toJson.toList = .ok awkward.toValue ∧
      Arguments.read words = .ok arguments ∧ arguments.format = .json ∧
      (arguments.findings onlyLineFeedName).result = .ok [hiddenLineFeed] ∧
      ∃ exit output record, (run words onlyLineFeedName).ending = .exited exit output ∧
        Text.lines (textOfLines output).toList = [record, []] ∧
        Json.read record = .ok hiddenLineFeed.toValue := by
  intro arguments words
  have recordable : awkward.IsRecordable :=
    ⟨⟨["\"", "\\"], rfl⟩, by decide +kernel, by decide +kernel⟩
  have accepted : Arguments.read words = .ok arguments := rfl
  have built : (arguments.checks onlyLineFeedName).result = .ok [.hiddenField .initial] := rfl
  have walked : (Walker.alone.processAll (.only .initial) "A.ast" [lineFeedTree]).outcome =
      .ok [hiddenLineFeed] := by
    with_unfolding_all rfl
  have succeeded : (arguments.findings onlyLineFeedName).result = .ok [hiddenLineFeed] := by
    rw [findings_of_built built, walkDumps, Noted.result_andThen, result_walkDump,
      load_lineFeedName]
    dsimp only
    rw [walked]
    rfl
  rcases json_loses_nothing.2 words arguments onlyLineFeedName [hiddenLineFeed] accepted rfl
    succeeded with ⟨exit, output, records, ending, split, each⟩
  cases each with
  | cons read others =>
    cases others
    exact ⟨recordable, (json_loses_nothing.1 awkward recordable).2.2, accepted, rfl, succeeded,
      exit, output, _, ending, split, read⟩

end CommandLine

end ShadowLint
