import ShadowLint.Proofs.Check.Verdict
import ShadowLint.File.Folder
import ShadowLint.Proofs.CommandLine.Building
import ShadowLint.Proofs.Dump.Loading

/-!
How a run ends. Whatever fails while dumps are loaded and walked has a report, so a run
that has got its check writes nothing if one dump fails, whichever it is and however many
were dealt with before; and if none fails, it writes what a new check finds in each tree
by itself (`CommandLine.run_all_or_nothing`).
-/

namespace ShadowLint

open List (Forall₂)

/-- The fault has a report, or it is one of a file. -/
def Fault.IsReported (fault : Fault) : Prop :=
  fault.report?.isSome = true ∨ fault.file?.isSome = true

theorem Bench.Alike.exists_of_processAll {walker : Walker} {bench fresh : Bench}
    (alike : Alike walker.places bench fresh) {file : String} {trees : List Tree}
    {fault : CheckFault} (failed : (walker.processAll bench file trees).outcome = .error fault) :
    ∃ tree ∈ trees, (walker.process fresh tree file).outcome = .error fault := by
  induction trees generalizing bench with
  | nil => cases failed
  | cons tree rest induction =>
    have same := (alike.process tree file).1
    rw [Walker.outcome_processAll_cons] at failed
    cases here : (walker.process bench tree file).outcome with
    | error cause =>
      rw [here] at failed
      cases failed
      exact ⟨tree, List.mem_cons_self, same.symm.trans here⟩
    | ok found =>
      cases others :
        (walker.processAll (walker.process bench tree file).bench file rest).outcome with
      | error cause =>
        rw [here, others] at failed
        cases failed
        rcases induction (alike.after_process tree file) others with ⟨other, member, fails⟩
        exact ⟨other, List.mem_cons_of_mem _ member, fails⟩
      | ok violations =>
        rw [here, others] at failed
        cases failed

namespace CommandLine

variable {files : Files} {check : HiddenField}

/-! ## Dumps -/

theorem result_walkDump (files : Files) (walker : Walker) (bench : Bench) (path : String) :
    (walkDump files walker bench path).result =
      match (Dump.loadFile files path (some "utf-8")).2 with
      | .error fault => .error (.load fault)
      | .ok trees =>
        match (walker.processAll bench path trees).outcome with
        | .error fault => .error (.check fault)
        | .ok violations => .ok ((walker.processAll bench path trees).bench, violations) := by
  rw [walkDump]
  rcases Dump.loadFile files path (some "utf-8") with ⟨journal, loaded⟩
  cases loaded <;> rfl

/-- The dump is loaded, and these are the findings of a check that was just made in its
trees, each by itself. -/
def DumpReports (files : Files) (check : HiddenField) (path : String)
    (reports : List (List Violation)) : Prop :=
  ∃ trees, (Dump.loadFile files path (some "utf-8")).2 = .ok trees ∧
    Forall₂ (fun tree report =>
      (Walker.alone.process (.only check) tree path).outcome = .ok report) trees reports

/-- Loading the dump fails, or a check that was just made fails on one of its trees. -/
inductive DumpFails (files : Files) (check : HiddenField) (path : String) : Fault → Prop
  | loading {fault : LoadFault} : (Dump.loadFile files path (some "utf-8")).2 = .error fault →
      DumpFails files check path (.load fault)
  | walking {trees : List Tree} {tree : Tree} {fault : CheckFault} :
      (Dump.loadFile files path (some "utf-8")).2 = .ok trees → tree ∈ trees →
      (Walker.alone.process (.only check) tree path).outcome = .error fault →
      DumpFails files check path (.check fault)

theorem exists_of_forall₂ {Given Meant : Type} {Holds : Given → Meant → Prop}
    {given : List Given} {meant : List Meant} (each : Forall₂ Holds given meant) :
    ∀ one ∈ given, ∃ other, Holds one other :=
  ((List.forall₂_and_left given meant).mp
    (each.imp fun _ other holds => ⟨⟨other, holds⟩, holds⟩)).1

theorem DumpReports.not_fails {path : String} {reports : List (List Violation)}
    (reported : DumpReports files check path reports) (fault : Fault) :
    ¬ DumpFails files check path fault := by
  rcases reported with ⟨trees, loaded, each⟩
  intro fails
  cases fails with
  | loading failed => cases loaded.symm.trans failed
  | @walking _ tree _ loadedToo member failed =>
    cases loaded.symm.trans loadedToo
    rcases exists_of_forall₂ each tree member with ⟨report, answered⟩
    cases answered.symm.trans failed

theorem DumpReports.unique {path : String} {reports others : List (List Violation)}
    (reported : DumpReports files check path reports)
    (reportedToo : DumpReports files check path others) : reports = others := by
  rcases reported with ⟨trees, loaded, each⟩
  rcases reportedToo with ⟨treesToo, loadedToo, eachToo⟩
  cases loaded.symm.trans loadedToo
  refine List.right_unique_forall₂' ?_ each eachToo
  intro tree report other answered answeredToo
  exact Except.ok.inj (answered.symm.trans answeredToo)

theorem isReported_of_textOfFile {path : String} {fault : LoadFault}
    (failed : Dump.textOfFile files path (some "utf-8") = .error fault) :
    (Fault.load fault).IsReported := by
  cases found : files.read path with
  | error cause =>
    rw [Dump.textOfFile, found] at failed
    cases failed
    exact .inr rfl
  | ok bytes =>
    rw [Dump.textOfFile_of_read found] at failed
    split at failed
    · cases failed
    · cases failed
      exact .inl rfl

theorem isReported_of_loadFile {path : String} {fault : LoadFault}
    (failed : (Dump.loadFile files path (some "utf-8")).2 = .error fault) :
    (Fault.load fault).IsReported := by
  unfold Dump.loadFile at failed
  dsimp only at failed
  split at failed
  · rename_i cause unread
    cases failed
    exact isReported_of_textOfFile unread
  · unfold Dump.loadNoted at failed
    split at failed
    · cases failed
      exact .inl rfl
    · split at failed
      · cases failed
        exact .inl rfl
      · cases failed

theorem isReported_of_dumpFails (lawful : check.Lawful) {path : String} {fault : Fault}
    (fails : DumpFails files check path fault) : fault.IsReported := by
  cases fails with
  | loading failed => exact isReported_of_loadFile failed
  | @walking _ tree _ _ _ failed =>
    have verdict := lawful.verdict tree path
    rw [failed] at verdict
    cases verdict with
    | stopped _ _ _ => exact .inl rfl

theorem walkDump_cases {bench : Bench} (alike : Bench.Alike Walker.alone.places bench (.only check))
    (files : Files) (path : String) :
    (∃ fault, (walkDump files .alone bench path).result = .error fault ∧
        DumpFails files check path fault) ∨
      ∃ after reports,
        (walkDump files .alone bench path).result = .ok (after, reports.flatten) ∧
        Bench.Alike Walker.alone.places after (.only check) ∧
        DumpReports files check path reports := by
  rw [result_walkDump]
  cases loads : (Dump.loadFile files path (some "utf-8")).2 with
  | error fault => exact .inl ⟨_, rfl, .loading loads⟩
  | ok trees =>
    dsimp only
    cases walks : (Walker.alone.processAll bench path trees).outcome with
    | error fault =>
      rcases alike.exists_of_processAll walks with ⟨tree, member, failed⟩
      exact .inl ⟨_, rfl, .walking loads member failed⟩
    | ok violations =>
      rcases (alike.processAll path trees violations).mp walks with ⟨reports, each, rfl⟩
      exact .inr ⟨_, reports, rfl, alike.after_processAll path trees, trees, loads, each⟩

theorem walkDumps_cases {bench : Bench}
    (alike : Bench.Alike Walker.alone.places bench (.only check)) (files : Files)
    (paths : List String) :
    (∃ fault, (walkDumps files .alone bench paths).result = .error fault ∧
        ∃ path ∈ paths, DumpFails files check path fault) ∨
      ∃ reports, (walkDumps files .alone bench paths).result = .ok reports.flatten.flatten ∧
        Forall₂ (DumpReports files check) paths reports := by
  induction paths generalizing bench with
  | nil => exact .inr ⟨[], rfl, .nil⟩
  | cons path rest induction =>
    rw [walkDumps, Noted.result_andThen]
    rcases walkDump_cases alike files path with
      ⟨fault, first, fails⟩ | ⟨after, reports, first, alikeAfter, reported⟩
    · rw [first]
      exact .inl ⟨fault, rfl, path, List.mem_cons_self, fails⟩
    · rw [first]
      simp only [bind, Except.bind, Noted.result_andThen]
      rcases induction alikeAfter with
        ⟨fault, others, other, member, fails⟩ | ⟨otherReports, others, each⟩
      · rw [others]
        exact .inl ⟨fault, rfl, other, List.mem_cons_of_mem _ member, fails⟩
      · rw [others]
        refine .inr ⟨reports :: otherReports, ?_, .cons reported each⟩
        simp

/-! ## Endings -/

theorem failureMessage?_of_isReported {fault : Fault} (reported : fault.IsReported) :
    ∃ message, failureMessage? fault = some message := by
  unfold failureMessage?
  cases hasReport : fault.report? with
  | some report => exact ⟨_, rfl⟩
  | none =>
    cases hasFile : fault.file? with
    | some file => exact ⟨_, rfl⟩
    | none => simp [Fault.IsReported, hasReport, hasFile] at reported

theorem ending_of_error {arguments : Arguments} {files : Files} {fault : Fault}
    (failed : (arguments.findings files).result = .error fault) (reported : fault.IsReported) :
    (arguments.run files).ending = .exited .failure [] := by
  rcases failureMessage?_of_isReported reported with ⟨message, noted⟩
  simp only [Arguments.run, failed, noted]

theorem ending_of_ok {arguments : Arguments} {files : Files} {violations : List Violation}
    (succeeded : (arguments.findings files).result = .ok violations) :
    (arguments.run files).ending =
      .exited (exitFor violations) (arguments.format.lines violations) := by
  simp only [Arguments.run, succeeded]

theorem findings_of_error {arguments : Arguments} {files : Files} {fault : Fault}
    (failed : (arguments.checks files).result = .error fault) :
    (arguments.findings files).result = .error fault := by
  rw [Arguments.findings, Noted.result_andThen, failed]
  rfl

theorem findings_of_built {arguments : Arguments} {files : Files}
    (built : (arguments.checks files).result = .ok [.hiddenField check]) :
    (arguments.findings files).result =
      (walkDumps files .alone (.only check) arguments.dumps).result := by
  rw [Arguments.findings, Noted.result_andThen, built]
  simp only [bind, Except.bind, Noted.result_andThen]
  rfl

/-- Something fails: the check cannot be made and configured, or it can and one of the
dumps fails. -/
inductive Arguments.Fails (arguments : Arguments) (files : Files) : Fault → Prop
  | building {fault : Fault} : (arguments.checks files).result = .error fault →
      Fails arguments files fault
  | dump {check : HiddenField} {path : String} {fault : Fault} :
      (arguments.checks files).result = .ok [.hiddenField check] → path ∈ arguments.dumps →
      DumpFails files check path fault → Fails arguments files fault

theorem severity_of_findings {settings : HiddenField.Settings} {file : String} {sites : List Site}
    {violation : Violation} (found : violation ∈ settings.findings file sites) :
    violation.severity = settings.severity := by
  rcases List.mem_filterMap.mp found with ⟨site, -, isFinding⟩
  rcases Option.map_eq_some_iff.mp isFinding with ⟨ident, -, rfl⟩
  rfl

theorem exists_tree_of_reports (lawful : check.Lawful) {paths : List String}
    {reports : List (List (List Violation))}
    (each : Forall₂ (DumpReports files check) paths reports) :
    ∀ violation ∈ reports.flatten.flatten, ∃ path trees,
      (Dump.loadFile files path (some "utf-8")).2 = .ok trees ∧
        ∃ tree ∈ trees, violation ∈ check.settings.findings path tree.sites := by
  intro violation member
  rcases List.mem_flatten.mp member with ⟨report, inReports, inReport⟩
  rcases List.mem_flatten.mp inReports with ⟨dumpReports, inAll, inDump⟩
  have byReports : Forall₂ (flip (DumpReports files check)) reports paths := each.flip
  rcases exists_of_forall₂ byReports dumpReports inAll with ⟨path, trees, loaded, eachTree⟩
  have byReport : Forall₂ (fun report tree =>
      (Walker.alone.process (.only check) tree path).outcome = .ok report) dumpReports trees :=
    eachTree.flip
  rcases exists_mem_of_forall₂ byReport report inDump with ⟨tree, inTrees, answered⟩
  rw [lawful.report_eq_findings answered] at inReport
  exact ⟨path, trees, loaded, tree, inTrees, inReport⟩

theorem severity_of_reports (lawful : check.Lawful) {paths : List String}
    {reports : List (List (List Violation))}
    (each : Forall₂ (DumpReports files check) paths reports) :
    ∀ violation ∈ reports.flatten.flatten, violation.severity = check.core.severity := by
  intro violation member
  rcases exists_tree_of_reports lawful each violation member with ⟨_, _, -, tree, -, found⟩
  exact severity_of_findings found

theorem code_exitFor {violations : List Violation} {severity : Severity}
    (same : ∀ violation ∈ violations, violation.severity = severity) :
    (exitFor violations).code = if severity = .error ∧ violations ≠ [] then 1 else 0 := by
  have serious : violations.any (·.severity == .error) =
      decide (severity = .error ∧ violations ≠ []) := by
    rw [Bool.eq_iff_iff, List.any_eq_true, decide_eq_true_iff]
    constructor
    · intro found
      rcases found with ⟨violation, member, isError⟩
      exact ⟨(same violation member).symm.trans (eq_of_beq isError), List.ne_nil_of_mem member⟩
    · intro holds
      rcases holds with ⟨isError, nonempty⟩
      rcases List.exists_mem_of_ne_nil violations nonempty with ⟨violation, member⟩
      exact ⟨violation, member, beq_iff_eq.mpr ((same violation member).trans isError)⟩
  rw [exitFor, serious]
  by_cases isError : severity = .error ∧ violations ≠ []
  · simp [isError, Exit.code]
  · simp [isError, Exit.code]

def firstTree : Tree :=
  let named (kind : Kind) : Tree := .node (.make kind "" 0 0) [.node (.make .ident "x" 0 0) []]
  .node (.make .classDef "" 0 0)
    [.node (.make .objBlock "" 0 0) [named .variableDef, named .parameterDef]]

def firstDump : List Char :=
  "(CLASS_DEF(OBJBLOCK(VARIABLE_DEF(IDENT\"x\"))(PARAMETER_DEF(IDENT\"x\"))))".toList

def firstBytes : List UInt8 := firstDump.map fun char => .ofNat char.toNat

def onlyFirst : Files := (Folder.ofNames [("A.ast", .bytes firstBytes)]).files

def hiddenInFirst : Violation where
  line := 0
  column := 0
  key := "hidden.field"
  arguments := [.text "x"]
  message := "'x' hides a field."
  severity := .error
  checkName := "HiddenField"
  file := "A.ast"

theorem dumpReports_onlyFirst : DumpReports onlyFirst .initial "A.ast" [[hiddenInFirst]] := by
  have found : onlyFirst.read (normalPath "A.ast") = .ok firstBytes := by decide +kernel
  have decoded : Text.Encoding.utf8.decode firstBytes = .ok firstDump := by decide +kernel
  have loaded : Dump.loadTrees (Text.unifyLineEnds firstDump) = .ok [firstTree] := by
    decide +kernel
  have walked : (Walker.alone.process (.only .initial) firstTree "A.ast").outcome =
      .ok [hiddenInFirst] := by
    with_unfolding_all rfl
  exact ⟨[firstTree], Dump.loadFile_of_read found decoded loaded, .cons walked .nil⟩

end CommandLine

end ShadowLint
