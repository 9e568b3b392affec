import Mathlib.Data.List.Basic
import ShadowLint.Proofs.Check.Memory

/-!
What walks answer, said of the sites they go over: the findings about all the sites, or
the error about the first site that is faulty. There is one such answer
(`HiddenField.Verdict.unique`), and it depends on no more than what is said of each site
(`HiddenField.Verdict.map`). A walk answers it for the sites of its tree, and walks over
several trees for the sites of all of them (`HiddenField.Lawful.verdict_processAll`).
-/

namespace ShadowLint

theorem Walker.outcome_processAll_cons (walker : Walker) (bench : Bench) (file : String)
    (root : Tree) (rest : List Tree) :
    (walker.processAll bench file (root :: rest)).outcome =
      (walker.process bench root file).outcome >>= fun violations =>
        (walker.processAll (walker.process bench root file).bench file rest).outcome.map
          (violations ++ ·) := by
  rw [processAll]
  cases (walker.process bench root file).outcome <;> rfl

theorem Bench.alike_only (check : HiddenField) :
    Alike Walker.alone.places (.only check) (.only check) := by
  intro place member
  rw [List.mem_singleton.mp member]
  exact ⟨check.emptied, rfl, rfl⟩

namespace HiddenField

/-- What there is to answer about sites, given in preorder. -/
inductive Verdict (settings : Settings) (file : String) (sites : List Site) :
    Except CheckFault (List Violation) → Prop
  | completed : (∀ site ∈ sites, ¬ settings.IsFaulty site) →
      Verdict settings file sites (.ok (settings.findings file sites))
  | stopped {earlier later : List Site} {site : Site} {error : ContractError} :
      sites = earlier ++ site :: later → (∀ other ∈ earlier, ¬ settings.IsFaulty other) →
      settings.Breaks site error → Verdict settings file sites (.error (.contract error))

namespace Verdict

variable {settings : Settings} {file : String} {sites first second : List Site}
  {answer other : Except CheckFault (List Violation)}

theorem unique (one : Verdict settings file sites answer)
    (another : Verdict settings file sites other) : answer = other := by
  cases one with
  | completed sound =>
    cases another with
    | completed => rfl
    | @stopped _ _ site error split _ breaks =>
      exact absurd ⟨error, breaks⟩ (sound site (by simp [split]))
  | @stopped _ _ site error split soundBefore breaks =>
    cases another with
    | completed sound => exact absurd ⟨error, breaks⟩ (sound site (by simp [split]))
    | @stopped _ _ _ cause splitToo soundBeforeToo breaksToo =>
      rcases Settings.first_faulty_unique (split.symm.trans splitToo) soundBefore ⟨error, breaks⟩
        soundBeforeToo ⟨cause, breaksToo⟩ with ⟨-, same⟩
      rw [breaks.unique (same ▸ breaksToo)]

theorem fails_iff (verdict : Verdict settings file sites answer) :
    (∃ error, answer = .error (.contract error)) ↔ ∃ site ∈ sites, settings.IsFaulty site := by
  cases verdict with
  | completed sound =>
    constructor
    · intro failed
      rcases failed with ⟨error, equal⟩
      cases equal
    · intro found
      rcases found with ⟨site, member, faulty⟩
      exact absurd faulty (sound site member)
  | @stopped _ _ site error split _ breaks =>
    exact ⟨fun _ => ⟨site, by simp [split], error, breaks⟩, fun _ => ⟨error, rfl⟩⟩

theorem append (one : Verdict settings file first answer)
    (another : Verdict settings file second other) :
    Verdict settings file (first ++ second)
      (answer >>= fun violations => other.map (violations ++ ·)) := by
  cases one with
  | stopped split sound breaks =>
    exact .stopped (by rw [split, List.append_assoc, List.cons_append]) sound breaks
  | completed sound =>
    cases another with
    | completed soundToo =>
      have both : ∀ site ∈ first ++ second, ¬ settings.IsFaulty site :=
        List.forall_mem_append.mpr ⟨sound, soundToo⟩
      have answers := @completed settings file _ both
      rwa [Settings.findings_append] at answers
    | stopped split soundToo breaks =>
      exact .stopped (by rw [split, List.append_assoc])
        (List.forall_mem_append.mpr ⟨sound, soundToo⟩) breaks

theorem map {change : Site → Site}
    (breaks : ∀ site ∈ sites, ∀ error,
      settings.Breaks (change site) error ↔ settings.Breaks site error)
    (finds : ∀ site ∈ sites, settings.finding? file (change site) = settings.finding? file site)
    (verdict : Verdict settings file sites answer) :
    Verdict settings file (sites.map change) answer := by
  have faulty (site : Site) (member : site ∈ sites) :
      settings.IsFaulty (change site) ↔ settings.IsFaulty site :=
    exists_congr (breaks site member)
  cases verdict with
  | completed sound =>
    have same : settings.findings file (sites.map change) = settings.findings file sites := by
      rw [Settings.findings, Settings.findings, List.filterMap_map]
      exact List.filterMap_congr finds
    rw [← same]
    refine .completed ?_
    intro other member
    rcases List.mem_map.mp member with ⟨site, inside, rfl⟩
    rw [faulty site inside]
    exact sound site inside
  | @stopped earlier later site error split sound breaksHere =>
    have inside {other : Site} (member : other ∈ earlier) : other ∈ sites := by
      rw [split]
      exact List.mem_append_left _ member
    refine .stopped (by rw [split, List.map_append, List.map_cons]) ?_
      ((breaks site (by simp [split]) error).mpr breaksHere)
    intro other member
    rcases List.mem_map.mp member with ⟨before, isBefore, rfl⟩
    rw [faulty before (inside isBefore)]
    exact sound before isBefore

end Verdict

variable {check : HiddenField}

theorem Lawful.verdict (lawful : check.Lawful) (root : Tree) (file : String) :
    Verdict check.settings file root.sites
      (Walker.alone.process (.only check) root file).outcome := by
  have outcome := walk_outcome (lawful.prepared file) rfl root
  rw [Walker.outcome_process_only]
  cases reached : (check.prepared file).walk root with
  | mk state journal fault =>
    rw [reached] at outcome
    cases outcome with
    | completed sound =>
      have answers := @Verdict.completed check.settings file _ sound
      simpa using answers
    | stopped split sound breaks => exact .stopped split sound breaks

theorem Lawful.report_eq_findings (lawful : check.Lawful) {root : Tree} {file : String}
    {report : List Violation}
    (answered : (Walker.alone.process (.only check) root file).outcome = .ok report) :
    report = check.settings.findings file root.sites := by
  have verdict := lawful.verdict root file
  rw [answered] at verdict
  cases verdict with
  | completed _ => rfl

theorem Lawful.verdict_processAll (lawful : check.Lawful) {bench : Bench}
    (alike : Bench.Alike Walker.alone.places bench (.only check)) (file : String)
    (trees : List Tree) :
    Verdict check.settings file (trees.flatMap Tree.sites)
      (Walker.alone.processAll bench file trees).outcome := by
  induction trees generalizing bench with
  | nil => exact .completed (by simp)
  | cons root rest induction =>
    have here := lawful.verdict root file
    rw [← (alike.process root file).1] at here
    rw [Walker.outcome_processAll_cons, List.flatMap_cons]
    exact here.append (induction (alike.after_process root file))

end HiddenField

end ShadowLint
