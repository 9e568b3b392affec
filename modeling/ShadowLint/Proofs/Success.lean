import ShadowLint.Proofs.Related
import ShadowLint.Value

/-!
What the success of a composed computation says about its parts, and where a computation
that goes through a list ends: after all of it, or at the first item that fails
(`Success.mapM_eq_ok_iff`, `Success.mapM_of_stopsAt`).
-/

namespace ShadowLint

open List (Forall₂)

/-! ## The first that is not fine -/

/-- The items before this one are fine, and it is not. -/
def StopsAt {Item : Type} (Fine : Item → Prop) (items before : List Item) (item : Item) : Prop :=
  ∃ rest, items = before ++ item :: rest ∧ (∀ earlier ∈ before, Fine earlier) ∧ ¬ Fine item

theorem exists_stop_of_not_forall {Item : Type} {Fine : Item → Prop} {items : List Item}
    (notAll : ¬ ∀ item ∈ items, Fine item) : ∃ before item, StopsAt Fine items before item := by
  induction items with
  | nil => exact absurd nofun notAll
  | cons first later induction =>
    by_cases fine : Fine first
    · have notLater : ¬ ∀ item ∈ later, Fine item := by
        intro all
        exact notAll (List.forall_mem_cons.mpr ⟨fine, all⟩)
      rcases induction notLater with ⟨before, item, rest, rfl, fineBefore, notFine⟩
      exact ⟨first :: before, item, rest, rfl, List.forall_mem_cons.mpr ⟨fine, fineBefore⟩, notFine⟩
    · exact ⟨[], first, later, rfl, nofun, fine⟩

theorem StopsAt.unique {Item : Type} {Fine : Item → Prop} {items before others : List Item}
    {item other : Item} (stops : StopsAt Fine items before item)
    (stopsToo : StopsAt Fine items others other) : before = others ∧ item = other := by
  rcases stops with ⟨rest, rfl, fineBefore, notFine⟩
  rcases stopsToo with ⟨restToo, same, fineOthers, notFineToo⟩
  induction before generalizing others with
  | nil =>
    cases others with
    | nil => exact ⟨rfl, (List.cons.inj same).1⟩
    | cons first later =>
      have isFirst : item = first := (List.cons.inj same).1
      exact absurd (isFirst ▸ List.forall_mem_cons.mp fineOthers |>.1) notFine
  | cons first later induction =>
    rcases List.forall_mem_cons.mp fineBefore with ⟨fine, fineLater⟩
    cases others with
    | nil =>
      have isFirst : first = other := (List.cons.inj same).1
      exact absurd (isFirst ▸ fine) notFineToo
    | cons firstToo laterToo =>
      rcases List.cons.inj same with ⟨rfl, sameLater⟩
      rcases induction fineLater sameLater (List.forall_mem_cons.mp fineOthers).2 with
        ⟨rfl, sameItem⟩
      exact ⟨rfl, sameItem⟩

namespace Success

variable {Fault Other Given Meant : Type}

theorem of_bind {first : Except Fault Given} {next : Given → Except Fault Meant} {meant : Meant}
    (succeeded : first >>= next = .ok meant) :
    ∃ given, first = .ok given ∧ next given = .ok meant := by
  cases first with
  | error fault => cases succeeded
  | ok given => exact ⟨given, rfl, succeeded⟩

theorem of_map {computed : Except Fault Given} {change : Given → Meant} {meant : Meant}
    (succeeded : computed.map change = .ok meant) :
    ∃ given, computed = .ok given ∧ change given = meant := by
  cases computed with
  | error fault => cases succeeded
  | ok given => exact ⟨given, rfl, Except.ok.inj succeeded⟩

theorem of_mapError {computed : Except Fault Given} {change : Fault → Other} {given : Given}
    (succeeded : computed.mapError change = .ok given) : computed = .ok given := by
  cases computed with
  | error fault => cases succeeded
  | ok found => exact congrArg _ (Except.ok.inj succeeded)

theorem mapM_eq_ok_iff {meaning : Given → Except Fault Meant} {given : List Given}
    {meant : List Meant} : given.mapM meaning = .ok meant ↔
      Forall₂ (fun one other => meaning one = .ok other) given meant := by
  induction given generalizing meant with
  | nil =>
    rw [List.forall₂_nil_left_iff]
    exact ⟨fun succeeded => (Except.ok.inj succeeded).symm, fun empty => empty ▸ rfl⟩
  | cons head rest induction =>
    rw [List.mapM_cons]
    constructor
    · intro succeeded
      rcases of_bind succeeded with ⟨found, first, afterFirst⟩
      rcases of_bind afterFirst with ⟨remaining, others, answered⟩
      cases answered
      exact .cons first (induction.mp others)
    · intro each
      cases each with
      | cons first others =>
        rw [first, induction.mpr others]
        rfl

theorem of_mapM {Holds : Meant → Prop} {meaning : Given → Except Fault Meant}
    (each : ∀ given meant, meaning given = .ok meant → Holds meant) {given : List Given}
    {meant : List Meant} (succeeded : given.mapM meaning = .ok meant) :
    ∀ one ∈ meant, Holds one := by
  intro one member
  rcases exists_mem_of_forall₂ (mapM_eq_ok_iff.mp succeeded).flip one member with ⟨other, -, first⟩
  exact each other one first

theorem mapM_of_stopsAt {meaning : Given → Except Fault Meant} {given before : List Given}
    {one : Given} {fault : Fault}
    (stops : StopsAt (fun item => ∃ meant, meaning item = .ok meant) given before one)
    (fails : meaning one = .error fault) : given.mapM meaning = .error fault := by
  rcases stops with ⟨rest, rfl, each, -⟩
  induction before with
  | nil =>
    rw [List.nil_append, List.mapM_cons, fails]
    rfl
  | cons first later induction =>
    rcases List.forall_mem_cons.mp each with ⟨⟨meant, isMeant⟩, eachLater⟩
    rw [List.cons_append, List.mapM_cons, isMeant]
    change (later ++ one :: rest).mapM meaning >>= _ = _
    rw [induction eachLater]
    rfl

theorem mapM_mapError (meaning : Given → Except Fault Meant) (change : Fault → Other)
    (given : List Given) :
    (given.mapM fun one => (meaning one).mapError change) =
      (given.mapM meaning).mapError change := by
  induction given with
  | nil => rfl
  | cons one rest induction =>
    rw [List.mapM_cons, List.mapM_cons, induction]
    cases meaning one with
    | error fault => rfl
    | ok meant => cases rest.mapM meaning <;> rfl

theorem exists_of_mapM_error {meaning : Given → Except Fault Meant} {given : List Given}
    {fault : Fault} (failed : given.mapM meaning = .error fault) :
    ∃ one ∈ given, meaning one = .error fault := by
  by_cases all : ∀ one ∈ given, ∃ meant, meaning one = .ok meant
  · rcases exists_forall₂ all with ⟨meant, each⟩
    cases failed.symm.trans (mapM_eq_ok_iff.mpr each)
  · rcases exists_stop_of_not_forall all with ⟨before, one, stops⟩
    rcases stops with ⟨rest, split, each, meansNothing⟩
    cases answered : meaning one with
    | ok meant => exact absurd ⟨meant, answered⟩ meansNothing
    | error other =>
      have same := mapM_of_stopsAt ⟨rest, split, each, meansNothing⟩ answered
      cases failed.symm.trans same
      exact ⟨one, by simp [split], answered⟩

end Success

end ShadowLint
