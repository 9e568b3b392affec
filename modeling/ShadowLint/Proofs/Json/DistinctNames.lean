import ShadowLint.Json.Reader

/-!
Names of members. An object that is read has no two members of one name, and neither has any
object inside of what is read (`Json.hasDistinctNames_of_read`).
-/

namespace ShadowLint.Json

/-- The members of each object in the value, however deep it is, have different names. -/
inductive HasDistinctNames : Value → Prop
  | plain {value : Value} (noList : ∀ items, value ≠ .list items)
      (noObject : ∀ members, value ≠ .object members) : HasDistinctNames value
  | list {items : List Value} (each : ∀ item ∈ items, HasDistinctNames item) :
      HasDistinctNames (.list items)
  | object {members : List (String × Value)} (distinct : (members.map Prod.fst).Nodup)
      (each : ∀ member ∈ members, HasDistinctNames member.2) : HasDistinctNames (.object members)

theorem HasDistinctNames.nodup {members : List (String × Value)}
    (distinct : HasDistinctNames (.object members)) : (members.map Prod.fst).Nodup := by
  cases distinct with
  | plain _ noObject => exact absurd rfl (noObject members)
  | object distinct _ => exact distinct

theorem HasDistinctNames.of_member {members : List (String × Value)}
    (distinct : HasDistinctNames (.object members)) {member : String × Value}
    (inside : member ∈ members) : HasDistinctNames member.2 := by
  cases distinct with
  | plain _ noObject => exact absurd rfl (noObject members)
  | object _ each => exact each member inside

def ReadsDistinctNames (reading : Reading Value) : Prop :=
  ∀ value rest, reading = .ok (value, rest) → HasDistinctNames value

theorem readsDistinctNames_expected (cause : Cause) (input : List Char) :
    ReadsDistinctNames (expected cause input) := nofun

theorem readsDistinctNames_ok {value : Value} {rest : List Char}
    (distinct : HasDistinctNames value) : ReadsDistinctNames (.ok (value, rest)) := by
  intro other after equal
  cases equal
  exact distinct

theorem hasDistinctNames_of_word {input : List Char} {reading : Value × List Char}
    (found : readWord? input = some reading) : HasDistinctNames reading.1 := by
  rcases List.exists_of_findSome?_eq_some found with ⟨⟨word, value⟩, member, isWord⟩
  have plain : ∀ entry ∈ words, HasDistinctNames entry.2 := by
    simp only [words, List.forall_mem_cons]
    exact ⟨.plain nofun nofun, .plain nofun nofun, .plain nofun nofun, .plain nofun nofun,
      .plain nofun nofun, .plain nofun nofun, nofun⟩
  dsimp only at isWord
  split at isWord
  · cases isWord
    exact plain _ member
  · cases isWord

theorem readsDistinctNames_magnitude {negative : Bool} {input : List Char}
    {reading : Reading Value} (found : readMagnitude negative input = some reading) :
    ReadsDistinctNames reading := by
  unfold readMagnitude at found
  rcases wholePart input with ⟨whole, rest⟩
  dsimp only at found
  split at found
  · cases found
  · split at found
    · split at found
      · cases found
        exact nofun
      · cases found
        exact readsDistinctNames_ok (.plain nofun nofun)
    · cases found
      exact readsDistinctNames_ok (.plain nofun nofun)

theorem readsDistinctNames_number {input : List Char} {reading : Reading Value}
    (found : readNumber? input = some reading) : ReadsDistinctNames reading := by
  unfold readNumber? at found
  split at found
  · exact readsDistinctNames_magnitude found
  · exact readsDistinctNames_magnitude found

/-- Every reader that has this fuel answers a value of different names, provided that what
it was given of the value has. -/
structure ReadersAreDistinct (fuel : Nat) : Prop where
  value (input : List Char) : ReadsDistinctNames (readValue fuel input)
  items (done : List Value) (input : List Char) (each : ∀ item ∈ done, HasDistinctNames item) :
    ReadsDistinctNames (readItems fuel done input)
  members (done : List (String × Value)) (input : List Char)
    (each : ∀ member ∈ done, HasDistinctNames member.2) :
    ReadsDistinctNames (readMembers fuel done input)

namespace ReadersAreDistinct

variable {fuel : Nat} (readers : ReadersAreDistinct fuel)

include readers

theorem value_succ (input : List Char) :
    ReadsDistinctNames (readValue (fuel + 1) input) := by
  unfold readValue
  split
  · rename_i rest
    cases readText rest with
    | error fault => exact nofun
    | ok text => exact readsDistinctNames_ok (.plain nofun nofun)
  · split
    · exact readsDistinctNames_ok (.list nofun)
    · exact readers.items _ _ nofun
  · split
    · exact readsDistinctNames_ok (.object List.nodup_nil nofun)
    · exact readers.members _ _ nofun
  · split
    · rename_i found
      exact readsDistinctNames_ok (hasDistinctNames_of_word found)
    · cases found : readNumber? input with
      | some reading => exact readsDistinctNames_number found
      | none => exact readsDistinctNames_expected _ _

theorem items_succ (done : List Value) (input : List Char)
    (each : ∀ item ∈ done, HasDistinctNames item) :
    ReadsDistinctNames (readItems (fuel + 1) done input) := by
  unfold readItems
  split
  · exact nofun
  · rename_i item rest found
    have eachOne := List.forall_mem_cons.mpr ⟨readers.value _ item rest found, each⟩
    split
    · refine readsDistinctNames_ok (.list ?_)
      intro one member
      exact eachOne one (List.mem_reverse.mp member)
    · exact readers.items _ _ eachOne
    · exact readsDistinctNames_expected _ _

theorem members_succ (done : List (String × Value)) (input : List Char)
    (each : ∀ member ∈ done, HasDistinctNames member.2) :
    ReadsDistinctNames (readMembers (fuel + 1) done input) := by
  unfold readMembers
  split
  · split
    · exact nofun
    · rename_i name _ _
      split
      · split
        · exact nofun
        · rename_i value rest found
          have eachOne : ∀ member ∈ (name, value) :: done, HasDistinctNames member.2 :=
            List.forall_mem_cons.mpr ⟨readers.value _ value rest found, each⟩
          split
          · refine readsDistinctNames_ok (.object (nodup_names_membersOf _) ?_)
            intro one member
            exact eachOne one (List.mem_reverse.mp (mem_of_mem_membersOf member))
          · exact readers.members _ _ eachOne
          · exact readsDistinctNames_expected _ _
      · exact readsDistinctNames_expected _ _
  · exact readsDistinctNames_expected _ _

end ReadersAreDistinct

theorem readersAreDistinct (fuel : Nat) : ReadersAreDistinct fuel := by
  induction fuel with
  | zero =>
    exact ⟨fun _ => readsDistinctNames_expected _ _, fun _ _ _ => readsDistinctNames_expected _ _,
      fun _ _ _ => readsDistinctNames_expected _ _⟩
  | succ fuel readers => exact ⟨readers.value_succ, readers.items_succ, readers.members_succ⟩

theorem hasDistinctNames_of_read {text : List Char} {value : Value}
    (succeeded : read text = .ok value) : HasDistinctNames value := by
  unfold read at succeeded
  split at succeeded
  · cases succeeded
  · split at succeeded
    · cases succeeded
    · rename_i found
      split at succeeded
      · cases succeeded
        exact (readersAreDistinct _).value _ _ _ found
      · cases succeeded

end ShadowLint.Json
