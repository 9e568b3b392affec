import ShadowLint.Proofs.Json.Lexemes

/-!
Reading what was written. A value comes back as it was, unless it holds an integer that is too
long to be read or an object in which two members have one name (`Json.read_encode`). Numbers
with a point are left out.
-/

namespace ShadowLint.Json

/-! ## Values that come back -/

/-- The integers in the value are short enough to be read, and the members of each object in it
have different names. There is no number with a point in it. -/
inductive IsReadable : Value → Prop
  | null : IsReadable .null
  | bool (value : Bool) : IsReadable (.bool value)
  | int {value : Int} : IsShort value → IsReadable (.int value)
  | text (value : String) : IsReadable (.text value)
  | list {items : List Value} : (∀ item ∈ items, IsReadable item) → IsReadable (.list items)
  | object {members : List (String × Value)} : (members.map Prod.fst).Nodup →
      (∀ member ∈ members, IsReadable member.2) → IsReadable (.object members)

/-- A value can start with the character; a list does not end and no blank is skipped there. -/
def StartsValue (char : Char) : Prop :=
  isJsonBlank char = false ∧ char ≠ ']' ∧ char ≠ '\uFEFF'

instance (char : Char) : Decidable (StartsValue char) :=
  inferInstanceAs (Decidable (_ = false ∧ _ ≠ ']' ∧ _ ≠ '\uFEFF'))

theorem startsValue_of_isDigit {char : Char} (digit : char.isDigit = true) : StartsValue char := by
  refine ⟨?_, ?_, ?_⟩
  · by_contra blank
    simp only [isJsonBlank, Bool.not_eq_false, Bool.or_eq_true, decide_eq_true_eq] at blank
    rcases blank with ((rfl | rfl) | rfl) | rfl <;> exact absurd digit (by decide)
  · rintro rfl
    exact absurd digit (by decide)
  · rintro rfl
    exact absurd digit (by decide)

def StartsInteger (input : List Char) : Prop :=
  ∃ digit rest, digit.isDigit = true ∧ (input = digit :: rest ∨ input = '-' :: digit :: rest)

theorem startsInteger_toString (value : Int) (rest : List Char) :
    StartsInteger ((toString value).toList ++ rest) := by
  rcases List.exists_cons_of_ne_nil (@Nat.toDigits_ne_nil value.natAbs 10) with
    ⟨digit, more, digits⟩
  have inside : digit ∈ Nat.toDigits 10 value.natAbs := digits ▸ List.mem_cons_self
  refine ⟨digit, more ++ rest, isDigit_of_mem_toDigits inside, ?_⟩
  rw [toList_toString, digits]
  by_cases negative : value < 0
  · simp [negative]
  · simp [negative]

theorem encode_starts {value : Value} (readable : IsReadable value) :
    ∃ char rest, encode value = char :: rest ∧ StartsValue char := by
  cases readable with
  | null => exact ⟨'n', _, by rw [encode]; rfl, by decide⟩
  | bool value =>
    cases value with
    | true => exact ⟨'t', _, by rw [encode]; rfl, by decide⟩
    | false => exact ⟨'f', _, by rw [encode]; rfl, by decide⟩
  | @int value _ =>
    rw [encode]
    have integer := startsInteger_toString value []
    rw [List.append_nil] at integer
    rcases integer with ⟨digit, rest, isDigit, unsigned | signed⟩
    · exact ⟨digit, rest, unsigned, startsValue_of_isDigit isDigit⟩
    · exact ⟨'-', digit :: rest, signed, by decide⟩
  | text value => exact ⟨'"', _, by rw [encode, encodedText]; rfl, by decide⟩
  | @list items _ =>
    cases items with
    | nil => exact ⟨'[', _, by rw [encode], by decide⟩
    | cons item rest => exact ⟨'[', _, by rw [encode]; rfl, by decide⟩
  | @object members _ _ =>
    cases members with
    | nil => exact ⟨'\x7b', _, by rw [encode], by decide⟩
    | cons member rest => exact ⟨'\x7b', _, by rw [encode]; rfl, by decide⟩

/-! ## Between values -/

theorem skipBlanks_of_head {char : Char} (notBlank : isJsonBlank char = false) (rest : List Char) :
    skipBlanks (char :: rest) = char :: rest := by
  rw [skipBlanks, List.dropWhile_cons_of_neg (by simp [notBlank])]

theorem skipBlanks_space (rest : List Char) : skipBlanks (' ' :: rest) = skipBlanks rest := by
  rw [skipBlanks, List.dropWhile_cons_of_pos (by decide)]
  rfl

theorem skipBlanks_encode {value : Value} (readable : IsReadable value) (rest : List Char) :
    skipBlanks (encode value ++ rest) = encode value ++ rest := by
  rcases encode_starts readable with ⟨char, others, encoded, starts⟩
  rw [encoded, List.cons_append, skipBlanks_of_head starts.1]

theorem endsNumber_of_mark {mark : Char} (isMark : mark ∈ [',', ']', '\x7d']) (rest : List Char) :
    EndsNumber (mark :: rest) := by
  intro char first
  cases first
  simp only [List.mem_cons, List.not_mem_nil, or_false] at isMark
  rcases isMark with rfl | rfl | rfl
  · decide
  · decide
  · decide

/-! ## Reading one value -/

/-- The value is read back in front of all that can follow it. -/
def ReadsBack (value : Value) : Prop :=
  ∀ rest, EndsNumber rest → ∀ fuel, (encode value).length ≤ fuel →
    readValue (fuel + 1) (encode value ++ rest) = .ok (value, rest)

theorem ne_of_isDigit {char digit : Char} (other : char.isDigit = false)
    (isDigit : digit.isDigit = true) : char ≠ digit := by
  rintro rfl
  cases isDigit.symm.trans other

theorem readWord?_of_integer {input : List Char} (integer : StartsInteger input) :
    readWord? input = none := by
  rcases integer with ⟨digit, rest, isDigit, rfl | rfl⟩
  · have n : 'n' ≠ digit := ne_of_isDigit (by decide) isDigit
    have t : 't' ≠ digit := ne_of_isDigit (by decide) isDigit
    have f : 'f' ≠ digit := ne_of_isDigit (by decide) isDigit
    have capitalN : 'N' ≠ digit := ne_of_isDigit (by decide) isDigit
    have capitalI : 'I' ≠ digit := ne_of_isDigit (by decide) isDigit
    have sign : '-' ≠ digit := ne_of_isDigit (by decide) isDigit
    simp [readWord?, words, n, t, f, capitalN, capitalI, sign]
  · have capitalI : 'I' ≠ digit := ne_of_isDigit (by decide) isDigit
    simp [readWord?, words, capitalI]

theorem readValue_word {input after : List Char} {value : Value}
    (found : readWord? input = some (value, after)) (fuel : Nat) :
    readValue (fuel + 1) input = .ok (value, after) := by
  rw [readValue]
  · rw [found]
  all_goals
    rintro rest rfl
    simp [readWord?, words] at found

theorem readsBack_null : ReadsBack .null := by
  intro rest _ fuel _
  apply readValue_word
  rw [encode]
  simp [readWord?, words]

theorem readsBack_bool (value : Bool) : ReadsBack (.bool value) := by
  intro rest _ fuel _
  apply readValue_word
  cases value with
  | true =>
    rw [encode]
    simp [readWord?, words]
  | false =>
    rw [encode]
    simp [readWord?, words]

theorem readsBack_int {value : Int} (short : IsShort value) : ReadsBack (.int value) := by
  intro rest ends fuel _
  have integer := startsInteger_toString value rest
  rw [encode, readValue]
  · rw [readWord?_of_integer integer, readNumber?_toString short ends, Option.getD_some]
  all_goals
    intro others equal
    rw [equal] at integer
    rcases integer with ⟨digit, more, isDigit, unsigned | signed⟩
    · exact ne_of_isDigit (by decide) isDigit (List.cons.inj unsigned).1
    · exact absurd (List.cons.inj signed).1 (by decide)

theorem readsBack_text (value : String) : ReadsBack (.text value) := by
  intro rest _ fuel _
  have split : encodedText value ++ rest =
      '"' :: (value.toList.flatMap encodedChar ++ '"' :: rest) := by simp [encodedText]
  rw [encode, split, readValue, readText_encoded]
  rfl

/-! ## Reading lists and objects -/

section items

variable {first : Value} (back : ReadsBack first) (done : List Value) (rest : List Char)
  {fuel : Nat} (enough : (encode first).length ≤ fuel)

include back enough

theorem readItems_last :
    readItems (fuel + 2) done (encode first ++ ']' :: rest) =
      .ok (.list (first :: done).reverse, rest) := by
  rw [readItems, back _ (endsNumber_of_mark (by decide) rest) fuel enough]
  dsimp only
  rw [skipBlanks_of_head (by decide)]
  rfl

theorem readItems_more :
    readItems (fuel + 2) done (encode first ++ ',' :: rest) =
      readItems (fuel + 1) (first :: done) (skipBlanks rest) := by
  rw [readItems, back _ (endsNumber_of_mark (by decide) rest) fuel enough]
  dsimp only
  rw [skipBlanks_of_head (by decide)]
  rfl

end items

theorem readItems_encoded {first : Value} {items : List Value}
    (each : ∀ item ∈ first :: items, IsReadable item ∧ ReadsBack item) (done : List Value)
    (rest : List Char) {fuel : Nat}
    (enough : (encode first).length + (encodeItems items).length ≤ fuel) :
    readItems (fuel + 1) done (encode first ++ (encodeItems items ++ rest)) =
      .ok (.list (done.reverse ++ first :: items), rest) := by
  induction items generalizing first done fuel with
  | nil =>
    rw [encodeItems, List.length_singleton] at enough
    obtain ⟨fuel, rfl⟩ : ∃ less, fuel = less + 1 := ⟨fuel - 1, by omega⟩
    rw [encodeItems, List.cons_append, List.nil_append,
      readItems_last (each first List.mem_cons_self).2 done rest (by omega), List.reverse_cons]
  | cons item others induction =>
    have itemReadable := (each item (List.mem_cons_of_mem _ List.mem_cons_self)).1
    have written : encodeItems (item :: others) ++ rest =
        ',' :: ' ' :: (encode item ++ (encodeItems others ++ rest)) := by simp [encodeItems]
    have length : (encodeItems (item :: others)).length =
        (encode item).length + (encodeItems others).length + 2 := by
      simp [encodeItems]
    obtain ⟨fuel, rfl⟩ : ∃ less, fuel = less + 1 := ⟨fuel - 1, by omega⟩
    rw [written, readItems_more (each first List.mem_cons_self).2 done _ (by omega),
      skipBlanks_space, skipBlanks_encode itemReadable,
      induction (fun other inside => each other (List.mem_cons_of_mem _ inside)) _ (by omega)]
    simp

theorem readsBack_list {items : List Value}
    (each : ∀ item ∈ items, IsReadable item ∧ ReadsBack item) : ReadsBack (.list items) := by
  intro rest _ fuel enough
  cases items with
  | nil =>
    rw [encode, List.cons_append, List.cons_append, readValue, skipBlanks_of_head (by decide)]
    rfl
  | cons first items =>
    rcases encode_starts (each first List.mem_cons_self).1 with ⟨char, others, encoded, starts⟩
    have written : encode (.list (first :: items)) ++ rest =
        '[' :: (encode first ++ (encodeItems items ++ rest)) := by simp [encode]
    have length : (encode (.list (first :: items))).length =
        (encode first).length + (encodeItems items).length + 1 := by
      simp [encode]
    obtain ⟨fuel, rfl⟩ : ∃ less, fuel = less + 1 := ⟨fuel - 1, by omega⟩
    rw [written, readValue, skipBlanks_encode (each first List.mem_cons_self).1]
    split
    · rename_i after equal
      rw [encoded, List.cons_append] at equal
      exact absurd (List.cons.inj equal).1 starts.2.1
    · rw [readItems_encoded each [] rest (by omega)]
      rfl

/-! ## Objects -/

section members

variable {value : Value} (readable : IsReadable value) (back : ReadsBack value) (name : String)
  (done : List (String × Value)) (rest : List Char) {fuel : Nat}
  (enough : (encode value).length ≤ fuel)

def encodedMember (name : String) (value : Value) (rest : List Char) : List Char :=
  encodedText name ++ ':' :: ' ' :: (encode value ++ rest)

theorem encodedMember_eq (name : String) (value : Value) (rest : List Char) :
    encodedMember name value rest =
      '"' :: (name.toList.flatMap encodedChar ++ '"' :: ':' :: ' ' :: (encode value ++ rest)) := by
  simp [encodedMember, encodedText]

include readable back enough

theorem readMembers_last :
    readMembers (fuel + 2) done (encodedMember name value ('\x7d' :: rest)) =
      .ok (.object (membersOf ((name, value) :: done).reverse), rest) := by
  have colon : isJsonBlank ':' = false := by decide
  have mark : isJsonBlank '\x7d' = false := by decide
  have read := back ('\x7d' :: rest) (endsNumber_of_mark (by decide) rest) fuel enough
  simp only [encodedMember_eq, readMembers, readText_encoded, skipBlanks_of_head colon,
    skipBlanks_space, skipBlanks_encode readable, read, skipBlanks_of_head mark]

theorem readMembers_more :
    readMembers (fuel + 2) done (encodedMember name value (',' :: rest)) =
      readMembers (fuel + 1) ((name, value) :: done) (skipBlanks rest) := by
  have colon : isJsonBlank ':' = false := by decide
  have mark : isJsonBlank ',' = false := by decide
  have read := back (',' :: rest) (endsNumber_of_mark (by decide) rest) fuel enough
  simp only [encodedMember_eq, readMembers, readText_encoded, skipBlanks_of_head colon,
    skipBlanks_space, skipBlanks_encode readable, read, skipBlanks_of_head mark]

end members

theorem skipBlanks_encodedMember (name : String) (value : Value) (rest : List Char) :
    skipBlanks (encodedMember name value rest) = encodedMember name value rest := by
  rw [encodedMember_eq, skipBlanks_of_head (by decide)]

theorem readMembers_encoded {name : String} {value : Value} {members : List (String × Value)}
    (each : ∀ member ∈ (name, value) :: members, IsReadable member.2 ∧ ReadsBack member.2)
    (done : List (String × Value)) (rest : List Char) {fuel : Nat}
    (enough : (encode value).length + (encodeMembers members).length ≤ fuel) :
    readMembers (fuel + 1) done (encodedMember name value (encodeMembers members ++ rest)) =
      .ok (.object (membersOf (done.reverse ++ (name, value) :: members)), rest) := by
  have readable : IsReadable value := (each (name, value) List.mem_cons_self).1
  have back : ReadsBack value := (each (name, value) List.mem_cons_self).2
  induction members generalizing name value done fuel with
  | nil =>
    rw [encodeMembers, List.length_singleton] at enough
    obtain ⟨fuel, rfl⟩ : ∃ less, fuel = less + 1 := ⟨fuel - 1, by omega⟩
    rw [encodeMembers, List.cons_append, List.nil_append,
      readMembers_last readable back name done rest (by omega), List.reverse_cons]
  | cons member others induction =>
    rcases member with ⟨next, held⟩
    have written : encodeMembers ((next, held) :: others) ++ rest =
        ',' :: ' ' :: encodedMember next held (encodeMembers others ++ rest) := by
      simp [encodeMembers, encodedMember]
    have length : (encode held).length + (encodeMembers others).length + 2 ≤
        (encodeMembers ((next, held) :: others)).length := by
      simp [encodeMembers]
      omega
    have later : ∀ other ∈ (next, held) :: others, IsReadable other.2 ∧ ReadsBack other.2 :=
      fun other inside => each other (List.mem_cons_of_mem _ inside)
    have nextReadable : IsReadable held := (later (next, held) List.mem_cons_self).1
    have nextBack : ReadsBack held := (later (next, held) List.mem_cons_self).2
    obtain ⟨fuel, rfl⟩ : ∃ less, fuel = less + 1 := ⟨fuel - 1, by omega⟩
    rw [written, readMembers_more readable back name done _ (by omega), skipBlanks_space,
      skipBlanks_encodedMember, induction later _ (by omega) nextReadable nextBack]
    simp

theorem readsBack_object {members : List (String × Value)}
    (distinct : (members.map Prod.fst).Nodup)
    (each : ∀ member ∈ members, IsReadable member.2 ∧ ReadsBack member.2) :
    ReadsBack (.object members) := by
  intro rest _ fuel enough
  cases members with
  | nil =>
    rw [encode, List.cons_append, List.cons_append, readValue, skipBlanks_of_head (by decide)]
    rfl
  | cons member members =>
    rcases member with ⟨name, value⟩
    have written : encode (.object ((name, value) :: members)) ++ rest =
        '\x7b' :: encodedMember name value (encodeMembers members ++ rest) := by
      simp [encode, encodedMember]
    have length : (encode value).length + (encodeMembers members).length + 1 ≤
        (encode (.object ((name, value) :: members))).length := by
      simp [encode]
      omega
    obtain ⟨fuel, rfl⟩ : ∃ less, fuel = less + 1 := ⟨fuel - 1, by omega⟩
    rw [written, readValue, skipBlanks_encodedMember]
    split
    · rename_i after equal
      rw [encodedMember_eq] at equal
      exact absurd (List.cons.inj equal).1 (by decide)
    · rw [readMembers_encoded each [] rest (by omega), List.reverse_nil, List.nil_append,
        membersOf_of_nodup distinct]

/-! ## Whole texts -/

theorem readsBack_of_isReadable {value : Value} (readable : IsReadable value) :
    ReadsBack value := by
  induction readable with
  | null => exact readsBack_null
  | bool value => exact readsBack_bool value
  | int short => exact readsBack_int short
  | text value => exact readsBack_text value
  | list each induction =>
    exact readsBack_list fun item inside => ⟨each item inside, induction item inside⟩
  | object distinct each induction =>
    exact readsBack_object distinct fun member inside =>
      ⟨each member inside, induction member inside⟩

theorem read_encode {value : Value} (readable : IsReadable value) :
    read (encode value) = .ok value := by
  have back := readsBack_of_isReadable readable [] nofun (2 * (encode value).length + 1) (by omega)
  have skipped := skipBlanks_encode readable []
  rw [List.append_nil] at back skipped
  unfold read
  split
  · rename_i rest equal
    rcases encode_starts readable with ⟨char, others, encoded, -, -, notMark⟩
    exact absurd (List.cons.inj (encoded.symm.trans equal)).1 notMark
  · rw [skipped, back]
    rfl

end ShadowLint.Json
