import ShadowLint.Proofs.Json.RoundTrip

/-!
The characters that are written. Whatever characters a value holds, its text is printable ASCII
on one line (`Json.isPlain_encode`).
-/

namespace ShadowLint.Json

def IsPlain (char : Char) : Prop := 0x20 ≤ char.toNat ∧ char.toNat ≤ 0x7E

instance (char : Char) : Decidable (IsPlain char) := inferInstanceAs (Decidable (_ ∧ _))

theorem isPlain_of_all {chars : List Char}
    (each : (chars.all fun char => decide (IsPlain char)) = true) :
    ∀ char ∈ chars, IsPlain char := by
  simpa using each

theorem isPlain_hexDigits {width value : Nat} :
    ∀ char ∈ Text.hexDigits width value, IsPlain char := by
  have each : ∀ digit < 16, IsPlain (Text.hexDigit digit) := by decide
  induction width generalizing value with
  | zero => nofun
  | succ width induction =>
    rw [Text.hexDigits]
    intro char inside
    rcases List.mem_append.mp inside with earlier | last
    · exact induction char earlier
    · rw [List.mem_singleton.mp last]
      exact each (value % 16) (Nat.mod_lt _ (by decide))

theorem isPlain_escapedUnit (unit : Nat) : ∀ char ∈ escapedUnit unit, IsPlain char := by
  rw [escapedUnit]
  simp only [List.forall_mem_cons]
  exact ⟨by decide, by decide, isPlain_hexDigits⟩

theorem isPlain_encodedChar (char : Char) : ∀ written ∈ encodedChar char, IsPlain written := by
  unfold encodedChar
  split_ifs with _ _ _ _ _ _ _ plain
  -- The seven short escapes are fixed texts.
  iterate 7 exact isPlain_of_all rfl
  · intro written isChar
    rw [List.mem_singleton.mp isChar]
    exact plain
  · exact isPlain_escapedUnit _
  · exact List.forall_mem_append.mpr ⟨isPlain_escapedUnit _, isPlain_escapedUnit _⟩

theorem isPlain_encodedText (text : String) : ∀ char ∈ encodedText text, IsPlain char := by
  intro char inside
  simp only [encodedText, List.cons_append, List.mem_cons, List.mem_append, List.mem_flatMap,
    List.not_mem_nil, or_false] at inside
  rcases inside with rfl | ⟨written, -, inChar⟩ | rfl
  · decide
  · exact isPlain_encodedChar written char inChar
  · decide

theorem isPlain_toString (value : Int) : ∀ char ∈ (toString value).toList, IsPlain char := by
  have digits : ∀ char ∈ Nat.toDigits 10 value.natAbs, IsPlain char := by
    intro char inside
    rcases Char.isDigit_iff_toNat.mp (isDigit_of_mem_toDigits inside) with ⟨lower, upper⟩
    have zero : '0'.toNat = 48 := rfl
    have nine : '9'.toNat = 57 := rfl
    unfold IsPlain
    omega
  rw [toList_toString]
  split
  · exact List.forall_mem_append.mpr ⟨isPlain_of_all rfl, digits⟩
  · exact digits

theorem isPlain_encodeItems {items : List Value}
    (each : ∀ item ∈ items, ∀ char ∈ encode item, IsPlain char) :
    ∀ char ∈ encodeItems items, IsPlain char := by
  induction items with
  | nil =>
    rw [encodeItems]
    exact isPlain_of_all rfl
  | cons item rest induction =>
    rcases List.forall_mem_cons.mp each with ⟨first, later⟩
    rw [encodeItems]
    simp only [List.cons_append, List.forall_mem_cons, List.forall_mem_append]
    exact ⟨by decide, by decide, first, induction later⟩

theorem isPlain_encodeMembers {members : List (String × Value)}
    (each : ∀ member ∈ members, ∀ char ∈ encode member.2, IsPlain char) :
    ∀ char ∈ encodeMembers members, IsPlain char := by
  induction members with
  | nil =>
    rw [encodeMembers]
    exact isPlain_of_all rfl
  | cons member rest induction =>
    rcases member with ⟨name, value⟩
    rcases List.forall_mem_cons.mp each with ⟨first, later⟩
    rw [encodeMembers]
    simp only [List.cons_append, List.forall_mem_cons, List.forall_mem_append, List.append_assoc]
    exact ⟨by decide, by decide, isPlain_encodedText name, by decide, by decide, first,
      induction later⟩

theorem isPlain_encode {value : Value} (readable : IsReadable value) :
    ∀ char ∈ encode value, IsPlain char := by
  induction readable with
  | null =>
    rw [encode]
    exact isPlain_of_all rfl
  | bool value =>
    cases value with
    | true =>
      rw [encode]
      exact isPlain_of_all rfl
    | false =>
      rw [encode]
      exact isPlain_of_all rfl
  | @int value _ =>
    rw [encode]
    exact isPlain_toString value
  | text value =>
    rw [encode]
    exact isPlain_encodedText value
  | @list items _ induction =>
    cases items with
    | nil =>
      rw [encode]
      exact isPlain_of_all rfl
    | cons item rest =>
      rcases List.forall_mem_cons.mp induction with ⟨first, later⟩
      rw [encode]
      simp only [List.cons_append, List.forall_mem_cons, List.forall_mem_append]
      exact ⟨by decide, first, isPlain_encodeItems later⟩
  | @object members _ _ induction =>
    cases members with
    | nil =>
      rw [encode]
      exact isPlain_of_all rfl
    | cons member rest =>
      rcases member with ⟨name, value⟩
      rcases List.forall_mem_cons.mp induction with ⟨first, later⟩
      rw [encode]
      simp only [List.cons_append, List.forall_mem_cons, List.forall_mem_append, List.append_assoc]
      exact ⟨by decide, isPlain_encodedText name, by decide, by decide, first,
        isPlain_encodeMembers later⟩

end ShadowLint.Json
