import Mathlib.Data.List.TakeDrop
import ShadowLint.Json.Reader
import ShadowLint.Json.Writer
import ShadowLint.Proofs.Text.Runs

/-!
Texts and integers as they are written and read. Each character of a text is written in one
of four ways (as itself, as a short escape, as one unit or as two), and each is read back as
the character (`Json.readTextFrom_encodedChar`), so that texts are (`Json.readText_encoded`).
An integer that is not too long is read back from its digits (`Json.readNumber?_toString`).
-/

namespace ShadowLint.Json

/-! ## Units -/

theorem hexValue?_hexDigit {digit : Nat} (small : digit < 16) :
    hexValue? (Text.hexDigit digit) = some digit := by
  have each : ∀ digit < 16, hexValue? (Text.hexDigit digit) = some digit := by decide
  exact each digit small

theorem unit?_hexDigits {unit : Nat} (small : unit < 0x10000) {rest : List Char}
    (nonempty : rest ≠ []) : unit? (Text.hexDigits 4 unit ++ rest) = some (unit, rest) := by
  rcases List.exists_cons_of_ne_nil nonempty with ⟨next, others, rfl⟩
  have digits : Text.hexDigits 4 unit = [Text.hexDigit (unit / 16 / 16 / 16 % 16),
      Text.hexDigit (unit / 16 / 16 % 16), Text.hexDigit (unit / 16 % 16),
      Text.hexDigit (unit % 16)] := rfl
  have value : ((unit / 16 / 16 / 16 % 16 * 16 + unit / 16 / 16 % 16) * 16 + unit / 16 % 16) * 16 +
      unit % 16 = unit := by omega
  rw [digits]
  simp only [List.cons_append, List.nil_append, unit?]
  simp only [hexValue?_hexDigit (Nat.mod_lt _ (by decide : 0 < 16)), Option.bind_eq_bind,
    Option.bind_some, value]

theorem toNat_cases (char : Char) :
    char.toNat < 0xD800 ∨ 0xDFFF < char.toNat ∧ char.toNat < 0x110000 :=
  char.valid

theorem isHighSurrogate_char (char : Char) : isHighSurrogate char.toNat = false := by
  have valid := toNat_cases char
  simp only [isHighSurrogate, Bool.and_eq_false_iff, decide_eq_false_iff_not]
  omega

theorem isLowSurrogate_char (char : Char) : isLowSurrogate char.toNat = false := by
  have valid := toNat_cases char
  simp only [isLowSurrogate, Bool.and_eq_false_iff, decide_eq_false_iff_not]
  omega

theorem unitChar_char (char : Char) : unitChar char.toNat = char := by
  simp [unitChar, isHighSurrogate_char, isLowSurrogate_char]

/-! ## Characters -/

variable {whole done rest : List Char}

theorem readTextFrom_close (whole done rest : List Char) :
    readTextFrom whole done ('"' :: rest) = .ok (String.ofList done.reverse, rest) := by
  rw [readTextFrom]

theorem readTextFrom_plain {char : Char} (notQuote : char ≠ '"') (notEscape : char ≠ '\\')
    (notControl : 0x1F < char.toNat) :
    readTextFrom whole done (char :: rest) = readTextFrom whole (char :: done) rest := by
  rw [readTextFrom]
  · rw [if_neg (not_le.mpr notControl)]
  · exact notQuote
  · exact fun equal => absurd equal notEscape
  · exact fun _ equal => absurd equal notEscape
  · exact fun _ _ equal => absurd equal notEscape

theorem readTextFrom_escaped {mark char : Char} (notUnit : mark ≠ 'u')
    (escaped : simpleEscape? mark = some char) :
    readTextFrom whole done ('\\' :: mark :: rest) = readTextFrom whole (char :: done) rest := by
  rw [readTextFrom]
  · rw [escaped]
  · exact notUnit

theorem readTextFrom_unit {char : Char} (single : char.toNat ≤ 0xFFFF) (nonempty : rest ≠ []) :
    readTextFrom whole done (escapedUnit char.toNat ++ rest) =
      readTextFrom whole (char :: done) rest := by
  have read := unit?_hexDigits (Nat.lt_succ_of_le single) nonempty
  rw [escapedUnit, List.cons_append, List.cons_append, readTextFrom]
  split
  · rename_i absent
    cases read.symm.trans absent
  · rename_i unit after present
    cases read.symm.trans present
    simp [isHighSurrogate_char, unitChar_char]

theorem secondHalf_escapedUnit {unit : Nat} (small : unit < 0x10000) (nonempty : rest ≠ []) :
    ∃ shorter, secondHalf (escapedUnit unit ++ rest) = .present unit rest shorter := by
  have read := unit?_hexDigits small nonempty
  have behind : ((Text.hexDigits 4 unit ++ rest).drop 4).isEmpty = false := by
    rw [List.drop_left' (Text.length_hexDigits 4 unit), List.isEmpty_eq_false_iff]
    exact nonempty
  have shorter : rest.length < ('\\' :: 'u' :: (Text.hexDigits 4 unit ++ rest)).length := by
    simp only [List.length_cons, List.length_append]
    omega
  rw [escapedUnit, List.cons_append, List.cons_append, secondHalf, behind]
  simp only [Bool.false_eq_true, if_false]
  split
  · rename_i absent
    cases read.symm.trans absent
  · rename_i present
    cases read.symm.trans present
    exact ⟨shorter, rfl⟩

theorem readTextFrom_pair {high low : Nat} (isHigh : isHighSurrogate high = true)
    (isLow : isLowSurrogate low = true) (nonempty : rest ≠ []) :
    readTextFrom whole done (escapedUnit high ++ (escapedUnit low ++ rest)) =
      readTextFrom whole (Char.ofNat (0x10000 + (high - 0xD800) * 0x400 + (low - 0xDC00)) :: done)
        rest := by
  have highSmall : high < 0x10000 := by
    simp only [isHighSurrogate, Bool.and_eq_true, decide_eq_true_eq] at isHigh
    omega
  have lowSmall : low < 0x10000 := by
    simp only [isLowSurrogate, Bool.and_eq_true, decide_eq_true_eq] at isLow
    omega
  have more : escapedUnit low ++ rest ≠ [] := List.append_ne_nil_of_right_ne_nil _ nonempty
  have read := unit?_hexDigits highSmall more
  rcases secondHalf_escapedUnit lowSmall nonempty with ⟨shorter, second⟩
  rw [escapedUnit, List.cons_append, List.cons_append, readTextFrom]
  split
  · rename_i absent
    cases read.symm.trans absent
  · rename_i unit after present
    cases read.symm.trans present
    rw [if_pos isHigh, second]
    simp only [isLow, if_true]

theorem readTextFrom_encodedChar (char : Char) (nonempty : rest ≠ []) :
    readTextFrom whole done (encodedChar char ++ rest) =
      readTextFrom whole (char :: done) rest := by
  unfold encodedChar
  split_ifs with quote escape lineFeed carriageReturn tab formFeed backspace plain single
  · subst quote
    exact readTextFrom_escaped (by decide) rfl
  · subst escape
    exact readTextFrom_escaped (by decide) rfl
  · subst lineFeed
    exact readTextFrom_escaped (by decide) rfl
  · subst carriageReturn
    exact readTextFrom_escaped (by decide) rfl
  · subst tab
    exact readTextFrom_escaped (by decide) rfl
  · subst formFeed
    exact readTextFrom_escaped (by decide) rfl
  · subst backspace
    exact readTextFrom_escaped (by decide) rfl
  · exact readTextFrom_plain quote escape (by omega)
  · exact readTextFrom_unit single nonempty
  · have valid := toNat_cases char
    have isHigh : isHighSurrogate (0xD800 + (char.toNat - 0x10000) / 0x400) = true := by
      simp only [isHighSurrogate, Bool.and_eq_true, decide_eq_true_eq]
      omega
    have isLow : isLowSurrogate (0xDC00 + (char.toNat - 0x10000) % 0x400) = true := by
      simp only [isLowSurrogate, Bool.and_eq_true, decide_eq_true_eq]
      omega
    have value : 0x10000 + (0xD800 + (char.toNat - 0x10000) / 0x400 - 0xD800) * 0x400 +
        (0xDC00 + (char.toNat - 0x10000) % 0x400 - 0xDC00) = char.toNat := by omega
    rw [List.append_assoc, readTextFrom_pair isHigh isLow nonempty, value, Char.ofNat_toNat]

/-! ## Texts -/

theorem readTextFrom_encoded (whole done chars rest : List Char) :
    readTextFrom whole done (chars.flatMap encodedChar ++ '"' :: rest) =
      .ok (String.ofList (done.reverse ++ chars), rest) := by
  induction chars generalizing done with
  | nil => rw [List.flatMap_nil, List.nil_append, readTextFrom_close, List.append_nil]
  | cons char others induction =>
    have more : others.flatMap encodedChar ++ '"' :: rest ≠ [] := by simp
    rw [List.flatMap_cons, List.append_assoc, readTextFrom_encodedChar char more, induction]
    simp

theorem readText_encoded (text : String) (rest : List Char) :
    readText (text.toList.flatMap encodedChar ++ '"' :: rest) = .ok (text, rest) := by
  rw [readText, readTextFrom_encoded, List.reverse_nil, List.nil_append, String.ofList_toList]

/-! ## Integers -/

theorem isDigit_of_mem_toDigits {value : Nat} {char : Char}
    (inside : char ∈ Nat.toDigits 10 value) : char.isDigit = true :=
  Nat.isDigit_of_mem_toDigits (by decide) (by decide) inside

theorem head_toDigits {value : Nat} (positive : 0 < value) :
    ∃ first others, Nat.toDigits 10 value = first :: others ∧ first ≠ '0' := by
  induction value using Nat.strongRecOn with
  | ind value induction =>
    rw [Nat.toDigits_eq_if (by decide)]
    by_cases small : value < 10
    · rw [if_pos small]
      refine ⟨_, [], rfl, ?_⟩
      rw [ne_eq, Nat.digitChar_eq_zero]
      omega
    · rw [if_neg small]
      rcases induction (value / 10) (by omega) (by omega) with ⟨first, others, digits, notZero⟩
      exact ⟨first, others ++ [(value % 10).digitChar], by rw [digits]; rfl, notZero⟩

theorem digitsValue_toDigits (value : Nat) : digitsValue (Nat.toDigits 10 value) = value := by
  have same := @Nat.ofDigitChars_ten_toDigits value
  rwa [Nat.ofDigitChars_eq_foldl] at same

/-- What follows an integer does not go on with it. -/
def EndsNumber (rest : List Char) : Prop :=
  ∀ char ∈ rest.head?, char.isDigit = false ∧ char ≠ '.' ∧ char ≠ 'e' ∧ char ≠ 'E'

theorem takeDigits_toDigits (value : Nat) (ends : EndsNumber rest) :
    takeDigits (Nat.toDigits 10 value ++ rest) = (Nat.toDigits 10 value, rest) := by
  have digits : ∀ char ∈ Nat.toDigits 10 value, char.isDigit = true :=
    fun char inside => isDigit_of_mem_toDigits inside
  have stops : ∀ char ∈ rest.head?, char.isDigit = false := fun char first => (ends char first).1
  rw [takeDigits, List.span_eq_takeWhile_dropWhile, Text.takeWhile_run digits stops,
    Text.dropWhile_run digits stops]

theorem fractionPart_of_ends (ends : EndsNumber rest) : fractionPart rest = ([], rest) := by
  unfold fractionPart
  split
  · exact absurd rfl (ends '.' rfl).2.1
  · rfl

theorem exponentPart_of_ends (ends : EndsNumber rest) : exponentPart rest = (none, rest) := by
  cases rest with
  | nil => rfl
  | cons mark others =>
    have other : ¬ (mark = 'e' ∨ mark = 'E') := not_or.mpr (ends mark rfl).2.2
    simp only [exponentPart, if_neg other]

theorem wholePart_toDigits (value : Nat) (ends : EndsNumber rest) :
    wholePart (Nat.toDigits 10 value ++ rest) = (Nat.toDigits 10 value, rest) := by
  rcases Nat.eq_zero_or_pos value with zero | positive
  · rw [zero, Nat.toDigits_zero]
    rfl
  · rcases head_toDigits positive with ⟨first, others, digits, notZero⟩
    rw [wholePart, takeDigits_toDigits value ends]
    rw [digits]
    intro more equal
    exact absurd (List.cons.inj equal).1 notZero

theorem readMagnitude_toDigits {value : Nat}
    (short : (Nat.toDigits 10 value).length ≤ digitLimit) (negative : Bool)
    (ends : EndsNumber rest) :
    readMagnitude negative (Nat.toDigits 10 value ++ rest) =
      some (.ok (.int (if negative then -(value : Int) else value), rest)) := by
  have notLong : ¬ digitLimit < (Nat.toDigits 10 value).length := not_lt.mpr short
  have nonempty : (Nat.toDigits 10 value).isEmpty = false :=
    List.isEmpty_eq_false_iff.mpr Nat.toDigits_ne_nil
  simp only [readMagnitude, wholePart_toDigits value ends, nonempty, fractionPart_of_ends ends,
    exponentPart_of_ends ends, digitsValue_toDigits, List.isEmpty_nil, Option.isNone_none,
    Bool.and_self, if_true, if_neg notLong, Bool.false_eq_true, if_false]

theorem toList_toString (value : Int) :
    (toString value).toList =
      (if value < 0 then ['-'] else []) ++ Nat.toDigits 10 value.natAbs := by
  cases value with
  | ofNat size =>
    have text : toString (Int.ofNat size) = size.repr := rfl
    rw [text, Nat.repr_eq_ofList_toDigits, String.toList_ofList]
    simp
  | negSucc size =>
    have text : toString (Int.negSucc size) = "-" ++ (size + 1).repr := rfl
    rw [text, String.toList_append, Nat.repr_eq_ofList_toDigits, String.toList_ofList]
    simp [Int.negSucc_lt_zero]

/-- The integer has no more digits than are read. -/
def IsShort (value : Int) : Prop := (Nat.toDigits 10 value.natAbs).length ≤ digitLimit

instance (value : Int) : Decidable (IsShort value) := inferInstanceAs (Decidable (_ ≤ _))

theorem readNumber?_toString {value : Int} (short : IsShort value) (ends : EndsNumber rest) :
    readNumber? ((toString value).toList ++ rest) = some (.ok (.int value, rest)) := by
  rw [toList_toString]
  by_cases negative : value < 0
  · have signed : -(value.natAbs : Int) = value := by omega
    rw [if_pos negative, List.append_assoc, List.cons_append, List.nil_append, readNumber?,
      readMagnitude_toDigits short true ends, if_pos rfl, signed]
  · have unsigned : (value.natAbs : Int) = value := by omega
    rw [if_neg negative, List.nil_append, readNumber?]
    · rw [readMagnitude_toDigits short false ends, if_neg Bool.false_ne_true, unsigned]
    · intro others equal
      have first : '-' ∈ Nat.toDigits 10 value.natAbs := by
        rcases List.exists_cons_of_ne_nil (@Nat.toDigits_ne_nil value.natAbs 10) with
          ⟨digit, more, digits⟩
        rw [digits] at equal ⊢
        rw [(List.cons.inj equal).1]
        exact List.mem_cons_self
      exact absurd (isDigit_of_mem_toDigits first) (by decide)

end ShadowLint.Json
