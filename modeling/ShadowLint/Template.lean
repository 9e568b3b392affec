import ShadowLint.Value

/-!
Message templates. `\x7b0\x7d` stands for the first argument as free text and
`\x7b0!r\x7d` for its literal; a doubled brace stands for itself.
-/

namespace ShadowLint.Template

inductive Fault where
  | noArgument (index : Nat)
  /-- A brace stands alone, or a placeholder is none of the two forms. -/
  | malformed
  deriving DecidableEq, Repr

inductive Part where
  | char (letter : Char)
  | argument (index : Nat) (asLiteral : Bool)
  deriving DecidableEq, Repr

private def indexOf (digits : List Char) : Nat :=
  digits.foldl (fun index digit => 10 * index + (digit.toNat - 48)) 0

private def placeholder? (input : List Char) : Option (Part × List Char) :=
  let digits := input.takeWhile Char.isDigit
  if digits.isEmpty then none
  else match input.dropWhile Char.isDigit with
    | '\x7d' :: rest => some (.argument (indexOf digits) false, rest)
    | '!' :: 's' :: '\x7d' :: rest => some (.argument (indexOf digits) false, rest)
    | '!' :: 'r' :: '\x7d' :: rest => some (.argument (indexOf digits) true, rest)
    | _ => none

private def next? : List Char → Option (Part × List Char)
  | '\x7b' :: '\x7b' :: rest => some (.char '\x7b', rest)
  | '\x7d' :: '\x7d' :: rest => some (.char '\x7d', rest)
  | '\x7b' :: rest => placeholder? rest
  | '\x7d' :: _ => none
  | char :: rest => some (.char char, rest)
  | [] => none

private def Part.fill (arguments : List Value) : Part → Except Fault (List Char)
  | .char letter => .ok [letter]
  | .argument index asLiteral =>
    match arguments[index]? with
    | none => .error (.noArgument index)
    | some value => .ok (if asLiteral then value.literal else value.plain).toList

/-- Fills in a template part by part and stops at the first that cannot be
filled; `done` holds the text so far, last first. A part takes at least one
character, so that the length of the template is fuel enough. -/
private def fillFrom (arguments : List Value) :
    (fuel : Nat) → (done : List Char) → List Char → Except Fault (List Char)
  | _, done, [] => .ok done.reverse
  | 0, _, _ :: _ => .error .malformed
  | fuel + 1, done, input =>
    match next? input with
    | none => .error .malformed
    | some (part, rest) =>
      match part.fill arguments with
      | .error fault => .error fault
      | .ok text => fillFrom arguments fuel (text.reverse ++ done) rest

def fill (template : String) (arguments : List Value) : Except Fault String :=
  (fillFrom arguments template.length [] template.toList).map String.ofList

example : (fill "'\x7b0\x7d' hides \x7b0!r\x7d" [.text "x"]).toOption = some "'x' hides 'x'" := by
  decide +kernel

/-! ## Filling in one argument -/

private def isPlain (letter : Char) : Prop := letter ≠ '\x7b' ∧ letter ≠ '\x7d'

private theorem next?_of_isPlain {letter : Char} (plain : isPlain letter)
    (rest : List Char) : next? (letter :: rest) = some (.char letter, rest) := by
  unfold next?
  split <;> simp_all [isPlain]

private theorem fillFrom_append (arguments : List Value) (letters rest : List Char)
    (plain : ∀ letter ∈ letters, isPlain letter) (fuel : Nat) (done : List Char) :
    fillFrom arguments (fuel + letters.length) done (letters ++ rest) =
      fillFrom arguments fuel (letters.reverse ++ done) rest := by
  induction letters generalizing done with
  | nil => rfl
  | cons letter letters induction =>
    have step := induction (fun other member => plain other (List.mem_cons_of_mem _ member))
      (letter :: done)
    rw [List.cons_append, List.length_cons, ← Nat.add_assoc, fillFrom,
      next?_of_isPlain (plain letter List.mem_cons_self)]
    · simpa [Part.fill] using step
    · exact List.cons_ne_nil _ _

/-- A template that holds one placeholder, for the first argument, and no other
brace is filled in by putting the free text of the argument in its place. -/
theorem fill_first (before after : String) (value : Value) (others : List Value)
    (plainBefore : ∀ letter ∈ before.toList, letter ≠ '\x7b' ∧ letter ≠ '\x7d')
    (plainAfter : ∀ letter ∈ after.toList, letter ≠ '\x7b' ∧ letter ≠ '\x7d') :
    fill (before ++ "\x7b0\x7d" ++ after) (value :: others) =
      .ok (before ++ value.plain ++ after) := by
  have fuel : (before ++ "\x7b0\x7d" ++ after).length =
      2 + after.toList.length + 1 + before.toList.length := by
    simp only [String.length_append, String.length_toList]
    rw [show ("\x7b0\x7d" : String).length = 3 by decide]
    omega
  have text : (before ++ "\x7b0\x7d" ++ after).toList =
      before.toList ++ ('\x7b' :: '0' :: '\x7d' :: after.toList) := by
    simp
  have placeholder : next? ('\x7b' :: '0' :: '\x7d' :: after.toList) =
      some (.argument 0 false, after.toList) := by
    simp [next?, placeholder?, indexOf]
  have last := fillFrom_append (value :: others) after.toList [] plainAfter 2
    (value.plain.toList.reverse ++ (before.toList.reverse ++ []))
  simp only [List.append_nil] at last
  rw [fill, fuel, text, fillFrom_append _ _ _ plainBefore, fillFrom, placeholder]
  · simp only [Part.fill, List.getElem?_cons_zero, Bool.false_eq_true, if_false,
      List.append_nil, last, fillFrom, Except.map]
    simp [String.append_assoc, String.ofList_append]
  · exact List.cons_ne_nil _ _

end ShadowLint.Template
