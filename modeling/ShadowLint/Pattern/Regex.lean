import ShadowLint.Pattern.Single

/-!
Patterns and where they match. A match is looked for by trying alternatives in
the order in which they are preferred: what is left to match is given as a
continuation, so that a choice that leads nowhere is taken back.
-/

namespace ShadowLint.Pattern

inductive Anchor where
  | textStart
  | textEnd
  | lineStart
  | lineEnd
  /-- The end of the text, or a line feed that ends it. -/
  | lastLineEnd
  | wordBoundary (asciiOnly negated : Bool)
  deriving DecidableEq, Repr

inductive Preference where
  | most
  | fewest
  /-- As many as possible, once and for all. -/
  | mostOnly
  deriving DecidableEq, Repr

def Preference.operator : Preference → String
  | most => "MAX_REPEAT"
  | fewest => "MIN_REPEAT"
  | mostOnly => "POSSESSIVE_REPEAT"

inductive Regex where
  | empty
  | single (test : Single)
  | anchor (test : Anchor)
  | backreference (group : Nat) (mode : Mode)
  | sequence (first second : Regex)
  | alternative (first second : Regex)
  | capture (group : Nat) (body : Regex)
  /-- Once the body has matched, its choices stand. -/
  | atomic (body : Regex)
  | repeated (preference : Preference) (least : Nat) (most : Option Nat) (body : Regex)
  /-- Does the body match ahead, or on the last `behind` characters? -/
  | look (behind : Option Nat) (negated : Bool) (body : Regex)
  | conditional (group : Nat) (yes no : Regex)
  deriving Repr, Inhabited

/-! ## Where a match has come to -/

structure Cursor where
  position : Nat
  starts : List (Nat × Nat)
  stops : List (Nat × Nat)
  deriving DecidableEq, Repr

namespace Cursor

private def put (key value : Nat) : List (Nat × Nat) → List (Nat × Nat)
  | [] => [(key, value)]
  | (other, held) :: rest =>
    if other = key then (key, value) :: rest else (other, held) :: put key value rest

def openGroup (cursor : Cursor) (group : Nat) : Cursor :=
  { cursor with starts := put group cursor.position cursor.starts }

def closeGroup (cursor : Cursor) (group : Nat) : Cursor :=
  { cursor with stops := put group cursor.position cursor.stops }

def group? (cursor : Cursor) (group : Nat) : Option (Nat × Nat) :=
  match cursor.starts.lookup group, cursor.stops.lookup group with
  | some start, some stop => if start ≤ stop then some (start, stop) else none
  | _, _ => none

end Cursor

abbrev Continuation := Cursor → Option Cursor

private def isWordAt (text : Array Char) (asciiOnly : Bool) (position : Nat) : Bool :=
  match text[position]? with
  | none => false
  | some char => Category.word.holds asciiOnly char.toNat

/-- Does the test hold at the position? An empty text has no word boundaries, and
no places that are none either. -/
def Anchor.holds (text : Array Char) (position : Nat) : Anchor → Bool
  | textStart => position = 0
  | textEnd => position = text.size
  | lineStart => position = 0 || text[position - 1]? = some '\n'
  | lineEnd => position = text.size || text[position]? = some '\n'
  | lastLineEnd =>
    position = text.size || (position + 1 = text.size && text[position]? = some '\n')
  | wordBoundary asciiOnly negated =>
    if text.isEmpty then false
    else
      let before := position ≠ 0 && isWordAt text asciiOnly (position - 1)
      (before != isWordAt text asciiOnly position) != negated

def repeatsAt (text : Array Char) (mode : Mode) (start stop position : Nat) : Bool :=
  (List.range (stop - start)).all fun offset =>
    match text[start + offset]?, text[position + offset]? with
    | some wanted, some given =>
      if mode.ignoreCase then mode.lower wanted.toNat = mode.lower given.toNat
      else wanted = given
    | _, _ => false

/-! ## Repetition -/

private def allows (most : Option Nat) (count : Nat) : Bool :=
  match most with
  | none => true
  | some most => count < most

/-- Repeats a body, more often before less often. A repetition beyond the least
number that took no character is not followed by another; `last` is where the
last such repetition began. -/
private def repeatMost (body : Cursor → Continuation → Option Cursor) (least : Nat)
    (most : Option Nat) : (fuel : Nat) → (count : Nat) → (last : Option Nat) →
    Cursor → Continuation → Option Cursor
  | 0, _, _, cursor, next => next cursor
  | fuel + 1, count, last, cursor, next =>
    if count < least then
      body cursor fun cursor => repeatMost body least most fuel (count + 1) last cursor next
    else if allows most count && last ≠ some cursor.position then
      (body cursor fun after =>
        repeatMost body least most fuel (count + 1) (some cursor.position) after next)
      <|> next cursor
    else next cursor

private def repeatFewest (body : Cursor → Continuation → Option Cursor) (least : Nat)
    (most : Option Nat) : (fuel : Nat) → (count : Nat) → (last : Option Nat) →
    Cursor → Continuation → Option Cursor
  | 0, _, _, cursor, next => next cursor
  | fuel + 1, count, last, cursor, next =>
    if count < least then
      body cursor fun cursor => repeatFewest body least most fuel (count + 1) last cursor next
    else
      next cursor <|>
        if allows most count && last ≠ some cursor.position then
          body cursor fun after =>
            repeatFewest body least most fuel (count + 1) (some cursor.position) after next
        else none

private def repeatAll (body : Cursor → Option Cursor) (least : Nat) (most : Option Nat) :
    (fuel : Nat) → (count : Nat) → Cursor → Option Cursor
  | 0, _, cursor => some cursor
  | fuel + 1, count, cursor =>
    if count < least then
      match body cursor with
      | none => none
      | some after => repeatAll body least most fuel (count + 1) after
    else if allows most count then
      match body cursor with
      | none => some cursor
      | some after =>
        if after.position = cursor.position then some after
        else repeatAll body least most fuel (count + 1) after
    else some cursor

/-! ## Matching -/

namespace Regex

def run (text : Array Char) : Regex → Cursor → Continuation → Option Cursor
  | empty, cursor, next => next cursor
  | single test, cursor, next =>
    match text[cursor.position]? with
    | none => none
    | some char =>
      if test.accepts char then next { cursor with position := cursor.position + 1 } else none
  | anchor test, cursor, next =>
    if test.holds text cursor.position then next cursor else none
  | backreference group mode, cursor, next =>
    match cursor.group? group with
    | none => none
    | some (start, stop) =>
      if repeatsAt text mode start stop cursor.position then
        next { cursor with position := cursor.position + (stop - start) }
      else none
  | sequence first second, cursor, next =>
    run text first cursor fun cursor => run text second cursor next
  | alternative first second, cursor, next =>
    run text first cursor next <|> run text second cursor next
  | capture group body, cursor, next =>
    run text body (cursor.openGroup group) fun cursor => next (cursor.closeGroup group)
  | atomic body, cursor, next =>
    match run text body cursor some with
    | none => none
    | some cursor => next cursor
  | repeated preference least most body, cursor, next =>
    let fuel := least + text.size + 2
    match preference with
    | .most =>
      repeatMost (fun cursor next => run text body cursor next) least most fuel 0 none cursor next
    | .fewest =>
      repeatFewest (fun cursor next => run text body cursor next) least most fuel 0 none cursor next
    | .mostOnly =>
      match repeatAll (fun cursor => run text body cursor some) least most fuel 0 cursor with
      | none => none
      | some cursor => next cursor
  | look behind negated body, cursor, next =>
    let width := behind.getD 0
    let found :=
      if width ≤ cursor.position then
        run text body { cursor with position := cursor.position - width } some
      else none
    match found, negated with
    | none, false => none
    | none, true => next cursor
    | some found, false => next { found with position := cursor.position }
    | some _, true => none
  | conditional group yes no, cursor, next =>
    if (cursor.group? group).isSome then run text yes cursor next
    else run text no cursor next

def isFoundIn (regex : Regex) (text : String) : Bool :=
  let chars := text.toList.toArray
  (List.range (chars.size + 1)).any fun start =>
    (regex.run chars ⟨start, [], []⟩ some).isSome

end Regex

end ShadowLint.Pattern
