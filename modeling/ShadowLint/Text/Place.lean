/-!
Places in a text: an offset counts characters from the start, a place gives line
and column, both counted from one. Lines end at a line feed only.
-/

namespace ShadowLint.Text

/-- A line and a column, counted from one. -/
structure Place where
  line : Nat
  column : Nat
  deriving DecidableEq, Repr, Inhabited

def Place.advance (place : Place) : List Char → Place
  | [] => place
  | char :: rest =>
    if char = '\n' then Place.advance ⟨place.line + 1, 1⟩ rest
    else Place.advance ⟨place.line, place.column + 1⟩ rest

def placeAt (text : List Char) (offset : Nat) : Place :=
  Place.advance ⟨1, 1⟩ (text.take offset)

theorem Place.advance_append (place : Place) (left right : List Char) :
    place.advance (left ++ right) = (place.advance left).advance right := by
  induction left generalizing place with
  | nil => rfl
  | cons char rest induction =>
    simp only [List.cons_append, Place.advance]
    split <;> exact induction _

example : placeAt "ab\ncd".toList 4 = ⟨2, 2⟩ := by decide

end ShadowLint.Text
