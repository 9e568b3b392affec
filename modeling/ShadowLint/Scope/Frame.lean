/-!
The fields that one class declares.
-/

namespace ShadowLint

/-- The names of the fields declared at one level of nested classes, and the
position of the frame of the enclosing level. -/
structure FieldFrame where
  isStatic : Bool
  parent : Option Nat
  instanceFields : List String
  staticFields : List String
  deriving DecidableEq, Repr, Inhabited

namespace FieldFrame

def empty (isStatic : Bool) (parent : Option Nat) : FieldFrame :=
  { isStatic, parent, instanceFields := [], staticFields := [] }

def outermost : FieldFrame := empty true none

def addInstance (frame : FieldFrame) (name : String) : FieldFrame :=
  { frame with instanceFields := frame.instanceFields.insert name }

def addStatic (frame : FieldFrame) (name : String) : FieldFrame :=
  { frame with staticFields := frame.staticFields.insert name }

def add (frame : FieldFrame) (isStatic : Bool) (name : String) : FieldFrame :=
  if isStatic then frame.addStatic name else frame.addInstance name

def holdsInstance (frame : FieldFrame) (name : String) : Bool :=
  frame.instanceFields.contains name

def holdsStatic (frame : FieldFrame) (name : String) : Bool :=
  frame.staticFields.contains name

def holds (frame : FieldFrame) (isStatic : Bool) (name : String) : Bool :=
  if isStatic then frame.holdsStatic name else frame.holdsInstance name

@[simp] theorem holdsInstance_addInstance (frame : FieldFrame) (added name : String) :
    (frame.addInstance added).holdsInstance name =
      (name == added || frame.holdsInstance name) := by
  rw [Bool.eq_iff_iff]; simp [addInstance, holdsInstance]

@[simp] theorem holdsStatic_addStatic (frame : FieldFrame) (added name : String) :
    (frame.addStatic added).holdsStatic name =
      (name == added || frame.holdsStatic name) := by
  rw [Bool.eq_iff_iff]; simp [addStatic, holdsStatic]

@[simp] theorem holdsInstance_addStatic (frame : FieldFrame) (added name : String) :
    (frame.addStatic added).holdsInstance name = frame.holdsInstance name := rfl

@[simp] theorem holdsStatic_addInstance (frame : FieldFrame) (added name : String) :
    (frame.addInstance added).holdsStatic name = frame.holdsStatic name := rfl

@[simp] theorem isStatic_add (frame : FieldFrame) (isStatic : Bool) (name : String) :
    (frame.add isStatic name).isStatic = frame.isStatic := by
  cases isStatic <;> rfl

@[simp] theorem parent_add (frame : FieldFrame) (isStatic : Bool) (name : String) :
    (frame.add isStatic name).parent = frame.parent := by
  cases isStatic <;> rfl

@[simp] theorem holdsInstance_add (frame : FieldFrame) (isStatic : Bool) (added name : String) :
    (frame.add isStatic added).holdsInstance name =
      (!isStatic && name == added || frame.holdsInstance name) := by
  cases isStatic <;> simp [add]

@[simp] theorem holdsStatic_add (frame : FieldFrame) (isStatic : Bool) (added name : String) :
    (frame.add isStatic added).holdsStatic name =
      (isStatic && name == added || frame.holdsStatic name) := by
  cases isStatic <;> simp [add]

theorem holds_add (frame : FieldFrame) (isStatic : Bool) (added : String) (asked : Bool)
    (name : String) :
    (frame.add isStatic added).holds asked name = true ↔
      frame.holds asked name = true ∨ (asked, name) = (isStatic, added) := by
  cases asked <;> cases isStatic <;> simp [holds, or_comm]

@[simp] theorem isStatic_empty (isStatic : Bool) (parent : Option Nat) :
    (empty isStatic parent).isStatic = isStatic := rfl

@[simp] theorem parent_empty (isStatic : Bool) (parent : Option Nat) :
    (empty isStatic parent).parent = parent := rfl

@[simp] theorem holdsInstance_empty (isStatic : Bool) (parent : Option Nat) (name : String) :
    (empty isStatic parent).holdsInstance name = false := rfl

@[simp] theorem holdsStatic_empty (isStatic : Bool) (parent : Option Nat) (name : String) :
    (empty isStatic parent).holdsStatic name = false := rfl

end FieldFrame

end ShadowLint
