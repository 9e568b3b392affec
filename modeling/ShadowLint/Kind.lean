/-!
The closed list of syntax-tree node kinds, the names they are written with, and
the text a keyword node carries when none is given. A name belongs to at most
one kind (`Kind.ofName?_name`, `Kind.name_of_ofName?`).
-/

namespace ShadowLint

inductive Kind where
  | compilationUnit
  | packageDef
  | importDef
  | classDef
  | interfaceDef
  | objBlock
  | extendsClause
  | implementsClause
  | variableDef
  | methodDef
  | ctorDef
  | staticInit
  | instanceInit
  | parameters
  | parameterDef
  | modifiers
  | literalStatic
  | literalPublic
  | literalProtected
  | literalPrivate
  | finalModifier
  | abstractModifier
  | typeName
  | literalVoid
  | literalInt
  | literalBoolean
  | ident
  | statementList
  | expr
  | assign
  | literalReturn
  | literalFor
  | forInit
  | forCondition
  | forIterator
  | forEachClause
  | literalTry
  | literalCatch
  | literalNew
  | expressionList
  | numInt
  deriving DecidableEq, Repr, Inhabited

namespace Kind

def all : List Kind := [
  compilationUnit, packageDef, importDef, classDef, interfaceDef, objBlock,
  extendsClause, implementsClause, variableDef, methodDef, ctorDef, staticInit,
  instanceInit, parameters, parameterDef, modifiers, literalStatic,
  literalPublic, literalProtected, literalPrivate, finalModifier,
  abstractModifier, typeName, literalVoid, literalInt, literalBoolean, ident,
  statementList, expr, assign, literalReturn, literalFor, forInit, forCondition,
  forIterator, forEachClause, literalTry, literalCatch, literalNew,
  expressionList, numInt]

theorem mem_all (kind : Kind) : kind ∈ all := by
  cases kind <;> decide

def name : Kind → String
  | compilationUnit => "COMPILATION_UNIT"
  | packageDef => "PACKAGE_DEF"
  | importDef => "IMPORT"
  | classDef => "CLASS_DEF"
  | interfaceDef => "INTERFACE_DEF"
  | objBlock => "OBJBLOCK"
  | extendsClause => "EXTENDS_CLAUSE"
  | implementsClause => "IMPLEMENTS_CLAUSE"
  | variableDef => "VARIABLE_DEF"
  | methodDef => "METHOD_DEF"
  | ctorDef => "CTOR_DEF"
  | staticInit => "STATIC_INIT"
  | instanceInit => "INSTANCE_INIT"
  | parameters => "PARAMETERS"
  | parameterDef => "PARAMETER_DEF"
  | modifiers => "MODIFIERS"
  | literalStatic => "LITERAL_STATIC"
  | literalPublic => "LITERAL_PUBLIC"
  | literalProtected => "LITERAL_PROTECTED"
  | literalPrivate => "LITERAL_PRIVATE"
  | finalModifier => "FINAL"
  | abstractModifier => "ABSTRACT"
  | typeName => "TYPE"
  | literalVoid => "LITERAL_VOID"
  | literalInt => "LITERAL_INT"
  | literalBoolean => "LITERAL_BOOLEAN"
  | ident => "IDENT"
  | statementList => "SLIST"
  | expr => "EXPR"
  | assign => "ASSIGN"
  | literalReturn => "LITERAL_RETURN"
  | literalFor => "LITERAL_FOR"
  | forInit => "FOR_INIT"
  | forCondition => "FOR_CONDITION"
  | forIterator => "FOR_ITERATOR"
  | forEachClause => "FOR_EACH_CLAUSE"
  | literalTry => "LITERAL_TRY"
  | literalCatch => "LITERAL_CATCH"
  | literalNew => "LITERAL_NEW"
  | expressionList => "ELIST"
  | numInt => "NUM_INT"

def ofName? (name : String) : Option Kind :=
  all.find? (·.name == name)

/-- The text a node of this kind carries when none is given: the keyword of a
keyword kind, and nothing otherwise. -/
def defaultText : Kind → String
  | literalStatic => "static"
  | literalPublic => "public"
  | literalProtected => "protected"
  | literalPrivate => "private"
  | finalModifier => "final"
  | abstractModifier => "abstract"
  | literalVoid => "void"
  | literalInt => "int"
  | literalBoolean => "boolean"
  | literalReturn => "return"
  | literalFor => "for"
  | literalTry => "try"
  | literalCatch => "catch"
  | literalNew => "new"
  | _ => ""

@[simp] theorem ofName?_name (kind : Kind) : ofName? kind.name = some kind := by
  cases kind <;> decide

theorem name_of_ofName? {name : String} {kind : Kind}
    (found : ofName? name = some kind) : kind.name = name := by
  simpa using List.find?_some found

theorem ofName?_eq_some_iff {name : String} {kind : Kind} :
    ofName? name = some kind ↔ kind.name = name :=
  ⟨name_of_ofName?, fun equal => equal ▸ ofName?_name kind⟩

theorem name_injective {left right : Kind} (equal : left.name = right.name) :
    left = right := by
  have both := ofName?_name left
  rw [equal, ofName?_name right] at both
  exact (Option.some.inj both).symm

example : ofName? "CLASS_DEF" = some classDef := by decide

end Kind

/-! ## Sets of kinds -/

/-- A set of kinds, given by its membership test, so that two sets with the same
members are equal. -/
@[ext] structure KindSet where
  has : Kind → Bool

namespace KindSet

def empty : KindSet := ⟨fun _ => false⟩

def ofList (kinds : List Kind) : KindSet := ⟨fun kind => kinds.contains kind⟩

def union (left right : KindSet) : KindSet :=
  ⟨fun kind => left.has kind || right.has kind⟩

def toList (kinds : KindSet) : List Kind := Kind.all.filter kinds.has

def names (kinds : KindSet) : List String :=
  (kinds.toList.map Kind.name).mergeSort (· ≤ ·)

@[simp] theorem has_ofList (kinds : List Kind) (kind : Kind) :
    (ofList kinds).has kind = kinds.contains kind := rfl

@[simp] theorem has_union (left right : KindSet) (kind : Kind) :
    (left.union right).has kind = (left.has kind || right.has kind) := rfl

@[simp] theorem mem_toList {kinds : KindSet} {kind : Kind} :
    kind ∈ kinds.toList ↔ kinds.has kind = true := by
  simp [toList, Kind.mem_all]

end KindSet

end ShadowLint
