import ShadowLint.Violation

/-!
What a run notes down for its reader. An entry is an event of the domain; its
level, the part of the library that noted it and its wording follow from it.
-/

namespace ShadowLint

inductive Level where
  | debug
  | info
  | warning
  | error
  deriving DecidableEq, Repr

namespace Level

def name : Level → String
  | debug => "DEBUG"
  | info => "INFO"
  | warning => "WARNING"
  | error => "ERROR"

/-- The rank of a level; a reader who asks for a level sees those of no lower rank. -/
def rank : Level → Nat
  | debug => 0
  | info => 1
  | warning => 2
  | error => 3

end Level

inductive Entry where
  | enteredScope (depth : Nat) (isStatic : Bool)
  | leftScope (depth : Nat)
  | reported (violation : Violation)
  | scopesOpen (checkName : String) (depth : Nat)
  | registered (check : String)
  | walked (file : String) (nodes violations : Nat)
  | setting (checkName property : String) (value : Value)
  | nested (source : String) (depth : Nat)
  | loaded (source : String) (trees : Nat)
  | checking (path : String)
  | failed (message : String)

namespace Entry

def level : Entry → Level
  | scopesOpen _ _ => .warning
  | walked _ _ _ => .info
  | checking _ => .info
  | failed _ => .error
  | _ => .debug

def origin : Entry → String
  | enteredScope _ _ => "hiddenfield.frames"
  | leftScope _ => "hiddenfield.frames"
  | reported _ => "hiddenfield.api"
  | scopesOpen _ _ => "hiddenfield.hidden_field"
  | registered _ => "hiddenfield.walker"
  | walked _ _ _ => "hiddenfield.walker"
  | setting _ _ _ => "hiddenfield.config"
  | nested _ _ => "hiddenfield.dump"
  | loaded _ _ => "hiddenfield.dump"
  | checking _ => "hiddenfield"
  | failed _ => "hiddenfield"

def text : Entry → String
  | enteredScope depth isStatic =>
    s!"enter scope depth={depth} static={(Value.bool isStatic).literal}"
  | leftScope depth => s!"leave scope depth={depth}"
  | reported violation => s!"{violation.checkName}: {violation.toLine}"
  | scopesOpen checkName depth =>
    s!"{checkName}: {depth} class scope(s) still open at end of tree"
  | registered check => s!"registered {check}"
  | walked file nodes violations =>
    let shown := if file.isEmpty then "<tree>" else file
    s!"{shown}: {nodes} node(s), {violations} violation(s)"
  | setting checkName property value => s!"{checkName}: {property}={value.literal}"
  | nested source depth => s!"{source}: nesting depth {depth}"
  | loaded source trees => s!"{source}: loaded {trees} tree(s)"
  | checking path => s!"Checking {path}"
  | failed message => message

end Entry

abbrev Journal := Array Entry

def Journal.atLeast (journal : Journal) (level : Level) : List Entry :=
  journal.toList.filter fun entry => level.rank ≤ entry.level.rank

end ShadowLint
