import ShadowLint.Check.HiddenField
import ShadowLint.Check.Recorder

/-!
The checks that a walk can drive.
-/

namespace ShadowLint

inductive Check where
  | hiddenField (check : HiddenField)
  | recorder (check : Recorder)

namespace Check

def core : Check → Core
  | hiddenField check => check.core
  | recorder check => check.core

def withCore (check : Check) (core : Core) : Check :=
  match check with
  | hiddenField check => hiddenField { check with core }
  | recorder check => recorder { check with core }

def beginTree (check : Check) (root : Tree) : Check :=
  match check with
  | hiddenField check => hiddenField check.beginTree
  | recorder check => recorder (check.record .begin root.label)

def visit (check : Check) (site : Site) : Reached Check :=
  match check with
  | hiddenField check => (check.visit site).map hiddenField
  | recorder check => (check.visit site).map recorder

def leave (check : Check) (site : Site) : Reached Check :=
  match check with
  | hiddenField check => (check.leave site).map hiddenField
  | recorder check => (check.leave site).map recorder

def finishTree (check : Check) (root : Tree) : Check × Journal :=
  match check with
  | hiddenField check => (hiddenField check, check.finishTree)
  | recorder check => (recorder (check.record .finish root.label), #[])

/-- Makes the check ready for a tree of a file: earlier findings are dropped. -/
def prepare (check : Check) (root : Tree) (file : String) : Check :=
  (check.withCore { check.core.clearViolations with file }).beginTree root

end Check

end ShadowLint
