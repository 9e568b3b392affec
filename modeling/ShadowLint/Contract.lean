import ShadowLint.Report

/-!
What a check relies on and may not find: trees whose declarations are complete,
nodes of kinds it asked for, and scopes that are left as often as they are
entered.
-/

namespace ShadowLint

inductive ContractError where
  | noBody (node : Tree)
  | noIdent (node : Tree)
  | unbalanced
  | unexpected (checkName : String) (node : Tree)

namespace ContractError

def code : ContractError → Code
  | noBody _ => .missingChild
  | noIdent _ => .missingChild
  | unbalanced => .unbalancedScope
  | unexpected _ _ => .unexpectedToken

def text : ContractError → String
  | noBody node => s!"CLASS_DEF at line {node.label.line} has no OBJBLOCK"
  | noIdent node => s!"{node.kind.name} at line {node.label.line} has no IDENT child"
  | unbalanced => "leave_scope() without a matching enter_scope()"
  | unexpected checkName node => s!"{checkName} cannot handle {node.kind.name}"

def node? : ContractError → Option Tree
  | noBody node => some node
  | noIdent node => some node
  | unbalanced => none
  | unexpected _ node => some node

def report (error : ContractError) : Report :=
  { code := error.code, text := error.text, hint := ""
    detail := .contract (error.node?.map Tree.label) }

end ContractError

end ShadowLint
