import ShadowLint.CommandLine.Run
import ShadowLint.File.Folder
import ShadowLint.Scope.Handle
import ShadowLint.Tree.Arena
import ShadowLint.Proofs.Walk.Calls
import ShadowLint.Proofs.Check.Rule
import ShadowLint.Proofs.Check.Fields
import ShadowLint.Proofs.Check.Declarations
import ShadowLint.Proofs.Check.Outcome
import ShadowLint.Proofs.Check.Findings
import ShadowLint.Proofs.Check.Configured
import ShadowLint.Proofs.Dump.Grammar
import ShadowLint.Proofs.Dump.Lexemes
import ShadowLint.Proofs.Dump.Reading
import ShadowLint.Proofs.Dump.Parsing
import ShadowLint.Proofs.Dump.Nesting
import ShadowLint.Proofs.Dump.Meaning
import ShadowLint.Proofs.Dump.Format
import ShadowLint.Proofs.Dump.Prefix
import ShadowLint.Proofs.Dump.Rejection
import ShadowLint.Proofs.Dump.Nodes
import ShadowLint.Proofs.Dump.Levels
import ShadowLint.Proofs.Walk.Crew
import ShadowLint.Proofs.Walk.Script
import ShadowLint.Proofs.Walk.Callbacks
import ShadowLint.Proofs.Check.History
import ShadowLint.Proofs.Walk.Place
import ShadowLint.Proofs.Check.Scopes
import ShadowLint.Proofs.Check.Memory
import ShadowLint.Proofs.Walk.Shared
import ShadowLint.Proofs.Check.Driver
import ShadowLint.Proofs.Check.Verdict
import ShadowLint.Proofs.CommandLine.Building
import ShadowLint.Proofs.Check.Unit
import ShadowLint.Proofs.Related
import ShadowLint.Proofs.Tree.Reordered
import ShadowLint.Proofs.Check.MemberOrder
import ShadowLint.Proofs.Check.Silencing
import ShadowLint.Proofs.Check.Setting
import ShadowLint.Proofs.CommandLine.Precedence
import ShadowLint.Proofs.Scope.Lookup
import ShadowLint.Proofs.CommandLine.Ending
import ShadowLint.Proofs.Scope.Plain
import ShadowLint.Proofs.Scope.Held
import ShadowLint.Proofs.Text.Runs
import ShadowLint.Proofs.Config.Names
import ShadowLint.Proofs.Config.Failing
import ShadowLint.Proofs.Config.Tokens
import ShadowLint.Proofs.Config.Validity
import ShadowLint.Proofs.Config.InPlace
import ShadowLint.Proofs.Config.Merging
import ShadowLint.Proofs.Text.Places
import ShadowLint.Proofs.Tree.Worklist
import ShadowLint.Proofs.Json.Lexemes
import ShadowLint.Proofs.Json.Characters
import ShadowLint.Proofs.CommandLine.Records
import ShadowLint.Proofs.Dump.Linked
import ShadowLint.Proofs.Tree.Views
import ShadowLint.Proofs.File.Folder
