import RuleMachine.Number.Binary64
import RuleMachine.Number.Shortest
import RuleMachine.Number.Layout
import RuleMachine.Json.Basic
import RuleMachine.Json.Read
import RuleMachine.Json.Write
import RuleMachine.Value.Coerce
import RuleMachine.Text.Blank
import RuleMachine.Value.Basic
import RuleMachine.Value.Compare
import RuleMachine.Value.Path
import RuleMachine.Value.Json
import RuleMachine.Code.Routine
import RuleMachine.Code.Naming
import RuleMachine.Text.Tables
import RuleMachine.Text.CharClass
import RuleMachine.Text.Quoted
import RuleMachine.Rule.Basic
import RuleMachine.Rule.Builtin
import RuleMachine.Rule.Catalog
import RuleMachine.Rule.Var
import RuleMachine.Value.Operators
import RuleMachine.Run.Error
import RuleMachine.Code.Error
import RuleMachine.Code.Instr
import RuleMachine.Code.Analysis
import RuleMachine.Code.Compile
import RuleMachine.Code.Emit
import RuleMachine.Code.Program
import RuleMachine.Run.Routines
import RuleMachine.Run.Machine
import RuleMachine.Run.Execute
import RuleMachine.Rule.Evaluate
import RuleMachine.Time.Calendar
import RuleMachine.Time.Read
import RuleMachine.Extension.Bundle
import RuleMachine.Pattern.CharSet
import RuleMachine.Pattern.Tables.Category
import RuleMachine.Pattern.Tables.Script
import RuleMachine.Pattern.Tables.ScriptExtension
import RuleMachine.Pattern.Tables.Binary
import RuleMachine.Pattern.Tables.Fold
import RuleMachine.Pattern.Tables.Names
import RuleMachine.Pattern.Tables.Age
import RuleMachine.Pattern.Tables.Break
import RuleMachine.Pattern.Property
import RuleMachine.Pattern.Syntax
import RuleMachine.Pattern.Parse
import RuleMachine.Pattern.Report
import RuleMachine.Pattern.Node
import RuleMachine.Pattern.Utf8
import RuleMachine.Pattern.Meaning
import RuleMachine.Pattern.Automaton
import RuleMachine.Pattern.Footprint
import RuleMachine.Pattern.Regex
import RuleMachine.Proofs.Naming
import RuleMachine.Proofs.Branching
import RuleMachine.Proofs.Classifiers
import RuleMachine.Proofs.Correctness
import RuleMachine.Proofs.Faults
import RuleMachine.Proofs.Emitting
import RuleMachine.Proofs.Programs
import RuleMachine.Proofs.Shape
import RuleMachine.Proofs.Halting
import RuleMachine.Proofs.KeepData
import RuleMachine.Proofs.Linking
import RuleMachine.Proofs.Safety
import RuleMachine.Proofs.Relations
import RuleMachine.Proofs.Missing
import RuleMachine.Proofs.Documents
import RuleMachine.Proofs.Relocation
import RuleMachine.Proofs.VarPaths
import RuleMachine.Proofs.Tuples
import RuleMachine.Proofs.Substring
import RuleMachine.Proofs.RoundTrip
import RuleMachine.Proofs.NumberText
