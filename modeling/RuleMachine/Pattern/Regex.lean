import RuleMachine.Pattern.Parse
import RuleMachine.Pattern.Report
import RuleMachine.Pattern.Meaning
import RuleMachine.Pattern.Automaton
import RuleMachine.Pattern.Footprint

/-!
# Regular expressions

`Regex.compile` reads a pattern under initial flags and builds its program; a fault is reported
as text (see `Pattern.report`). A pattern whose program would be too large is refused, as a
compiled expression has a size limit of 10 MiB (see `Node.exceedsSizeLimit`).
-/

namespace RuleMachine

namespace Pattern

/-- A compiled regular expression. -/
structure Regex where
  program : Program

namespace Regex

/-- Compiles a pattern under initial flags, or reports why it cannot be. -/
def compile (pattern : String) (flags : Flags) : Except String Regex :=
  match parse pattern with
  | .error e => .error (report pattern e)
  | .ok ast =>
    match meaning flags ast with
    | .error e => .error (report pattern e)
    | .ok (node, _) =>
      if node.exceedsSizeLimit then
        .error ("Compiled regex exceeds size limit of " ++ toString Footprint.limit ++ " bytes.")
      else .ok ⟨Program.ofNode node⟩

/-- Whether the expression matches anywhere in a text. -/
def isMatch (r : Regex) (text : String) : Bool := r.program.isMatch text

end Regex

end Pattern

end RuleMachine
