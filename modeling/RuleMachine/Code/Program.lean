import RuleMachine.Code.Emit

/-!
# Compiled programs

A compiled program is its code, the support routines the code calls, and the extension keys it
calls with their identifiers, in slot order. `Program.source` prints it: a line naming the
routines (when there are any), a line per extension binding, then the listing.

`Program.ofRule` compiles a rule tree (`Program.ofRuleWith` under a chosen analysis) from the
compiler's output, a binding's slot being its position among the operators,
`Program.ofJson` a JSON document, and `Program.ofText` a JSON text: reading faults come first,
then malformed objects anywhere in the document, then the first compile fault in the walk.
-/

namespace RuleMachine

/-- A compiled rule. -/
structure Program where
  code : List Instr
  /-- The routines the code calls, in reporting order. -/
  routines : List Routine
  /-- Extension keys with their bindings, in slot order. -/
  bindings : List (String × Binding)

mutual

/-- The routines an instruction calls, its body included. -/
def Instr.routines : Instr → List Routine
  | .callRoutine r _ => [r]
  | .iterate _ body _ => blockRoutines body
  | .reduce body _ _ _ => blockRoutines body
  | _ => []

/-- The routines a block calls, bodies included. -/
def blockRoutines : List Instr → List Routine
  | [] => []
  | i :: rest => i.routines ++ blockRoutines rest

end

namespace Program

/-- The program of a compiler's output: the code, the routines, and each operator's key with its
identifier and its position as slot. -/
def ofOutput (o : Output) : Program :=
  ⟨o.code, o.support, o.operations.zipIdx.map fun (b, slot) => (b.key, ⟨b.identifier, slot⟩)⟩

/-- Compiles a rule tree under a catalog, assuming what `facts` knows about values. -/
def ofRuleWith (c : Catalog) (facts : Analysis) (r : Rule) : Except CompileError Program :=
  match Output.ofRule c facts r with
  | .error e => .error e
  | .ok o => .ok (ofOutput o)

/-- Compiles a rule tree under a catalog, with the catalog's analysis. -/
def ofRule (c : Catalog) (r : Rule) : Except CompileError Program :=
  ofRuleWith c (Analysis.ofCatalog c) r

/-- Compiles a document: malformed objects first, then the tree. -/
def ofJson (c : Catalog) (j : Json) : Except CompileError Program :=
  match Rule.ofJson j with
  | .error node => .error (.malformedNode node)
  | .ok r => ofRule c r

/-- Compiles a JSON text: reading faults first. -/
def ofText (c : Catalog) (text : String) : Except CompileError Program :=
  match Json.read text with
  | .error e => .error (.parse e)
  | .ok j => ofJson c j

/-- The identifiers of the extension bindings, in slot order. -/
def identifiers (p : Program) : List String := p.bindings.map (·.2.identifier)

/-- The printed program. -/
def source (p : Program) : String :=
  let header :=
    if p.routines.isEmpty then ""
    else "; support: " ++ ", ".intercalate (p.routines.map Routine.name) ++ "\n"
  let bindingLines := p.bindings.map fun (key, b) =>
    "; #" ++ toString b.slot ++ " " ++ b.identifier ++ " = " ++ Text.quoted key ++ "\n"
  header ++ String.join bindingLines ++ listing p.code

end Program

end RuleMachine
