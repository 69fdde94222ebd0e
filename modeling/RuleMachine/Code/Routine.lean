/-!
# Support routines

Compiled code calls a few routines for work that is too large for one instruction. Their
order here is the order in which a listing and a linked program report them.
-/

namespace RuleMachine

/-- A support routine that compiled code may call. -/
inductive Routine where
  /-- Looks up a path computed at run time, with a default. -/
  | resolve
  /-- The keys that the data lacks. -/
  | missing
  /-- The keys that the data lacks, unless enough are present. -/
  | missingSome
  /-- Rule truthiness as a boolean. -/
  | truthy
  /-- A substring by character positions. -/
  | substr
  /-- Arrays and values flattened one level. -/
  | merge
  /-- Records a value and passes it on. -/
  | log
  deriving DecidableEq, Inhabited, Repr

namespace Routine

/-- Every routine, in reporting order. -/
def all : List Routine := [.resolve, .missing, .missingSome, .truthy, .substr, .merge, .log]

/-- The routine's name in listings. -/
def name : Routine → String
  | .resolve => "resolve"
  | .missing => "missing"
  | .missingSome => "missing_some"
  | .truthy => "truthy"
  | .substr => "substr"
  | .merge => "merge"
  | .log => "log"

/-- The routines of a list, each once, in reporting order. -/
def sortUnique (rs : List Routine) : List Routine := all.filter (rs.contains ·)

theorem mem_sortUnique {x : Routine} {rs : List Routine} : x ∈ sortUnique rs ↔ x ∈ rs := by
  have hall : x ∈ all := by cases x <;> simp [all]
  simp [sortUnique, List.mem_filter, hall]

/-- The sorted routines of a list depend only on its members. -/
theorem sortUnique_congr {rs rs' : List Routine} (h : ∀ x, x ∈ rs ↔ x ∈ rs') :
    sortUnique rs = sortUnique rs' := by
  unfold sortUnique
  refine List.filter_congr fun x _ => ?_
  simp [h x]

theorem sortUnique_sortUnique (rs : List Routine) : sortUnique (sortUnique rs) = sortUnique rs :=
  sortUnique_congr fun _ => mem_sortUnique

end Routine

/-- A set of routines, held as its members in reporting order, each once. -/
structure RoutineSet where
  members : List Routine := []
  sorted : Routine.sortUnique members = members := by rfl

/-- The set with `r` added. -/
def RoutineSet.insert (r : Routine) (S : RoutineSet) : RoutineSet where
  members := Routine.sortUnique (r :: S.members)
  sorted := Routine.sortUnique_sortUnique _

end RuleMachine
