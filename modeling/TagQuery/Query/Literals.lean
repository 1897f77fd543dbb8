import TagQuery.Query.Basic

/-! The literals of a query from left to right, each as often as it stands there. -/

namespace TagQuery

/-- The literals, by recursion. -/
def Query.leaves : Query → List String
  | literal value => [value]
  | and left right => left.leaves ++ right.leaves
  | or left right => left.leaves ++ right.leaves
  | not inner => inner.leaves

namespace Literals

/-- Lists the literals of the queries on the stack behind those found so far, the last one
of which comes first in `found`. -/
def run (found : List String) : List Query → List String
  | [] => found.reverse
  | .literal value :: work => run (value :: found) work
  | .and left right :: work => run found (left :: right :: work)
  | .or left right :: work => run found (left :: right :: work)
  | .not inner :: work => run found (inner :: work)
termination_by work => workload Query.size work
decreasing_by all_goals (simp only [workload, Query.size]; omega)

theorem run_cons (query : Query) (found : List String) (work : List Query) :
    run found (query :: work) = run (query.leaves.reverse ++ found) work := by
  induction query generalizing found work with
  | literal value => rw [run]; rfl
  | and left right ihLeft ihRight => simp [run, ihLeft, ihRight, Query.leaves]
  | or left right ihLeft ihRight => simp [run, ihLeft, ihRight, Query.leaves]
  | not inner ih => simp [run, ih, Query.leaves]

end Literals

def Query.literals (query : Query) : List String := Literals.run [] [query]

theorem Query.literals_eq_leaves (query : Query) : query.literals = query.leaves := by
  rw [literals, Literals.run_cons, Literals.run]
  simp

end TagQuery
