import TagQuery.Loop
import TagQuery.Query.Basic

/-! Letting go of a query without descending into it. A node that is let go has given up
its operands before, and holds empty literals in their place; the operands are kept on
a stack until their own turn comes. -/

namespace TagQuery

namespace Query

def blank : Query := literal ""

/-- The node with empty literals for operands. -/
def hollow : Query → Query
  | literal value => literal value
  | and _ _ => and blank blank
  | or _ _ => or blank blank
  | not _ => not blank

/-- The operands as they are put on a stack, the right one above the left one. -/
def operands : Query → List Query
  | literal _ => []
  | and left right => [right, left]
  | or left right => [right, left]
  | not inner => [inner]

/-- All queries inside a query, by recursion, the query itself not among them. -/
def subqueries : Query → List Query
  | literal _ => []
  | and left right => left :: left.subqueries ++ right :: right.subqueries
  | or left right => left :: left.subqueries ++ right :: right.subqueries
  | not inner => inner :: inner.subqueries

theorem workload_operands_lt (query : Query) : workload size query.operands < query.size := by
  cases query <;> simp only [operands, size, workload] <;> omega

end Query

/-- What was taken off the stack, and what was let go, each in order. -/
structure Dismantling where
  taken : List Query
  released : List Query

namespace Dismantling

/-- Both lists that are passed along begin with the last one. -/
def run (taken released : List Query) : List Query → Dismantling
  | [] => { taken := taken.reverse, released := released.reverse }
  | query :: pending => run (query :: taken) (query.hollow :: released) (query.operands ++ pending)
termination_by pending => workload Query.size pending
decreasing_by
  have smaller := query.workload_operands_lt
  simp only [workload_append, workload]
  omega

/-- One round of the run: what was taken off the stack and what was let go, each list
beginning with the last one, and the stack. -/
def round : List Query × List Query × List Query → Round (List Query × List Query × List Query) Dismantling
  | (taken, released, []) => .last { taken := taken.reverse, released := released.reverse }
  | (taken, released, query :: pending) =>
    .next (query :: taken, query.hollow :: released, query.operands ++ pending)

theorem computes :
    Round.Computes round (fun state => run state.1 state.2.1 state.2.2) (fun state => workload Query.size state.2.2) where
  next {state later} leads := by
    unfold round at leads
    split at leads <;> cases leads
    next taken released query pending =>
      have smaller := query.workload_operands_lt
      constructor
      · simp only [run]
      · simp only [workload_append, workload]
        omega
  last {state result} ends := by
    unfold round at ends
    split at ends <;> cases ends
    simp only [run]

end Dismantling

/-- The query itself is never on the stack. It is let go last. -/
def Query.dismantle (query : Query) : Dismantling :=
  let rest := Dismantling.run [] [] query.operands
  { rest with released := rest.released ++ [query.hollow] }

/-- While the outer query is let go, so is the inner one: a node from the stack, or an operand that
the outer one is left with. -/
def Query.Releases (outer inner : Query) : Prop :=
  inner ∈ (Dismantling.run [] [] outer.operands).released ∨ inner ∈ outer.hollow.operands

end TagQuery
