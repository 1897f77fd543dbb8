import TagQuery.Query.Basic

/-! The nodes of a query, each behind its operands, so that a stack is enough to rebuild
the query from the list. -/

namespace TagQuery

inductive Item where
  | literal (value : String)
  | operator (op : Operator)
  deriving DecidableEq

/-- The value of a literal. -/
def Item.value? : Item → Option String
  | literal value => some value
  | operator _ => none

/-- The nodes of a query, left operand before right one before the operator, by recursion. -/
def Query.items : Query → List Item
  | literal value => [.literal value]
  | and left right => left.items ++ right.items ++ [.operator .and]
  | or left right => left.items ++ right.items ++ [.operator .or]
  | not inner => inner.items ++ [.operator .not]

namespace Postorder

/-- Lists the nodes of the queries on the stack in front of `items`. Whatever is on top
of the stack comes last, so a node goes in front before its operands do, and its right
operand before its left one. -/
def run (items : List Item) : List Query → List Item
  | [] => items
  | .literal value :: work => run (.literal value :: items) work
  | .and left right :: work => run (.operator .and :: items) (right :: left :: work)
  | .or left right :: work => run (.operator .or :: items) (right :: left :: work)
  | .not inner :: work => run (.operator .not :: items) (inner :: work)
termination_by work => workload Query.size work
decreasing_by all_goals (simp only [workload, Query.size]; omega)

theorem run_cons (query : Query) (items : List Item) (work : List Query) :
    run items (query :: work) = run (query.items ++ items) work := by
  induction query generalizing items work with
  | literal value => rw [run]; rfl
  | and left right ihLeft ihRight => simp [run, ihLeft, ihRight, Query.items]
  | or left right ihLeft ihRight => simp [run, ihLeft, ihRight, Query.items]
  | not inner ih => simp [run, ih, Query.items]

end Postorder

def Query.postorder (query : Query) : List Item := Postorder.run [] [query]

theorem Query.postorder_eq_items (query : Query) : query.postorder = query.items := by
  rw [postorder, Postorder.run_cons, Postorder.run, List.append_nil]

end TagQuery
