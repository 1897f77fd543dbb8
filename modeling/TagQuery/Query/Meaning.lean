import TagQuery.Query.Evaluation

/-! What a query says of a set of tags, by recursion on the query, and in which order its
literals are asked for when `and` and `or` look at their right operand only if they have
to. A run arrives at both, whatever else there is left for it to do. -/

namespace TagQuery

namespace Query

def value (member : String → Bool) : Query → Bool
  | literal name => member name
  | and left right => left.value member && right.value member
  | or left right => left.value member || right.value member
  | not inner => !inner.value member

def tested (member : String → Bool) : Query → List String
  | literal name => [name]
  | and left right => left.tested member ++ if left.value member then right.tested member else []
  | or left right => left.tested member ++ if left.value member then [] else right.tested member
  | not inner => inner.tested member

end Query

theorem Evaluation.run_visit (member : String → Bool) (query : Query) (register : Bool) (asked : List String)
    (work : List Step) :
    run member register asked (.visit query :: work) =
      run member (query.value member) ((query.tested member).reverse ++ asked) work := by
  induction query generalizing register asked work with
  | literal name => simp [run, Query.value, Query.tested]
  | and left right ihLeft ihRight =>
    rw [run, ihLeft, run]
    cases found : left.value member <;> simp [ihRight, Query.value, Query.tested, found]
  | or left right ihLeft ihRight =>
    rw [run, ihLeft, run]
    cases found : left.value member <;> simp [ihRight, Query.value, Query.tested, found]
  | not inner ih =>
    rw [run, ih, run]
    simp [Query.value, Query.tested]

end TagQuery
