import TagQuery.Operator

/-! Tag queries: a literal asks for one tag, and operators combine queries. Queries may be
nested without limit, so whatever runs on them keeps its own list of what is left to do;
the number of nodes on such a list is what makes these runs end. -/

namespace TagQuery

inductive Query where
  | literal (value : String)
  | and (left right : Query)
  | or (left right : Query)
  | not (inner : Query)
  deriving DecidableEq

namespace Query

/-- The number of nodes. -/
def size : Query → Nat
  | literal _ => 1
  | and left right => left.size + right.size + 1
  | or left right => left.size + right.size + 1
  | not inner => inner.size + 1

end Query

/-- The weight of what is left to do. -/
def workload (weight : α → Nat) : List α → Nat
  | [] => 0
  | step :: work => weight step + workload weight work

theorem workload_append (weight : α → Nat) (first second : List α) :
    workload weight (first ++ second) = workload weight first + workload weight second := by
  induction first with
  | nil => simp [workload]
  | cons step work ih => simp [workload, ih, Nat.add_assoc]

/-- Combines the operands on top of a stack, the right one lying above the left one. -/
def Operator.combine? : Operator → List Query → Option (List Query)
  | .and, right :: left :: others => some (.and left right :: others)
  | .or, right :: left :: others => some (.or left right :: others)
  | .not, inner :: others => some (.not inner :: others)
  | _, _ => none

end TagQuery
