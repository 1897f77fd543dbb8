/-! The three operators of tag queries and how tightly they bind: `not` more than `and`,
and `and` more than `or`. Chains of `and` and of `or` group to the left. -/

namespace TagQuery

inductive Operator where
  | and
  | or
  | not
  deriving DecidableEq

inductive Associativity where
  | left
  | right
  deriving DecidableEq

namespace Operator

def keyword : Operator → String
  | and => "and"
  | or => "or"
  | not => "not"

/-- Keywords are matched exactly: capital letters make a literal. -/
def ofKeyword? : String → Option Operator
  | "and" => some and
  | "or" => some or
  | "not" => some not
  | _ => none

def precedence : Operator → Nat
  | or => 0
  | and => 1
  | not => 2

def associativity : Operator → Associativity
  | and => .left
  | or => .left
  | not => .right

/-- Whether an operator that waits gets its operands before `next` begins to wait. -/
def precedes (waiting next : Operator) : Bool :=
  match next.associativity with
  | .left => next.precedence ≤ waiting.precedence
  | .right => next.precedence < waiting.precedence

theorem ofKeyword?_keyword (operator : Operator) : ofKeyword? operator.keyword = some operator := by
  cases operator <;> rfl

end Operator

end TagQuery
