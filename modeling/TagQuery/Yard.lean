import TagQuery.Loop
import TagQuery.ParseError
import TagQuery.Query.Basic
import TagQuery.Token.Basic

/-! Reading tokens by precedence. Operators and opening parentheses wait on one stack,
queries on another, and an operator is combined with its operands once nothing that
binds more tightly can follow. Nothing is asked of the order in which operators and
operands come. -/

namespace TagQuery

inductive Yard.Entry where
  | operator (op : Operator)
  | opening
  deriving DecidableEq

structure Yard where
  operators : List Yard.Entry := []
  queries : List Query := []

namespace Yard

def combine (op : Operator) (queries : List Query) : Except ParseError (List Query) :=
  match op.combine? queries with
  | some combined => .ok combined
  | none => .error (.missingOperand op)

/-- Lets `next` wait, once the operators that precede it are combined. -/
def push (next : Operator) : List Entry → List Query → Except ParseError Yard
  | .operator waiting :: operators, queries =>
    if waiting.precedes next then do push next operators (← combine waiting queries)
    else .ok { operators := .operator next :: .operator waiting :: operators, queries }
  | operators, queries => .ok { operators := .operator next :: operators, queries }

/-- Combines the operators of the innermost group and takes off its opening parenthesis. -/
def close : List Entry → List Query → Except ParseError Yard
  | [], _ => .error .unmatchedClosing
  | .opening :: operators, queries => .ok { operators, queries }
  | .operator waiting :: operators, queries => do close operators (← combine waiting queries)

def accept (yard : Yard) : Token → Except ParseError Yard
  | .operator op => push op yard.operators yard.queries
  | .opening => .ok { yard with operators := .opening :: yard.operators }
  | .closing => close yard.operators yard.queries
  | .literal value => .ok { yard with queries := .literal value :: yard.queries }

/-- Combines all that waits when the tokens are at an end. -/
def drain : List Entry → List Query → Except ParseError (List Query)
  | [], queries => .ok queries
  | .opening :: _, _ => .error .unmatchedOpening
  | .operator waiting :: operators, queries => do drain operators (← combine waiting queries)

/-- One round of the draining: the entry on top is taken off. -/
def Draining.round (yard : Yard) : Round Yard (Except ParseError (List Query)) :=
  match yard.operators with
  | [] => .last (.ok yard.queries)
  | .opening :: _ => .last (.error .unmatchedOpening)
  | .operator waiting :: operators =>
    match combine waiting yard.queries with
    | .ok combined => .next { operators, queries := combined }
    | .error error => .last (.error error)

theorem Draining.computes :
    Round.Computes round (fun yard => drain yard.operators yard.queries) (fun yard => yard.operators.length) where
  next {yard later} leads := by
    unfold round at leads
    split at leads
    next => cases leads
    next => cases leads
    next waiting operators top =>
      split at leads
      next combined found =>
        cases leads
        rw [top, drain, found]
        exact ⟨rfl, Nat.lt_succ_self _⟩
      next => cases leads
  last {yard result} ends := by
    unfold round at ends
    split at ends
    next top =>
      cases ends
      rw [top, drain]
    next top =>
      cases ends
      rw [top, drain]
    next waiting operators top =>
      split at ends
      next => cases ends
      next error found =>
        cases ends
        rw [top, drain, found]
        rfl

def result (yard : Yard) : Except ParseError Query := do
  match ← drain yard.operators yard.queries with
  | [] => .error .empty
  | [query] => .ok query
  | _ => .error .unconnected

end Yard

end TagQuery
