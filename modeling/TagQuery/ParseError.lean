import TagQuery.Operator

/-! Why a text is not a query. The messages about parentheses name the one that is missing. -/

namespace TagQuery

inductive ParseError where
  /-- A closing parenthesis has no opening one before it. -/
  | unmatchedClosing
  /-- An opening parenthesis is not closed. -/
  | unmatchedOpening
  /-- Several queries are left with no operator between them. -/
  | unconnected
  /-- There is no literal at all. -/
  | empty
  /-- An operator has fewer operands than it needs. -/
  | missingOperand (operator : Operator)
  deriving DecidableEq

def ParseError.message : ParseError → String
  | unmatchedClosing => "Unclosed ("
  | unmatchedOpening => "Unclosed )"
  | unconnected => "Not empty"
  | empty => "Empty expression"
  | missingOperand operator => "Missing operand for '" ++ operator.keyword ++ "'"

end TagQuery
