import TagQuery.Query.Basic
import TagQuery.Token.Basic

/-! The grammar of queries. A disjunction is a chain of conjunctions with `or` between
them, a conjunction a chain of factors with `and` between them, and a factor is a
literal, a group in parentheses, or the negation of a factor. Each derivation has a list
of tokens, which is what one writes, and a query, in which chains group to the left. -/

namespace TagQuery.Grammar

mutual

inductive Disjunction where
  | chain (first : Conjunction) (others : Alternatives)

inductive Alternatives where
  | none
  | or (next : Conjunction) (others : Alternatives)

inductive Conjunction where
  | chain (first : Factor) (others : Requirements)

inductive Requirements where
  | none
  | and (next : Factor) (others : Requirements)

inductive Factor where
  | literal (value : String)
  | group (inner : Disjunction)
  | not (inner : Factor)

end

mutual

def Disjunction.tokens : Disjunction → List Token
  | .chain first others => first.tokens ++ others.tokens

def Alternatives.tokens : Alternatives → List Token
  | .none => []
  | .or next others => .operator .or :: (next.tokens ++ others.tokens)

def Conjunction.tokens : Conjunction → List Token
  | .chain first others => first.tokens ++ others.tokens

def Requirements.tokens : Requirements → List Token
  | .none => []
  | .and next others => .operator .and :: (next.tokens ++ others.tokens)

def Factor.tokens : Factor → List Token
  | .literal value => [.literal value]
  | .group inner => .opening :: (inner.tokens ++ [.closing])
  | .not inner => .operator .not :: inner.tokens

end

mutual

def Disjunction.query : Disjunction → Query
  | .chain first others => others.onto first.query

/-- Joins the rest of a chain to what stands before it. -/
def Alternatives.onto (left : Query) : Alternatives → Query
  | .none => left
  | .or next others => others.onto (.or left next.query)

def Conjunction.query : Conjunction → Query
  | .chain first others => others.onto first.query

/-- Joins the rest of a chain to what stands before it. -/
def Requirements.onto (left : Query) : Requirements → Query
  | .none => left
  | .and next others => others.onto (.and left next.query)

def Factor.query : Factor → Query
  | .literal value => .literal value
  | .group inner => inner.query
  | .not inner => .not inner.query

end

end TagQuery.Grammar
