import TagQuery.Token.Basic

/-! Counting tokens, without a look at how they hang together, and parentheses that match. -/

namespace TagQuery.Token

def literalCount (tokens : List Token) : Nat := (tokens.filterMap value?).length

def binaryCount (tokens : List Token) : Nat := tokens.count (.operator .and) + tokens.count (.operator .or)

/-- Somewhere more parentheses have been closed than opened. -/
def Overclosed (tokens : List Token) : Prop :=
  ∃ front, front <+: tokens ∧ front.count .opening < front.count .closing

def Paired (tokens : List Token) : Prop := ¬ Overclosed tokens ∧ tokens.count .opening = tokens.count .closing

end TagQuery.Token
