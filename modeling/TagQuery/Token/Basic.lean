import TagQuery.Operator

/-! The tokens that tag queries are read from. -/

namespace TagQuery

inductive Token where
  | operator (op : Operator)
  | opening
  | closing
  | literal (value : String)
  deriving DecidableEq

namespace Token

/-- The text of a token, as it stands in a query. -/
def text : Token → String
  | operator op => op.keyword
  | opening => "("
  | closing => ")"
  | literal value => value

/-- The texts of the tokens, with a blank between any two. -/
def joined (tokens : List Token) : String := " ".intercalate (tokens.map text)

/-- The value of a literal. -/
def value? : Token → Option String
  | literal value => some value
  | _ => none

theorem mem_values_iff {tokens : List Token} {value : String} :
    value ∈ tokens.filterMap value? ↔ literal value ∈ tokens := by
  rw [List.mem_filterMap]
  constructor
  · rintro ⟨token, member, same⟩
    cases token with
    | literal other =>
      cases same
      exact member
    | operator op => cases same
    | opening => cases same
    | closing => cases same
  · intro member
    exact ⟨literal value, member, rfl⟩

end Token

end TagQuery
