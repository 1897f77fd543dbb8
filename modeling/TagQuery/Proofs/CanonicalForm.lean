import TagQuery.Proofs.Precedence
import TagQuery.Proofs.TokenConservation
import TagQuery.Proofs.WrittenTokens
import TagQuery.Query.Rendering

/-! The canonical text is read back. It is written after a derivation of the query, with a
blank between any two tokens, so each literal is read by itself; and a literal that was
read from some text is one word wherever it stands between blanks. -/

namespace TagQuery

open Grammar Direct

namespace Query

def factor : Query → Factor
  | literal value => .literal value
  | and left right => .group (.chain (.chain left.factor (.and right.factor .none)) .none)
  | or left right => .group (.chain (.chain left.factor .none) (.or (.chain right.factor .none) .none))
  | not inner => .not (.group (.chain (.chain inner.factor .none) .none))

private theorem query_factor (query : Query) : query.factor.query = query := by
  induction query with
  | literal value => rfl
  | and left right ihLeft ihRight =>
    change Query.and left.factor.query right.factor.query = _
    rw [ihLeft, ihRight]
  | or left right ihLeft ihRight =>
    change Query.or left.factor.query right.factor.query = _
    rw [ihLeft, ihRight]
  | not inner ih =>
    change Query.not inner.factor.query = _
    rw [ih]

private theorem tokens_factor_and (left right : Query) : (and left right).factor.tokens =
    .opening :: (left.factor.tokens ++ .operator .and :: (right.factor.tokens ++ [.closing])) := by
  simp [factor, Factor.tokens, Disjunction.tokens, Alternatives.tokens, Conjunction.tokens, Requirements.tokens]

private theorem tokens_factor_or (left right : Query) : (or left right).factor.tokens =
    .opening :: (left.factor.tokens ++ .operator .or :: (right.factor.tokens ++ [.closing])) := by
  simp [factor, Factor.tokens, Disjunction.tokens, Alternatives.tokens, Conjunction.tokens, Requirements.tokens]

private theorem tokens_factor_not (inner : Query) : (not inner).factor.tokens =
    .operator .not :: .opening :: (inner.factor.tokens ++ [.closing]) := by
  simp [factor, Factor.tokens, Disjunction.tokens, Alternatives.tokens, Conjunction.tokens, Requirements.tokens]

def Legible (query : Query) : Prop := ∀ value ∈ query.leaves, SelfContained value

private theorem tokens_factor_ne_nil (query : Query) : query.factor.tokens ≠ [] := by
  cases query <;> simp [factor, Factor.tokens]

private theorem joined_binary (op : Operator) {left right : List Token} (some : left ≠ []) (some' : right ≠ []) :
    Token.joined (.opening :: (left ++ .operator op :: (right ++ [.closing]))) =
      "( " ++ Token.joined left ++ (" " ++ op.keyword ++ " ") ++ Token.joined right ++ " )" := by
  rw [Token.joined_cons _ (by simp), Token.joined_append some (by simp), Token.joined_cons _ (by simp),
    Token.joined_append some' (by simp), Token.joined_singleton]
  simp [Token.text, ← String.toList_inj]

private theorem joined_factor (query : Query) : Token.joined query.factor.tokens = query.canonical := by
  induction query with
  | literal value => exact Token.joined_singleton _
  | and left right ihLeft ihRight =>
    rw [tokens_factor_and, joined_binary .and left.tokens_factor_ne_nil right.tokens_factor_ne_nil, ihLeft, ihRight]
    rfl
  | or left right ihLeft ihRight =>
    rw [tokens_factor_or, joined_binary .or left.tokens_factor_ne_nil right.tokens_factor_ne_nil, ihLeft, ihRight]
    rfl
  | not inner ih =>
    rw [tokens_factor_not, Token.joined_cons _ (by simp), Token.joined_cons _ (by simp),
      Token.joined_append inner.tokens_factor_ne_nil (by simp), ih, Token.joined_singleton]
    simp [canonical, Token.text, Operator.keyword, ← String.toList_inj]

private theorem values_factor (query : Query) : query.factor.tokens.filterMap Token.value? = query.leaves := by
  induction query with
  | literal value => rfl
  | and left right ihLeft ihRight => simp [tokens_factor_and, List.filterMap_cons, ihLeft, ihRight, leaves, Token.value?]
  | or left right ihLeft ihRight => simp [tokens_factor_or, List.filterMap_cons, ihLeft, ihRight, leaves, Token.value?]
  | not inner ih => simp [tokens_factor_not, List.filterMap_cons, ih, leaves, Token.value?]

private theorem read_canonical {query : Query} (legible : query.Legible) :
    read query.canonical.toList = query.factor.tokens := by
  rw [← joined_factor]
  apply Token.read_joined
  apply Token.legible_of_literals
  intro value member
  apply legible value
  rw [← values_factor]
  exact Token.mem_values_iff.mpr member

/-- A legible query is read from its canonical text. -/
theorem parse_canonical {query : Query} (legible : query.Legible) : parse query.canonical = .ok query := by
  have read := Precedence.result_feed (.chain (.chain query.factor .none) .none)
  rw [Disjunction.tokens, Conjunction.tokens, Alternatives.tokens, Requirements.tokens, List.append_nil, List.append_nil,
    Disjunction.query, Conjunction.query, Alternatives.onto, Requirements.onto, query_factor] at read
  rw [parse_eq_feed, tokenize_eq_read, read_canonical legible, read]

theorem legible_of_parse {input : String} {query : Query} (accepted : parse input = .ok query) : query.Legible := by
  intro value leaf
  rw [leaves_of_parse accepted, tokenize_eq_read] at leaf
  exact selfContained_of_mem_read (Token.mem_values_iff.mp leaf)

end Query

/-- Whatever text a query was read from, it is read from its canonical text again. -/
theorem parse_render {input : String} {query : Query} (accepted : Query.parse input = .ok query) :
    Query.parse query.render = .ok query := by
  rw [Query.render_eq_canonical, Query.parse_canonical (Query.legible_of_parse accepted)]

theorem parse_render_ill_ordered :
    Query.parse "x-a(b) __tagexpr0_0__ and a(b)c(d) or not not" =
        .ok (.or (.literal "x-a(b)") (.not (.not (.and (.literal "__tagexpr0_0__") (.literal "a(b)c(d)"))))) ∧
      Query.parse (Query.render
          (.or (.literal "x-a(b)") (.not (.not (.and (.literal "__tagexpr0_0__") (.literal "a(b)c(d)")))))) =
        .ok (.or (.literal "x-a(b)") (.not (.not (.and (.literal "__tagexpr0_0__") (.literal "a(b)c(d)"))))) := by
  have accepted : Query.parse "x-a(b) __tagexpr0_0__ and a(b)c(d) or not not" =
      .ok (.or (.literal "x-a(b)") (.not (.not (.and (.literal "__tagexpr0_0__") (.literal "a(b)c(d)"))))) := by
    decide +kernel
  exact ⟨accepted, parse_render accepted⟩

end TagQuery
