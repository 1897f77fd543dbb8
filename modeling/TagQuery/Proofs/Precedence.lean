import TagQuery.Grammar
import TagQuery.Proofs.YardRuns

/-! The yard reads the grammar. A derivation that has been read leaves operators waiting
which bind as tightly as its level allows, and which make its query of what they wait for
as soon as they are settled. Nothing beneath them is touched. -/

namespace TagQuery

open Yard Grammar

private theorem Operator.precedes_of_le {waiting next : Operator} (binary : next ≠ .not)
    (tight : next.precedence ≤ waiting.precedence) : waiting.precedes next := by
  cases next with
  | not => exact absurd rfl binary
  | and => simpa [precedes, associativity] using tight
  | or => simpa [precedes, associativity] using tight

namespace Precedence

/-- The yard has read one query more than `base`, but for waiting operators that bind at
least as tightly as `level`. -/
structure Pending (base : Yard) (level : Operator) (query : Query) (waiting : List Operator) (yard : Yard) : Prop where
  operators : yard.operators = waiting.map .operator ++ base.operators
  tight : ∀ op ∈ waiting, level.precedence ≤ op.precedence
  settled : settle waiting yard.queries = .ok (query :: base.queries)

def Looser (level : Operator) (operators : List Entry) : Prop :=
  ∀ op, operators.head? = some (.operator op) → ¬ op.precedes level

private theorem looser_not (operators : List Entry) : Looser .not operators := by
  intro op _
  cases op <;> decide

private theorem Looser.and {operators : List Entry} (looser : Looser .or operators) : Looser .and operators := by
  intro op first
  have := looser op first
  cases op <;> simp_all [Operator.precedes, Operator.associativity, Operator.precedence]

variable {base yard : Yard} {level : Operator} {query : Query} {waiting : List Operator}

private theorem Pending.loosen (pending : Pending base level query waiting yard) {looser : Operator}
    (le : looser.precedence ≤ level.precedence) : Pending base looser query waiting yard :=
  ⟨pending.operators, fun op member => Nat.le_trans le (pending.tight op member), pending.settled⟩

/-- A binary operator of the level settles what waits above it. -/
theorem Pending.accept (pending : Pending base level query waiting yard) (binary : level ≠ .not)
    (looser : Looser level base.operators) :
    yard.accept (.operator level) =
      .ok { operators := .operator level :: base.operators, queries := query :: base.queries } := by
  have precede : ∀ op ∈ waiting, op.precedes level :=
    fun op member => Operator.precedes_of_le binary (pending.tight op member)
  rw [Yard.accept, pending.operators, push_append precede, pending.settled]
  exact push_of_stops looser (query :: base.queries)

theorem Pending.combine {op : Operator} {left : List Query} {result : Query}
    (pending : Pending { operators := .operator op :: base.operators, queries := left } level query waiting yard)
    (tight : op.precedence ≤ level.precedence) (combined : op.combine? (query :: left) = some (result :: base.queries)) :
    Pending base op result (waiting ++ [op]) yard := by
  refine ⟨?_, ?_, ?_⟩
  · rw [pending.operators]
    simp
  · intro other member
    cases List.mem_append.mp member with
    | inl inside => exact Nat.le_trans tight (pending.tight other inside)
    | inr last => exact List.mem_singleton.mp last ▸ Nat.le_refl _
  · rw [settle_append, pending.settled]
    change settle [op] (query :: left) = _
    simp only [settle, Yard.combine, combined]
    rfl

theorem Pending.close (pending : Pending { base with operators := .opening :: base.operators } level query waiting yard) :
    yard.accept .closing = .ok { operators := base.operators, queries := query :: base.queries } := by
  rw [Yard.accept, pending.operators, close_append, pending.settled]
  rfl

private theorem accept_not (base : Yard) :
    base.accept (.operator .not) = .ok { base with operators := .operator .not :: base.operators } :=
  push_of_stops (looser_not base.operators) base.queries

mutual

/-- A factor can be read wherever an operand may stand: `not` lets everything wait. -/
theorem factor_read (factor : Factor) (base : Yard) :
    ∃ waiting yard, base.feed factor.tokens = .ok yard ∧ Pending base .not factor.query waiting yard := by
  cases factor with
  | literal value => exact ⟨[], { base with queries := .literal value :: base.queries }, rfl, rfl, by simp, rfl⟩
  | not inner =>
    obtain ⟨waiting, yard, read, pending⟩ := factor_read inner { base with operators := .operator .not :: base.operators }
    refine ⟨waiting ++ [.not], yard, ?_, ?_⟩
    · rw [Factor.tokens, feed_cons, accept_not]
      exact read
    · rw [Factor.query]
      exact pending.combine (Nat.le_refl _) rfl
  | group inner =>
    obtain ⟨waiting, yard, read, pending⟩ :=
      disjunction_read inner { base with operators := .opening :: base.operators } (by simp [Looser])
    refine ⟨[], { operators := base.operators, queries := inner.query :: base.queries }, ?_, rfl, by simp, rfl⟩
    rw [Factor.tokens, feed_cons]
    change feed _ (inner.tokens ++ [.closing]) = _
    rw [feed_append, read]
    change feed yard [.closing] = _
    rw [feed_cons, pending.close]
    rfl

theorem requirements_read (others : Requirements) (base : Yard) (looser : Looser .and base.operators) {left : Query}
    {waiting : List Operator} {yard : Yard} (pending : Pending base .and left waiting yard) :
    ∃ waiting after, yard.feed others.tokens = .ok after ∧ Pending base .and (others.onto left) waiting after := by
  cases others with
  | none => exact ⟨waiting, yard, rfl, pending⟩
  | and next others =>
    obtain ⟨above, middle, read, factor⟩ :=
      factor_read next { operators := .operator .and :: base.operators, queries := left :: base.queries }
    have looserAnd : Operator.and.precedence ≤ Operator.not.precedence := by decide
    have joined := (factor.loosen looserAnd).combine (Nat.le_refl _) rfl
    obtain ⟨waiting, after, read', whole⟩ := requirements_read others base looser joined
    refine ⟨waiting, after, ?_, whole⟩
    rw [Requirements.tokens, feed_cons, pending.accept (by decide) looser]
    change feed _ (next.tokens ++ others.tokens) = _
    rw [feed_append, read]
    exact read'

theorem conjunction_read (conjunction : Conjunction) (base : Yard) (looser : Looser .and base.operators) :
    ∃ waiting yard, base.feed conjunction.tokens = .ok yard ∧ Pending base .and conjunction.query waiting yard := by
  cases conjunction with
  | chain first others =>
    obtain ⟨above, middle, read, factor⟩ := factor_read first base
    obtain ⟨waiting, yard, read', whole⟩ := requirements_read others base looser (factor.loosen (by decide))
    refine ⟨waiting, yard, ?_, whole⟩
    rw [Conjunction.tokens, feed_append, read]
    exact read'

theorem alternatives_read (others : Alternatives) (base : Yard) (looser : Looser .or base.operators) {left : Query}
    {waiting : List Operator} {yard : Yard} (pending : Pending base .or left waiting yard) :
    ∃ waiting after, yard.feed others.tokens = .ok after ∧ Pending base .or (others.onto left) waiting after := by
  cases others with
  | none => exact ⟨waiting, yard, rfl, pending⟩
  | or next others =>
    have waits : Looser .and (.operator .or :: base.operators) := by
      intro op first
      cases first
      decide
    obtain ⟨above, middle, read, conjunction⟩ :=
      conjunction_read next { operators := .operator .or :: base.operators, queries := left :: base.queries } waits
    have looserOr : Operator.or.precedence ≤ Operator.and.precedence := by decide
    have joined := (conjunction.loosen looserOr).combine (Nat.le_refl _) rfl
    obtain ⟨waiting, after, read', whole⟩ := alternatives_read others base looser joined
    refine ⟨waiting, after, ?_, whole⟩
    rw [Alternatives.tokens, feed_cons, pending.accept (by decide) looser]
    change feed _ (next.tokens ++ others.tokens) = _
    rw [feed_append, read]
    exact read'

theorem disjunction_read (disjunction : Disjunction) (base : Yard) (looser : Looser .or base.operators) :
    ∃ waiting yard, base.feed disjunction.tokens = .ok yard ∧ Pending base .or disjunction.query waiting yard := by
  cases disjunction with
  | chain first others =>
    obtain ⟨above, middle, read, conjunction⟩ := conjunction_read first base looser.and
    obtain ⟨waiting, yard, read', whole⟩ := alternatives_read others base looser (conjunction.loosen (by decide))
    refine ⟨waiting, yard, ?_, whole⟩
    rw [Disjunction.tokens, feed_append, read]
    exact read'

end

/-- A derivation is read on an empty yard, and leaves its query and nothing else. -/
theorem result_feed (derivation : Disjunction) : feed {} derivation.tokens >>= Yard.result = .ok derivation.query := by
  obtain ⟨waiting, yard, read, pending⟩ := disjunction_read derivation {} (by simp [Looser])
  have operators : yard.operators = waiting.map .operator := by simpa using pending.operators
  rw [read]
  change Yard.result yard = _
  rw [Yard.result, operators, drain_of_operators, pending.settled]
  rfl

end Precedence

/-- The tokens of a derivation, however long and deep, are read as the query of the
derivation: chains group to the left, and `not` binds tightest. -/
theorem parse_of_derivation (derivation : Disjunction) {input : String} (written : tokenize input = derivation.tokens) :
    Query.parse input = .ok derivation.query := by
  rw [Query.parse_eq_feed, written, Precedence.result_feed]

theorem parse_of_derivation_mixed :
    Query.parse "a or not b and (c or d(e,f)) and g or h" =
      .ok (.or
        (.or (.literal "a")
          (.and (.and (.not (.literal "b")) (.or (.literal "c") (.literal "d(e,f)"))) (.literal "g")))
        (.literal "h")) := by
  apply parse_of_derivation
    (.chain (.chain (.literal "a") .none)
      (.or
        (.chain (.not (.literal "b"))
          (.and (.group (.chain (.chain (.literal "c") .none) (.or (.chain (.literal "d(e,f)") .none) .none)))
            (.and (.literal "g") .none)))
        (.or (.chain (.literal "h") .none) .none)))
  decide +kernel

end TagQuery
