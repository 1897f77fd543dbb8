import Mathlib.Data.List.Infix
import TagQuery.Proofs.TokenConservation
import TagQuery.Token.Count

/-! The outcome by counting. Where no operand is missing, the parentheses alone decide
whether the tokens are read to their end, and then the literals and binary operators alone
decide how many queries are left: every binary operator takes one of them away. -/

namespace TagQuery

open Yard (Entry)
open Token (literalCount binaryCount Overclosed Paired)

instance (tokens : List Token) : Decidable (Overclosed tokens) :=
  decidable_of_iff (∃ front ∈ tokens.inits, front.count .opening < front.count .closing) (by
    simp [Overclosed, List.mem_inits])

instance (tokens : List Token) : Decidable (Paired tokens) := inferInstanceAs (Decidable (_ ∧ _))

private theorem Yard.count_opening (waiting : List Operator) : (waiting.map Entry.operator).count .opening = 0 := by
  induction waiting with
  | nil => rfl
  | cons op waiting ih => simpa using ih

namespace Conversion

variable {operators below : List Entry} {token : Token} {tokens : List Token} {items : List Item}

/-- The parentheses on the stack are those that were opened and not closed. -/
theorem Step.openings (step : Step operators token items below) :
    below.count .opening + [token].count .closing = operators.count .opening + [token].count .opening := by
  cases step with
  | operator split =>
    rw [split, List.count_append, Yard.count_opening]
    simp
  | opening => simp
  | closing split =>
    rw [split, List.count_append, Yard.count_opening]
    simp
  | literal value => simp

theorem Reads.openings (read : Reads operators tokens items below) :
    below.count .opening + tokens.count .closing = operators.count .opening + tokens.count .opening := by
  induction read with
  | nil => simp
  | @cons _ _ _ token tokens _ _ step _ ih =>
    have first := step.openings
    rw [Token.count_cons token tokens .closing, Token.count_cons token tokens .opening]
    omega

theorem Reads.not_overclosed (read : Reads [] tokens items below) : ¬ Overclosed tokens := by
  rintro ⟨front, ⟨back, rfl⟩, more⟩
  obtain ⟨first, middle, second, -, before, -⟩ := read.split
  have depth := before.openings
  rw [List.count_nil] at depth
  omega

theorem Reads.paired {waiting : List Operator} (read : Reads [] tokens items (waiting.map .operator)) :
    Paired tokens := by
  have depth := read.openings
  rw [Yard.count_opening, List.count_nil] at depth
  exact ⟨read.not_overclosed, by omega⟩

theorem Reads.overclosed {front later : List Token} {waiting : List Operator}
    (read : Reads [] front items (waiting.map .operator)) : Overclosed (front ++ Token.closing :: later) := by
  have depth := read.openings
  rw [Yard.count_opening, List.count_nil] at depth
  refine ⟨front ++ [.closing], ⟨later, by simp⟩, ?_⟩
  simp only [List.count_append, List.count_singleton_self, List.count_singleton]
  simp
  omega

/-- There is one literal more for each query than there are binary operators. -/
private theorem length_listing (queries : List Query) :
    ((listing queries).filterMap Item.value?).length =
      (listing queries).count (.operator .and) + (listing queries).count (.operator .or) + queries.length := by
  induction queries with
  | nil => rfl
  | cons query queries ih =>
    have leaves := query.length_leaves
    rw [← query.filterMap_items] at leaves
    simp only [listing_cons, List.filterMap_append, List.length_append, List.count_append, List.length_cons]
    omega

end Conversion

/-- What the numbers of tokens of each kind say of the outcome. -/
inductive Verdict (tokens : List Token) : Except ParseError Query → Prop where
  | missing (op : Operator) : Verdict tokens (.error (.missingOperand op))
  | unopened (overclosed : Overclosed tokens) : Verdict tokens (.error .unmatchedClosing)
  | unclosed (within : ¬ Overclosed tokens) (more : tokens.count .closing < tokens.count .opening) :
      Verdict tokens (.error .unmatchedOpening)
  | empty (paired : Paired tokens) (literals : literalCount tokens = 0) (binary : binaryCount tokens = 0)
      (nots : tokens.count (.operator .not) = 0) : Verdict tokens (.error .empty)
  | query (paired : Paired tokens) (one : literalCount tokens = binaryCount tokens + 1) (query : Query) :
      Verdict tokens (.ok query)
  | unconnected (paired : Paired tokens) (several : binaryCount tokens + 2 ≤ literalCount tokens) :
      Verdict tokens (.error .unconnected)

namespace Conversion

variable {tokens : List Token} {items : List Item} {waiting : List Operator} {built : List Query}

private theorem Reads.literalCount (read : Reads [] tokens items (waiting.map .operator))
    (done : build [] (items ++ waiting.map Item.operator) = .ok built) :
    Token.literalCount tokens = binaryCount tokens + built.length := by
  have size := length_listing built
  rw [listing_of_build done, read.values_written, read.count_written, read.count_written] at size
  exact size

private theorem Reads.count_eq_zero (read : Reads [] tokens items (waiting.map .operator))
    (done : build [] (items ++ waiting.map Item.operator) = .ok []) (op : Operator) : tokens.count (.operator op) = 0 := by
  rw [← read.count_written, ← listing_of_build done]
  rfl

theorem Ends.verdict {conversion : Conversion} (ends : Ends tokens conversion) :
    Verdict tokens conversion.outcome := by
  cases built : build [] conversion.items with
  | error error =>
    obtain ⟨_, op, _, _, _, _, _, rfl⟩ := build_eq_error_iff.mp built
    rw [Conversion.outcome, built]
    exact .missing op
  | ok queries =>
    rw [Conversion.outcome, built]
    cases ends with
    | unopened split read => exact .unopened (split ▸ read.overclosed)
    | unclosed read =>
      have depth := read.openings
      rw [List.count_append, List.count_cons_self, List.count_nil] at depth
      exact .unclosed read.not_overclosed (by omega)
    | complete read =>
      have size := read.literalCount built
      rcases queries with _ | ⟨query, _ | ⟨second, others⟩⟩
      · have absent := read.count_eq_zero built
        have binary : binaryCount tokens = 0 := by rw [binaryCount, absent, absent]
        exact .empty read.paired (by simpa [binary] using size) binary (absent .not)
      · exact .query read.paired size query
      · rw [List.length_cons, List.length_cons] at size
        exact .unconnected read.paired (by omega)

end Conversion

theorem Query.verdict_parse (input : String) : Verdict (tokenize input) (parse input) := by
  rw [parse_eq_conversion]
  exact (Conversion.ends_ofString input).verdict

/-- Unless an operand is missing, an outcome is decided by the parentheses, and by the
numbers of literals and binary operators if these match. With too few literals for the
operators an operand is missing. -/
theorem outcome_by_counting (input : String) :
    ((∀ op, Query.parse input ≠ .error (.missingOperand op)) →
      (Query.parse input = .error .unmatchedClosing ↔ Overclosed (tokenize input)) ∧
      (Query.parse input = .error .unmatchedOpening ↔
        ¬ Overclosed (tokenize input) ∧ (tokenize input).count .closing < (tokenize input).count .opening) ∧
      (Paired (tokenize input) →
        (Query.parse input = .error .empty ↔
          literalCount (tokenize input) = 0 ∧ binaryCount (tokenize input) = 0 ∧
            (tokenize input).count (.operator .not) = 0) ∧
        ((∃ query, Query.parse input = .ok query) ↔
          literalCount (tokenize input) = binaryCount (tokenize input) + 1) ∧
        (Query.parse input = .error .unconnected ↔
          binaryCount (tokenize input) + 2 ≤ literalCount (tokenize input)))) ∧
    (Paired (tokenize input) → literalCount (tokenize input) ≤ binaryCount (tokenize input) →
      0 < binaryCount (tokenize input) + (tokenize input).count (.operator .not) →
      ∃ op, Query.parse input = .error (.missingOperand op)) := by
  have verdict := Query.verdict_parse input
  generalize tokenize input = tokens, Query.parse input = outcome at verdict ⊢
  cases verdict with
  | missing op => exact ⟨fun possible => absurd rfl (possible op), fun _ _ _ => ⟨op, rfl⟩⟩
  | unopened overclosed => simp [overclosed, Paired]
  | unclosed within more =>
    have unequal : tokens.count .opening ≠ tokens.count .closing := by omega
    simp [within, more, unequal, Paired]
  | empty paired literals binary nots => simp [paired, paired.1, paired.2, literals, binary, nots]
  | query paired one query =>
    have enough : ¬ binaryCount tokens + 1 ≤ binaryCount tokens := by omega
    simp [paired, paired.1, paired.2, one, enough]
  | unconnected paired several =>
    have literals : literalCount tokens ≠ 0 := by omega
    have one : literalCount tokens ≠ binaryCount tokens + 1 := by omega
    have enough : ¬ literalCount tokens ≤ binaryCount tokens := by omega
    simp [paired, paired.1, paired.2, literals, one, enough, several]

theorem outcome_by_counting_displaced :
    (∃ query, Query.parse "a (and b) not" = .ok query) ∧
      ∃ op, Query.parse "(a and) or not b" = .error (.missingOperand op) := by
  have accepted : Query.parse "a (and b) not" = .ok (.not (.and (.literal "a") (.literal "b"))) := by decide +kernel
  refine ⟨?_, (outcome_by_counting "(a and) or not b").2 ?_ ?_ ?_⟩
  · have counted := (outcome_by_counting "a (and b) not").1 (by simp [accepted])
    exact (counted.2.2 (by decide +kernel)).2.1.mpr (by decide +kernel)
  · decide +kernel
  · decide +kernel
  · decide +kernel

end TagQuery
