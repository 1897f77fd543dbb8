import Mathlib.Data.List.Basic
import TagQuery.Query.Reading

/-! Runs of the yard. Whatever makes it combine operators, it combines those on top of the
stack one after the other, down to an entry where it stops. A reading is such a run over
all tokens, and what is left at the end. -/

namespace TagQuery

namespace Yard

def settle : List Operator → List Query → Except ParseError (List Query)
  | [], queries => .ok queries
  | op :: waiting, queries => do settle waiting (← combine op queries)

theorem settle_append (first second : List Operator) (queries : List Query) :
    settle (first ++ second) queries = settle first queries >>= settle second := by
  induction first generalizing queries with
  | nil => rfl
  | cons op first ih =>
    rw [List.cons_append, settle, settle]
    cases combine op queries with
    | ok combined => exact ih combined
    | error error => rfl

theorem push_append {next : Operator} {waiting : List Operator} (precede : ∀ op ∈ waiting, op.precedes next)
    (below : List Entry) (queries : List Query) :
    push next (waiting.map .operator ++ below) queries = settle waiting queries >>= push next below := by
  induction waiting generalizing queries with
  | nil => rfl
  | cons op waiting ih =>
    have first := precede op (by simp)
    simp only [List.map_cons, List.cons_append, push, first, if_true, settle]
    cases combine op queries with
    | ok combined => exact ih (fun other member => precede other (by simp [member])) combined
    | error error => rfl

theorem push_of_stops {next : Operator} {below : List Entry}
    (stops : ∀ op, below.head? = some (.operator op) → ¬ op.precedes next) (queries : List Query) :
    push next below queries = .ok { operators := .operator next :: below, queries } := by
  cases below with
  | nil => rfl
  | cons entry below =>
    cases entry with
    | opening => rfl
    | operator op =>
      have stop := stops op rfl
      simp only [push, stop, Bool.false_eq_true, if_false]

theorem close_append (waiting : List Operator) (below : List Entry) (queries : List Query) :
    close (waiting.map .operator ++ below) queries = settle waiting queries >>= close below := by
  induction waiting generalizing queries with
  | nil => rfl
  | cons op waiting ih =>
    simp only [List.map_cons, List.cons_append, close, settle]
    cases combine op queries with
    | ok combined => exact ih combined
    | error error => rfl

theorem close_of_operators (waiting : List Operator) (queries : List Query) :
    close (waiting.map .operator) queries = settle waiting queries >>= fun _ => .error .unmatchedClosing := by
  rw [← List.append_nil (waiting.map _), close_append]
  rfl

theorem drain_append (waiting : List Operator) (below : List Entry) (queries : List Query) :
    drain (waiting.map .operator ++ below) queries = settle waiting queries >>= drain below := by
  induction waiting generalizing queries with
  | nil => rfl
  | cons op waiting ih =>
    simp only [List.map_cons, List.cons_append, drain, settle]
    cases combine op queries with
    | ok combined => exact ih combined
    | error error => rfl

theorem drain_of_operators (waiting : List Operator) (queries : List Query) :
    drain (waiting.map .operator) queries = settle waiting queries := by
  rw [← List.append_nil (waiting.map _), drain_append]
  cases settle waiting queries <;> rfl

theorem exists_preceding (next : Operator) (operators : List Entry) :
    ∃ (waiting : List Operator) (below : List Entry), operators = waiting.map .operator ++ below ∧
      (∀ op ∈ waiting, op.precedes next) ∧ ∀ op, below.head? = some (.operator op) → ¬ op.precedes next := by
  induction operators with
  | nil => exact ⟨[], [], rfl, by simp, by simp⟩
  | cons entry operators ih =>
    cases entry with
    | opening => exact ⟨[], .opening :: operators, rfl, by simp, by simp⟩
    | operator op =>
      by_cases first : op.precedes next
      · obtain ⟨waiting, below, rfl, precede, stops⟩ := ih
        exact ⟨op :: waiting, below, rfl, by simpa [first] using precede, stops⟩
      · exact ⟨[], .operator op :: operators, rfl, by simp, by simpa using first⟩

theorem exists_group (operators : List Entry) :
    (∃ waiting : List Operator, operators = waiting.map .operator) ∨
      ∃ (waiting : List Operator) (below : List Entry), operators = waiting.map .operator ++ .opening :: below := by
  induction operators with
  | nil => exact .inl ⟨[], rfl⟩
  | cons entry operators ih =>
    cases entry with
    | opening => exact .inr ⟨[], operators, rfl⟩
    | operator op =>
      rcases ih with ⟨waiting, rfl⟩ | ⟨waiting, below, rfl⟩
      · exact .inl ⟨op :: waiting, rfl⟩
      · exact .inr ⟨op :: waiting, below, rfl⟩

def feed (yard : Yard) (tokens : List Token) : Except ParseError Yard := tokens.foldlM accept yard

@[simp] theorem feed_nil (yard : Yard) : yard.feed [] = .ok yard := rfl

theorem feed_cons (yard : Yard) (token : Token) (tokens : List Token) :
    yard.feed (token :: tokens) = yard.accept token >>= fun after => after.feed tokens := rfl

theorem feed_append (yard : Yard) (first second : List Token) :
    yard.feed (first ++ second) = yard.feed first >>= fun after => after.feed second := by
  rw [feed, List.foldlM_append]
  rfl

end Yard

theorem Reading.outcome_ofTokens (input : String) (yard : Yard) (tokens : List Token) :
    (ofTokens input yard tokens).outcome = yard.feed tokens >>= Yard.result := by
  induction tokens generalizing yard with
  | nil =>
    rw [Yard.feed_nil, ofTokens]
    change _ = yard.result
    cases yard.result <;> rfl
  | cons token tokens ih =>
    rw [Yard.feed_cons, ofTokens]
    cases yard.accept token with
    | ok after => exact ih after
    | error error => rfl

theorem Query.parse_eq_feed (input : String) : parse input = Yard.feed {} (tokenize input) >>= Yard.result :=
  Reading.outcome_ofTokens input {} (tokenize input)

end TagQuery
