import Mathlib.Data.List.Count
import TagQuery.Proofs.TwoPasses

/-! No token is lost. The first pass writes literals in the order in which it reads them,
and operators are either written or wait on its stack; so the nodes of a query are the
literals and operators it was read from, whatever order they were in. -/

namespace TagQuery

open Yard (Entry)

theorem Token.count_cons (token : Token) (tokens : List Token) (kind : Token) :
    (token :: tokens).count kind = [token].count kind + tokens.count kind := by
  rw [← List.count_append, List.singleton_append]

private theorem Item.filterMap_operators (waiting : List Operator) :
    (waiting.map Item.operator).filterMap Item.value? = [] := by
  induction waiting with
  | nil => rfl
  | cons op waiting ih => exact ih

private theorem Item.count_operators (waiting : List Operator) (op : Operator) :
    (waiting.map Item.operator).count (.operator op) = waiting.count op :=
  List.count_map_of_injective waiting Item.operator (fun _ _ same => Item.operator.inj same) op

private theorem Yard.count_operators (waiting : List Operator) (op : Operator) :
    (waiting.map Entry.operator).count (.operator op) = waiting.count op :=
  List.count_map_of_injective waiting Entry.operator (fun _ _ same => Entry.operator.inj same) op

namespace Conversion

variable {operators below : List Entry} {token : Token} {tokens : List Token} {items : List Item}

theorem Step.values (step : Step operators token items below) : items.filterMap Item.value? = token.value?.toList := by
  cases step with
  | operator => exact Item.filterMap_operators _
  | opening => rfl
  | closing => exact Item.filterMap_operators _
  | literal value => rfl

theorem Reads.values (read : Reads operators tokens items below) :
    items.filterMap Item.value? = tokens.filterMap Token.value? := by
  induction read with
  | nil => rfl
  | @cons _ _ _ token _ _ _ step _ ih =>
    rw [List.filterMap_append, step.values, ih]
    cases found : token.value? <;> simp [found]

/-- An operator that was read is written or waits. -/
theorem Step.count (step : Step operators token items below) (op : Operator) :
    items.count (.operator op) + below.count (.operator op) =
      operators.count (.operator op) + [token].count (.operator op) := by
  cases step with
  | @operator next waiting below split =>
    rw [split, List.count_append, Item.count_operators, Yard.count_operators]
    simp [List.count_cons]
    omega
  | opening => simp
  | closing split =>
    rw [split, List.count_append, Item.count_operators, Yard.count_operators]
    simp
  | literal value => simp

theorem Reads.count (read : Reads operators tokens items below) (op : Operator) :
    items.count (.operator op) + below.count (.operator op) =
      operators.count (.operator op) + tokens.count (.operator op) := by
  induction read with
  | nil => simp
  | @cons _ _ _ token tokens _ _ step _ ih =>
    have first := step.count op
    rw [List.count_append, Token.count_cons]
    omega

variable {waiting : List Operator}

theorem Reads.values_written (read : Reads [] tokens items (waiting.map .operator)) :
    (items ++ waiting.map Item.operator).filterMap Item.value? = tokens.filterMap Token.value? := by
  rw [List.filterMap_append, read.values, Item.filterMap_operators, List.append_nil]

theorem Reads.count_written (read : Reads [] tokens items (waiting.map .operator)) (op : Operator) :
    (items ++ waiting.map Item.operator).count (.operator op) = tokens.count (.operator op) := by
  have counted := read.count op
  rw [Yard.count_operators, List.count_nil, Nat.zero_add] at counted
  rw [List.count_append, Item.count_operators, counted]

end Conversion

namespace Query

variable {input : String} {query : Query}

/-- The leaves of an accepted text are its literals, in order. -/
theorem leaves_of_parse (accepted : parse input = .ok query) :
    query.leaves = (tokenize input).filterMap Token.value? := by
  obtain ⟨items, waiting, read, written⟩ := parse_eq_ok_iff.mp accepted
  rw [← filterMap_items, ← written, read.values_written]

theorem count_of_parse (accepted : parse input = .ok query) (op : Operator) :
    query.items.count (.operator op) = (tokenize input).count (.operator op) := by
  obtain ⟨items, waiting, read, written⟩ := parse_eq_ok_iff.mp accepted
  rw [← written, read.count_written]

end Query

/-- An accepted text has its literals in the query in the same order, and as many nodes of
each operator as it has operators, wherever they were written. -/
theorem nodes_of_parse {input : String} {query : Query} (accepted : Query.parse input = .ok query) :
    query.literals = (tokenize input).filterMap Token.value? ∧
      ∀ op, query.items.count (.operator op) = (tokenize input).count (.operator op) := by
  rw [Query.literals_eq_leaves]
  exact ⟨Query.leaves_of_parse accepted, Query.count_of_parse accepted⟩

theorem nodes_of_parse_ill_ordered :
    Query.parse "and a (b or) a(c) not not" =
        .ok (.and (.or (.literal "a") (.literal "b")) (.not (.not (.literal "a(c)")))) ∧
      Query.literals (.and (.or (.literal "a") (.literal "b")) (.not (.not (.literal "a(c)")))) =
        (tokenize "and a (b or) a(c) not not").filterMap Token.value? ∧
      ∀ op, (Query.and (.or (.literal "a") (.literal "b")) (.not (.not (.literal "a(c)")))).items.count (.operator op) =
        (tokenize "and a (b or) a(c) not not").count (.operator op) := by
  have accepted : Query.parse "and a (b or) a(c) not not" =
      .ok (.and (.or (.literal "a") (.literal "b")) (.not (.not (.literal "a(c)")))) := by
    decide +kernel
  exact ⟨accepted, nodes_of_parse accepted⟩

end TagQuery
