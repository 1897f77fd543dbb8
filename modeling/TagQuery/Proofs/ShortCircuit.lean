import TagQuery.Query.Literals
import TagQuery.Query.Meaning

/-! Evaluation against its meaning. A run finds the value that the recursion gives and asks for
the same literals in the same order. What is asked for stands in the query, and the answers
are all that a value depends on; so nothing else in a set of tags makes a difference. -/

namespace TagQuery

namespace Query

variable {member other : String → Bool}

theorem evaluation_eq (member : String → Bool) (query : Query) :
    query.evaluation member = ⟨query.value member, query.tested member⟩ := by
  rw [evaluation, Evaluation.run_visit, Evaluation.run, List.append_nil, List.reverse_reverse]

private theorem contains_eq (tags : Std.HashSet String) : tags.contains = fun name => decide (name ∈ tags) := by
  funext name
  rw [Bool.eq_iff_iff, decide_eq_true_iff]
  exact Std.HashSet.contains_iff_mem

theorem holdsIn_eq_value (tags : Std.HashSet String) (query : Query) :
    query.holdsIn tags = query.value (fun name => decide (name ∈ tags)) := by
  rw [holdsIn, contains_eq, evaluation_eq]

theorem tested_sublist (member : String → Bool) (query : Query) : (query.tested member).Sublist query.leaves := by
  induction query with
  | literal name => exact .refl _
  | and left right ihLeft ihRight =>
    rw [tested, leaves]
    apply ihLeft.append
    split
    next => exact ihRight
    next => exact List.nil_sublist _
  | or left right ihLeft ihRight =>
    rw [tested, leaves]
    apply ihLeft.append
    split
    next => exact List.nil_sublist _
    next => exact ihRight
  | not inner ih => exact ih

/-- Only the answers to what is asked for count. -/
theorem value_congr {query : Query} (same : ∀ name ∈ query.tested member, member name = other name) :
    query.value member = query.value other := by
  induction query with
  | literal name => exact same name List.mem_cons_self
  | and left right ihLeft ihRight =>
    have sameLeft := ihLeft fun name asked => same name (List.mem_append_left _ asked)
    rw [value, value, ← sameLeft]
    cases decided : left.value member with
    | false => rfl
    | true =>
      have sameRight := ihRight fun name asked => same name (by simp [tested, decided, asked])
      rw [sameRight]
  | or left right ihLeft ihRight =>
    have sameLeft := ihLeft fun name asked => same name (List.mem_append_left _ asked)
    rw [value, value, ← sameLeft]
    cases decided : left.value member with
    | false =>
      have sameRight := ihRight fun name asked => same name (by simp [tested, decided, asked])
      rw [sameRight]
    | true => rfl
  | not inner ih => rw [value, value, ih same]

theorem holdsIn_congr {query : Query} {first second : Std.HashSet String}
    (same : ∀ literal ∈ query.literals, literal ∈ first ↔ literal ∈ second) : query.holdsIn first = query.holdsIn second := by
  rw [literals_eq_leaves] at same
  rw [holdsIn_eq_value, holdsIn_eq_value]
  apply value_congr
  intro name asked
  exact decide_eq_decide.mpr (same name ((tested_sublist _ query).subset asked))

end Query

/-- A run has the value of the recursion and asks for the literals in its order, so it never
visits an operand that cannot change the value: neither behind a left one that does not hold
in `and`, nor behind one that holds in `or`. -/
theorem evaluation_short_circuits (tags : Std.HashSet String) (query : Query) :
    query.evaluation tags.contains =
        ⟨query.value fun name => decide (name ∈ tags), query.tested fun name => decide (name ∈ tags)⟩ ∧
      (∃ rounds ≤ 2 * query.size, Round.Finishes (Evaluation.round tags.contains) (query.evaluation tags.contains)
        (false, [], [.visit query]) rounds) ∧
      query.holdsIn tags = query.value (fun name => decide (name ∈ tags)) ∧
      (∀ right, query.holdsIn tags = false → (query.and right).evaluation tags.contains = query.evaluation tags.contains) ∧
      ∀ right, query.holdsIn tags = true → (query.or right).evaluation tags.contains = query.evaluation tags.contains := by
  have run := Query.evaluation_eq fun name => decide (name ∈ tags)
  have holds := Query.holdsIn_eq_value tags query
  have ends := (Evaluation.computes tags.contains).finishes (false, [], [.visit query]) rfl
  rw [Query.contains_eq] at ends ⊢
  refine ⟨run query, ends, holds, ?_, ?_⟩
  · intro right fails
    rw [holds] at fails
    rw [run, run, Query.value, Query.tested, fails]
    simp
  · intro right holds'
    rw [holds] at holds'
    rw [run, run, Query.value, Query.tested, holds']
    simp

theorem evaluation_short_circuits_nested :
    ((Query.or (.literal "a") (.not (.literal "b"))).and (.literal "c(d)")).evaluation
          (Std.HashSet.ofList ["b"]).contains = ⟨false, ["a", "b"]⟩ ∧
      ((Query.not (.and (.literal "a") (.literal "b"))).or (.literal "c(d)")).evaluation
          (Std.HashSet.ofList ["b"]).contains = ⟨true, ["a"]⟩ := by
  have fails : (Query.or (.literal "a") (.not (.literal "b"))).holdsIn (.ofList ["b"]) = false := by
    simp [Query.holdsIn_eq_value, Query.value]
  have holds : (Query.not (.and (.literal "a") (.literal "b"))).holdsIn (.ofList ["b"]) = true := by
    simp [Query.holdsIn_eq_value, Query.value]
  constructor
  · obtain ⟨run, _, _, skips, _⟩ := evaluation_short_circuits (.ofList ["b"]) (.or (.literal "a") (.not (.literal "b")))
    rw [skips _ fails, run]
    simp [Query.value, Query.tested]
  · obtain ⟨run, _, _, _, skips⟩ := evaluation_short_circuits (.ofList ["b"]) (.not (.and (.literal "a") (.literal "b")))
    rw [skips _ holds, run]
    simp [Query.value, Query.tested]

/-- Two lists, or a list and a set, that have the same literals of the query give it the same value,
whatever else there is in them. -/
theorem evaluate_eq_of_same_literals (query : Query) {first second : List String}
    (same : ∀ literal ∈ query.literals, literal ∈ first ↔ literal ∈ second) :
    query.evaluate first = query.evaluate second ∧
      ∀ tags : Std.HashSet String, (∀ literal ∈ query.literals, literal ∈ tags ↔ literal ∈ first) →
        query.holdsIn tags = query.evaluate first := by
  have listed (tags : List String) (literal : String) : literal ∈ Std.HashSet.ofList tags ↔ literal ∈ tags := by simp
  constructor
  · apply Query.holdsIn_congr
    intro literal member
    rw [listed, listed]
    exact same literal member
  · intro tags same'
    apply Query.holdsIn_congr
    intro literal member
    rw [listed]
    exact same' literal member

theorem evaluate_eq_of_same_literals_shuffled :
    (∀ literal ∈ Query.literals (.or (.and (.literal "a") (.literal "b")) (.not (.literal "c(d)"))),
        literal ∈ ["c(d)", "x", "a"] ↔ literal ∈ ["a", "", "c(d)", "a"]) ∧
      (∀ literal ∈ Query.literals (.or (.and (.literal "a") (.literal "b")) (.not (.literal "c(d)"))),
        literal ∈ Std.HashSet.ofList ["B", "a", "c(d)"] ↔ literal ∈ ["c(d)", "x", "a"]) ∧
      Query.evaluate ["c(d)", "x", "a"] (.or (.and (.literal "a") (.literal "b")) (.not (.literal "c(d)"))) =
        Query.evaluate ["a", "", "c(d)", "a"] (.or (.and (.literal "a") (.literal "b")) (.not (.literal "c(d)"))) ∧
      Query.holdsIn (.ofList ["B", "a", "c(d)"]) (.or (.and (.literal "a") (.literal "b")) (.not (.literal "c(d)"))) =
        Query.evaluate ["c(d)", "x", "a"] (.or (.and (.literal "a") (.literal "b")) (.not (.literal "c(d)"))) := by
  have same : ∀ literal ∈ Query.literals (.or (.and (.literal "a") (.literal "b")) (.not (.literal "c(d)"))),
      literal ∈ ["c(d)", "x", "a"] ↔ literal ∈ ["a", "", "c(d)", "a"] := by
    simp [Query.literals_eq_leaves, Query.leaves]
  have same' : ∀ literal ∈ Query.literals (.or (.and (.literal "a") (.literal "b")) (.not (.literal "c(d)"))),
      literal ∈ Std.HashSet.ofList ["B", "a", "c(d)"] ↔ literal ∈ ["c(d)", "x", "a"] := by
    simp [Query.literals_eq_leaves, Query.leaves]
  obtain ⟨lists, sets⟩ := evaluate_eq_of_same_literals _ same
  exact ⟨same, same', lists, sets _ same'⟩

end TagQuery
