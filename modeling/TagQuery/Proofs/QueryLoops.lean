import TagQuery.Query.Copy
import TagQuery.Query.Equality
import TagQuery.Query.Rendering

/-! What the loops that write, copy and compare queries come to. Each of them ends, whatever the
shape of the query, after a number of rounds that its size bounds, and in between what was
done and what is left to do always make up the whole. -/

namespace TagQuery

namespace Rendering

/-- What a step will have written in the end. -/
def Step.text : Step → String
  | visit query => query.canonical
  | write text => text

theorem run_eq (written : String) (work : List Step) : run written work = written ++ String.join (work.map Step.text) := by
  induction work generalizing written with
  | nil => rw [run, List.map_nil, String.join_nil, String.append_empty]
  | cons step work ih =>
    rw [List.map_cons, String.join_cons, ← String.append_assoc]
    cases step with
    | visit query => rw [run_visit, ih]; rfl
    | write text => rw [run, ih]; rfl

end Rendering

/-- At any time, what is left to do writes what the canonical text still lacks. -/
theorem rendering_writes_canonical (query : Query) :
    query.render = query.canonical ∧
      (∃ rounds ≤ 4 * query.size, Round.Finishes Rendering.round query.canonical ("", [.visit query]) rounds) ∧
      ∀ written work, Round.Reaches Rendering.round ("", [.visit query]) (written, work) →
        written ++ String.join (work.map Rendering.Step.text) = query.canonical := by
  have whole : Rendering.run "" [.visit query] = query.canonical := query.render_eq_canonical
  refine ⟨whole, Rendering.computes.finishes ("", [.visit query]) whole, ?_⟩
  intro written work reached
  rw [← Rendering.run_eq]
  exact Rendering.computes.value_of_reaches whole reached

theorem rendering_writes_canonical_halfway :
    Round.Reaches Rendering.round ("", [.visit (.and (.literal "a") (.not (.literal "b(c)")))])
        ("( a", [.write " and ", .visit (.not (.literal "b(c)")), .write " )"]) ∧
      "( a" ++ String.join
          (List.map Rendering.Step.text [.write " and ", .visit (.not (.literal "b(c)")), .write " )"]) =
        Query.canonical (.and (.literal "a") (.not (.literal "b(c)"))) := by
  have reached : Round.Reaches Rendering.round ("", [.visit (.and (.literal "a") (.not (.literal "b(c)")))])
      ("( a", [.write " and ", .visit (.not (.literal "b(c)")), .write " )"]) :=
    .next (.next .start rfl) rfl
  obtain ⟨_, _, between⟩ := rendering_writes_canonical (.and (.literal "a") (.not (.literal "b(c)")))
  exact ⟨reached, between _ _ reached⟩

/-- Every operator finds its operands when its turn comes, and in the end there is nothing but the
copy on the stack. -/
theorem copying_rebuilds (query : Query) :
    query.copy = query ∧
      (∃ rounds ≤ 2 * query.size, Round.Finishes Copying.round (some [query]) ([], [.visit query]) rounds) ∧
      (∀ copied op work, Round.Reaches Copying.round ([], [.visit query]) (copied, .combine op :: work) →
        (op.combine? copied).isSome) ∧
      ∀ copied, Round.Reaches Copying.round ([], [.visit query]) (copied, []) → copied = [query] := by
  have root := Copying.run_root query
  refine ⟨?_, Copying.computes.finishes ([], [.visit query]) root, ?_, ?_⟩
  · simp [Query.copy, root]
  · intro copied op work reached
    have kept : Copying.run copied (.combine op :: work) = some [query] := Copying.computes.value_of_reaches root reached
    cases found : op.combine? copied with
    | some combined => rfl
    | none => simp [Copying.run, found] at kept
  · intro copied reached
    have kept : Copying.run copied [] = some [query] := Copying.computes.value_of_reaches root reached
    rw [Copying.run] at kept
    exact Option.some.inj kept

theorem copying_rebuilds_nested :
    Round.Reaches Copying.round ([], [.visit (.or (.literal "a") (.not (.literal "b")))])
        ([.not (.literal "b"), .literal "a"], [.combine .or]) ∧
      (Operator.or.combine? [.not (.literal "b"), .literal "a"]).isSome ∧
      Round.Reaches Copying.round ([], [.visit (.or (.literal "a") (.not (.literal "b")))])
        ([.or (.literal "a") (.not (.literal "b"))], []) ∧
      [Query.or (.literal "a") (.not (.literal "b"))] = [.or (.literal "a") (.not (.literal "b"))] := by
  have turn : Round.Reaches Copying.round ([], [.visit (.or (.literal "a") (.not (.literal "b")))])
      ([.not (.literal "b"), .literal "a"], [.combine .or]) :=
    .next (.next (.next (.next (.next .start rfl) rfl) rfl) rfl) rfl
  have last : Round.Reaches Copying.round ([], [.visit (.or (.literal "a") (.not (.literal "b")))])
      ([.or (.literal "a") (.not (.literal "b"))], []) :=
    .next turn rfl
  obtain ⟨_, _, operands, root⟩ := copying_rebuilds (.or (.literal "a") (.not (.literal "b")))
  exact ⟨turn, operands _ _ _ turn, last, root _ last⟩

theorem Query.same_eq_decide (first second : Query) : first.same second = decide (first = second) := by
  rw [Bool.eq_iff_iff, same_iff, decide_eq_true_iff]

/-- The smaller query bounds the rounds, since the two are walked side by side. -/
theorem same_decides_equality :
    (∀ first second : Query, (first.same second = true ↔ first = second) ∧
      ∃ rounds ≤ min first.size second.size,
        Round.Finishes Equality.round (decide (first = second)) [(first, second)] rounds) ∧
      Equivalence (fun first second : Query => first.same second = true) ∧
      ∀ first second : Query, second.same first = first.same second := by
  refine ⟨?_, ⟨?_, ?_, ?_⟩, ?_⟩
  · intro first second
    exact ⟨first.same_iff second, Equality.computes.finishes [(first, second)] (first.same_eq_decide second)⟩
  · intro query
    exact (query.same_iff query).mpr rfl
  · intro first second same
    rw [Query.same_iff] at same ⊢
    exact same.symm
  · intro first second third same same'
    rw [Query.same_iff] at same same' ⊢
    exact same.trans same'
  · intro first second
    rw [Query.same_eq_decide, Query.same_eq_decide]
    exact decide_eq_decide.mpr eq_comm

end TagQuery
