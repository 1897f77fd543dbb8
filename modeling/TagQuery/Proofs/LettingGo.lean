import Mathlib.Data.List.Chain
import TagQuery.Query.Dismantling

/-! Letting go of a query takes it apart to the last node. Every query inside it is taken off the
stack once, and what is let go has only empty literals left for operands. So letting go never
goes deeper than to such a literal, however deep the query was. -/

namespace TagQuery

namespace Query

private theorem length_subqueries (query : Query) : query.subqueries.length + 1 = query.size := by
  induction query with
  | literal value => rfl
  | and left right ihLeft ihRight =>
    simp only [subqueries, size, List.length_append, List.length_cons]
    omega
  | or left right ihLeft ihRight =>
    simp only [subqueries, size, List.length_append, List.length_cons]
    omega
  | not inner ih =>
    simp only [subqueries, size, List.length_cons]
    omega

private theorem operands_subqueries (query : Query) :
    (query.operands.flatMap fun operand => operand :: operand.subqueries).Perm query.subqueries := by
  have swap (left right : Query) :
      (right :: right.subqueries ++ (left :: left.subqueries ++ [])).Perm
        (left :: left.subqueries ++ right :: right.subqueries) := by
    rw [List.append_nil]
    exact List.perm_append_comm
  cases query with
  | literal value => exact .nil
  | and left right => exact swap left right
  | or left right => exact swap left right
  | not inner => exact .of_eq (List.append_nil _)

private theorem operands_hollow (query : Query) : query.hollow.operands = query.operands.map fun _ => blank := by
  cases query <;> rfl

private theorem eq_blank_of_mem_hollow {query operand : Query} (member : operand ∈ query.hollow.operands) :
    operand = blank := by
  rw [operands_hollow] at member
  obtain ⟨_, _, same⟩ := List.mem_map.mp member
  exact same.symm

end Query

namespace Dismantling

open Query

/-- Whatever is on the stack will be taken off it, and so will everything inside. -/
theorem run_taken (taken released pending : List Query) :
    (run taken released pending).taken.Perm
      (taken.reverse ++ pending.flatMap fun query => query :: query.subqueries) := by
  induction taken, released, pending using run.induct with
  | case1 taken released => simp [run]
  | case2 taken released query pending ih =>
    rw [run, List.flatMap_cons]
    apply ih.trans
    rw [List.reverse_cons, List.append_assoc, List.flatMap_append]
    exact ((query.operands_subqueries.append_right _).cons query).append_left _

theorem run_released {taken released : List Query} (hollowed : released = taken.map hollow) (pending : List Query) :
    (run taken released pending).released = (run taken released pending).taken.map hollow := by
  induction taken, released, pending using run.induct with
  | case1 taken released => simp [run, hollowed]
  | case2 taken released query pending ih =>
    rw [run]
    exact ih (by rw [hollowed, List.map_cons])

private theorem mem_released {pending : List Query} {inner : Query} (member : inner ∈ (run [] [] pending).released) :
    ∃ query ∈ pending, ∃ node ∈ query :: query.subqueries, inner = node.hollow := by
  have hollowed : (run [] [] pending).released = (run [] [] pending).taken.map hollow := run_released rfl pending
  rw [hollowed] at member
  obtain ⟨node, taken, same⟩ := List.mem_map.mp member
  obtain ⟨query, stacked, inside⟩ := List.mem_flatMap.mp ((run_taken [] [] pending).subset taken)
  exact ⟨query, stacked, node, inside, same.symm⟩

theorem length_taken {result : Dismantling} {state : List Query × List Query × List Query} {rounds : Nat}
    (finishes : Round.Finishes round result state rounds) : result.taken.length = state.1.length + rounds := by
  induction finishes with
  | @last state ends =>
    obtain ⟨taken, released, _ | ⟨query, pending⟩⟩ := state <;> cases ends
    exact List.length_reverse
  | @next state later rounds leads finishes ih =>
    obtain ⟨taken, released, _ | ⟨query, pending⟩⟩ := state <;> cases leads
    dsimp only [List.length_cons] at ih ⊢
    omega

end Dismantling

namespace Query

private theorem Releases.of_hollow {node inner : Query} (releases : node.hollow.Releases inner) : inner = blank := by
  cases releases with
  | inl stacked =>
    obtain ⟨query, operand, part, inside, rfl⟩ := Dismantling.mem_released stacked
    obtain rfl := eq_blank_of_mem_hollow operand
    obtain rfl := List.mem_singleton.mp inside
    rfl
  | inr left => exact eq_blank_of_mem_hollow left

private theorem Releases.exists_hollow {outer inner : Query} (releases : outer.Releases inner) :
    ∃ node, inner = hollow node := by
  cases releases with
  | inl stacked =>
    obtain ⟨_, _, node, _, same⟩ := Dismantling.mem_released stacked
    exact ⟨node, same⟩
  | inr left => exact ⟨blank, eq_blank_of_mem_hollow left⟩

private theorem not_releases_blank (inner : Query) : ¬ blank.Releases inner := by
  simp [Releases, blank, hollow, operands, Dismantling.run]

/-- Below a hollow node there is an empty literal at most. -/
theorem length_le_of_hollow {node : Query} {chain : List Query}
    (nested : (node.hollow :: chain).IsChain Releases) : chain.length ≤ 1 := by
  match chain with
  | [] => exact Nat.zero_le 1
  | [_] => exact Nat.le_refl 1
  | first :: second :: _ =>
    obtain ⟨outer, nested⟩ := List.isChain_cons_cons.mp nested
    obtain ⟨inner, _⟩ := List.isChain_cons_cons.mp nested
    rw [outer.of_hollow] at inner
    exact absurd inner (not_releases_blank second)

end Query

/-- There is one round for each query inside. Letting go of a node from the stack goes one level
deeper at most, and so letting go of the query itself goes two. -/
theorem dismantle_takes_every_part (query : Query) :
    (∃ rounds, rounds + 1 = query.size ∧
        Round.Finishes Dismantling.round (Dismantling.run [] [] query.operands) ([], [], query.operands) rounds) ∧
      query.dismantle.taken.Perm query.subqueries ∧
      query.dismantle.released = (query.dismantle.taken ++ [query]).map Query.hollow ∧
      (∀ node ∈ query.dismantle.released, ∀ operand ∈ node.operands, operand = Query.blank) ∧
      (∀ node ∈ query.dismantle.released, ∀ chain, (node :: chain).IsChain Query.Releases → chain.length ≤ 1) ∧
      ∀ chain, (query :: chain).IsChain Query.Releases → chain.length ≤ 2 := by
  have taken : query.dismantle.taken.Perm query.subqueries :=
    (Dismantling.run_taken [] [] query.operands).trans query.operands_subqueries
  have released : query.dismantle.released = (query.dismantle.taken ++ [query]).map Query.hollow := by
    rw [List.map_append]
    exact congrArg (· ++ [query.hollow]) (Dismantling.run_released rfl query.operands)
  have hollow : ∀ node ∈ query.dismantle.released, ∃ whole, node = Query.hollow whole := by
    intro node member
    rw [released] at member
    obtain ⟨whole, _, same⟩ := List.mem_map.mp member
    exact ⟨whole, same.symm⟩
  refine ⟨?_, taken, released, ?_, ?_, ?_⟩
  · obtain ⟨rounds, _, finishes⟩ := Dismantling.computes.finishes ([], [], query.operands) rfl
    have counted := Dismantling.length_taken finishes
    have all : (Dismantling.run [] [] query.operands).taken.length = query.subqueries.length := taken.length_eq
    have whole := query.length_subqueries
    dsimp only [List.length_nil] at counted
    exact ⟨rounds, by omega, finishes⟩
  · intro node member operand left
    obtain ⟨whole, rfl⟩ := hollow node member
    exact Query.eq_blank_of_mem_hollow left
  · intro node member chain nested
    obtain ⟨whole, rfl⟩ := hollow node member
    exact Query.length_le_of_hollow nested
  · intro chain nested
    cases chain with
    | nil => exact Nat.zero_le 2
    | cons first chain =>
      obtain ⟨releases, nested⟩ := List.isChain_cons_cons.mp nested
      obtain ⟨node, rfl⟩ := releases.exists_hollow
      exact Nat.succ_le_succ (Query.length_le_of_hollow nested)

theorem dismantle_takes_every_part_deep :
    .not Query.blank ∈ (Query.dismantle (.and (.not (.not (.literal "a"))) (.literal "b"))).released ∧
      [Query.not .blank, .blank].IsChain Query.Releases ∧
      [Query.blank].length ≤ 1 ∧
      [Query.and (.not (.not (.literal "a"))) (.literal "b"), .not .blank, .blank].IsChain Query.Releases ∧
      [Query.not .blank, .blank].length ≤ 2 := by
  have hollow : .not Query.blank ∈ (Query.dismantle (.and (.not (.not (.literal "a"))) (.literal "b"))).released := by
    simp [Query.dismantle, Dismantling.run, Query.operands, Query.hollow]
  have below : Query.Releases (.not .blank) .blank := .inr List.mem_cons_self
  have stacked : Query.Releases (.and (.not (.not (.literal "a"))) (.literal "b")) (.not .blank) := by
    simp [Query.Releases, Dismantling.run, Query.operands, Query.hollow]
  have short : [Query.not .blank, .blank].IsChain Query.Releases := .cons_cons below (.singleton _)
  have long : [Query.and (.not (.not (.literal "a"))) (.literal "b"), .not .blank, .blank].IsChain Query.Releases :=
    .cons_cons stacked short
  obtain ⟨_, _, _, _, node, root⟩ := dismantle_takes_every_part (.and (.not (.not (.literal "a"))) (.literal "b"))
  exact ⟨hollow, short, node _ hollow _ short, long, root _ long⟩

end TagQuery
