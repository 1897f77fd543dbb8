import Mathlib.Data.List.Chain
import TagQuery.Proofs.ConversionRuns

/-! How operators lie on each other while they wait. An operator is put down where none is
left that precedes it, so between two opening parentheses they bind more tightly from the
bottom up. Nothing but the top is ever taken off, and this keeps what lies beneath. -/

namespace TagQuery

open Yard (Entry)

private theorem Operator.not_precedes_iff (lower upper : Operator) :
    ¬ lower.precedes upper ↔ upper = .not ∨ lower = .or ∧ upper = .and := by
  cases lower <;> cases upper <;> decide

namespace Yard

/-- An operator that lies directly on another one did not make it settle. -/
def Entry.Rests : Entry → Entry → Prop
  | .operator upper, .operator lower => ¬ lower.precedes upper
  | _, _ => True

def Ordered (operators : List Entry) : Prop := operators.IsChain Entry.Rests

/-- From the bottom up, at most one `or`, then at most one `and`, then any number of `not`. -/
def Graded (stretch : List Entry) : Prop :=
  ∃ ors ands nots, ors ≤ 1 ∧ ands ≤ 1 ∧
    stretch = (List.replicate ors Operator.or ++ List.replicate ands Operator.and ++
      List.replicate nots Operator.not).map Entry.operator

/-- Opening parentheses cut the stack into graded stretches, which may be empty. -/
def Layered (operators : List Entry) : Prop := ∀ stretch ∈ operators.reverse.splitOn .opening, Graded stretch

theorem Ordered.push {below : List Entry} (ordered : Ordered below) {next : Operator}
    (stops : ∀ op, below.head? = some (.operator op) → ¬ op.precedes next) : Ordered (.operator next :: below) := by
  apply ordered.cons
  intro entry top
  cases entry with
  | operator op => exact stops op top
  | opening => trivial

theorem Ordered.opening {below : List Entry} (ordered : Ordered below) : Ordered (.opening :: below) :=
  ordered.cons fun entry _ => by cases entry <;> trivial

/-- Only a `not` can lie on a `not`, and only an operator that binds more tightly on any other. -/
private theorem Ordered.exists_counts {waiting : List Operator} (ordered : Ordered (waiting.map .operator)) :
    ∃ ors ands nots, ors ≤ 1 ∧ ands ≤ 1 ∧
      waiting = List.replicate nots Operator.not ++ List.replicate ands Operator.and ++ List.replicate ors Operator.or := by
  induction waiting with
  | nil => exact ⟨0, 0, 0, by simp⟩
  | cons op waiting ih =>
    have beneath : ∀ lower, waiting.head? = some lower → op = .not ∨ lower = .or ∧ op = .and := by
      intro lower top
      apply (Operator.not_precedes_iff lower op).mp
      exact ordered.rel_head? (y := .operator lower) (by simp [top])
    obtain ⟨ors, ands, nots, single, single', rfl⟩ := ih ordered.tail
    cases op with
    | not => exact ⟨ors, ands, nots + 1, single, single', rfl⟩
    | and =>
      cases nots with
      | succ nots => cases beneath .not rfl <;> simp_all
      | zero =>
        cases ands with
        | succ ands => cases beneath .and rfl <;> simp_all
        | zero => exact ⟨ors, 1, 0, single, Nat.le_refl 1, by simp [List.replicate_succ]⟩
    | or =>
      have nothing : (List.replicate nots Operator.not ++ List.replicate ands Operator.and ++
          List.replicate ors Operator.or).head? = none := by
        apply Option.eq_none_iff_forall_ne_some.mpr
        intro lower top
        cases beneath lower top <;> simp_all
      rw [List.head?_eq_none_iff.mp nothing]
      exact ⟨1, 0, 0, Nat.le_refl 1, Nat.zero_le 1, rfl⟩

private theorem Ordered.graded {waiting : List Operator} (ordered : Ordered (waiting.map .operator)) :
    Graded (waiting.map Entry.operator).reverse := by
  obtain ⟨ors, ands, nots, single, single', rfl⟩ := ordered.exists_counts
  exact ⟨ors, ands, nots, single, single', by simp⟩

theorem Ordered.layered {operators : List Entry} (ordered : Ordered operators) : Layered operators := by
  induction size : operators.length using Nat.strongRecOn generalizing operators with
  | ind size ih =>
    subst size
    rcases exists_group operators with ⟨waiting, rfl⟩ | ⟨waiting, below, rfl⟩
    · have whole : (waiting.map Entry.operator).reverse.splitOn .opening = [(waiting.map Entry.operator).reverse] :=
        List.splitOn_eq_singleton (by simp)
      intro stretch member
      rw [whole] at member
      cases List.mem_singleton.mp member
      exact ordered.graded
    · have split : (waiting.map Entry.operator ++ .opening :: below).reverse.splitOn .opening =
          below.reverse.splitOn .opening ++ [(waiting.map Entry.operator).reverse] := by
        have alone : (waiting.map Entry.operator).reverse.splitOn .opening = [(waiting.map Entry.operator).reverse] :=
          List.splitOn_eq_singleton (by simp)
        rw [List.reverse_append, List.reverse_cons, List.append_assoc, List.singleton_append,
          List.splitOn_append_cons_self, alone]
      intro stretch member
      rw [split, List.mem_append] at member
      cases member with
      | inl beneath =>
        have shorter : below.length < (waiting.map Entry.operator ++ .opening :: below).length := by simp; omega
        exact ih _ shorter (ordered.suffix ⟨waiting.map .operator ++ [.opening], by simp⟩) rfl stretch beneath
      | inr top =>
        cases List.mem_singleton.mp top
        exact Ordered.graded (List.IsChain.left_of_append ordered)

private theorem Draining.suffix_of_reaches {yard later : Yard} (reached : Round.Reaches Draining.round yard later) :
    later.operators <:+ yard.operators := by
  induction reached with
  | start => exact List.suffix_rfl
  | next _ leads ih =>
    refine List.IsSuffix.trans ?_ ih
    unfold Draining.round at leads
    split at leads
    next => cases leads
    next => cases leads
    next waiting operators top =>
      split at leads
      next =>
        cases leads
        exact top ▸ List.suffix_cons ..
      next => cases leads

end Yard

namespace Conversion

variable {operators below : List Entry} {token : Token} {tokens : List Token} {items : List Item}

theorem Step.ordered (step : Step operators token items below) (ordered : Yard.Ordered operators) :
    Yard.Ordered below := by
  cases step with
  | operator split precede stops =>
    exact Yard.Ordered.push (ordered.suffix ⟨_, split.symm⟩) stops
  | opening => exact ordered.opening
  | @closing waiting below split =>
    exact ordered.suffix ⟨waiting.map .operator ++ [.opening], by simp [split]⟩
  | literal => exact ordered

theorem Reads.ordered (read : Reads operators tokens items below) (ordered : Yard.Ordered operators) :
    Yard.Ordered below := by
  induction read with
  | nil => exact ordered
  | cons step _ ih => exact ih (step.ordered ordered)

private theorem Step.of_accept {yard after : Yard} (accepted : yard.accept token = .ok after) :
    ∃ items, Step yard.operators token items after.operators := by
  rcases exists_step yard.operators token with ⟨items, below, step⟩ | ⟨rfl, waiting, unopened⟩
  · have same := accepted.symm.trans (step.accept yard.queries)
    cases built : build yard.queries items with
    | ok queries =>
      rw [built] at same
      cases same
      exact ⟨items, step⟩
    | error error =>
      rw [built] at same
      cases same
  · rw [Yard.accept, unopened, Yard.close_of_operators] at accepted
    cases settled : Yard.settle waiting yard.queries <;> rw [settled] at accepted <;> cases accepted

theorem Reads.of_feed {yard after : Yard} (fed : yard.feed tokens = .ok after) :
    ∃ items, Reads yard.operators tokens items after.operators := by
  induction tokens generalizing yard with
  | nil =>
    cases fed
    exact ⟨[], .nil _⟩
  | cons token tokens ih =>
    rw [Yard.feed_cons] at fed
    cases accepted : yard.accept token with
    | ok middle =>
      rw [accepted] at fed
      obtain ⟨first, step⟩ := Step.of_accept accepted
      obtain ⟨others, later⟩ := ih fed
      exact ⟨first ++ others, .cons step later⟩
    | error error =>
      rw [accepted] at fed
      cases fed

end Conversion

/-- Whatever tokens are read, the operators that wait are layered, and they stay so at every
point of the draining, which has as many rounds as entries at most. -/
theorem operators_layered {tokens : List Token} {yard : Yard} (fed : Yard.feed {} tokens = .ok yard) :
    Yard.Layered yard.operators ∧
      (∀ later, Round.Reaches Yard.Draining.round yard later → Yard.Layered later.operators) ∧
      ∃ rounds ≤ yard.operators.length,
        Round.Finishes Yard.Draining.round (Yard.drain yard.operators yard.queries) yard rounds := by
  obtain ⟨items, read⟩ := Conversion.Reads.of_feed fed
  have ordered : Yard.Ordered yard.operators := read.ordered .nil
  refine ⟨ordered.layered, ?_, Yard.Draining.computes.finishes yard rfl⟩
  intro later reached
  exact Yard.Ordered.layered (ordered.suffix (Yard.Draining.suffix_of_reaches reached))

theorem operators_layered_unclosed :
    Yard.feed {} [.operator .or, .operator .not, .opening, .literal "a", .operator .and, .literal "b"] =
        .ok { operators := [.operator .and, .opening, .operator .not, .operator .or]
              queries := [.literal "b", .literal "a"] } ∧
      Yard.Layered [.operator .and, .opening, .operator .not, .operator .or] ∧
      Round.Reaches Yard.Draining.round
        { operators := [.operator .and, .opening, .operator .not, .operator .or]
          queries := [.literal "b", .literal "a"] }
        { operators := [.opening, .operator .not, .operator .or]
          queries := [.and (.literal "a") (.literal "b")] } ∧
      Yard.Layered [.opening, .operator .not, .operator .or] := by
  have fed : Yard.feed {} [.operator .or, .operator .not, .opening, .literal "a", .operator .and, .literal "b"] =
      .ok { operators := [.operator .and, .opening, .operator .not, .operator .or]
            queries := [.literal "b", .literal "a"] } := rfl
  have reached : Round.Reaches Yard.Draining.round
      { operators := [.operator .and, .opening, .operator .not, .operator .or]
        queries := [.literal "b", .literal "a"] }
      { operators := [.opening, .operator .not, .operator .or]
        queries := [.and (.literal "a") (.literal "b")] } := .next .start rfl
  obtain ⟨layered, between, _⟩ := operators_layered fed
  exact ⟨fed, layered, reached, between _ reached⟩

end TagQuery
