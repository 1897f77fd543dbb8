import TagQuery.Loop
import TagQuery.Query.Basic

/-! A fresh copy of a query, put together from the leaves upwards on a stack. An operator's
turn comes when its operands have been copied, so they lie on top of the stack then. -/

namespace TagQuery

namespace Copying

inductive Step where
  | visit (query : Query)
  | combine (op : Operator)

def Step.weight : Step → Nat
  | visit query => 2 * query.size
  | combine _ => 1

/-- Runs the steps on the stack of the queries copied so far. There is no result if an
operator finds too few operands. -/
def run (copied : List Query) : List Step → Option (List Query)
  | [] => some copied
  | .visit (.literal value) :: work => run (.literal value :: copied) work
  | .visit (.and left right) :: work => run copied (.visit left :: .visit right :: .combine .and :: work)
  | .visit (.or left right) :: work => run copied (.visit left :: .visit right :: .combine .or :: work)
  | .visit (.not inner) :: work => run copied (.visit inner :: .combine .not :: work)
  | .combine op :: work => do run (← op.combine? copied) work
termination_by work => workload Step.weight work
decreasing_by all_goals (simp only [workload, Step.weight, Query.size]; omega)

/-- One round of the run: what was copied, and what is left to do. -/
def round : List Query × List Step → Round (List Query × List Step) (Option (List Query))
  | (copied, []) => .last (some copied)
  | (copied, .visit (.literal value) :: work) => .next (.literal value :: copied, work)
  | (copied, .visit (.and left right) :: work) => .next (copied, .visit left :: .visit right :: .combine .and :: work)
  | (copied, .visit (.or left right) :: work) => .next (copied, .visit left :: .visit right :: .combine .or :: work)
  | (copied, .visit (.not inner) :: work) => .next (copied, .visit inner :: .combine .not :: work)
  | (copied, .combine op :: work) =>
    match op.combine? copied with
    | some combined => .next (combined, work)
    | none => .last none

theorem computes : Round.Computes round (fun state => run state.1 state.2) (fun state => workload Step.weight state.2) where
  next {state later} leads := by
    unfold round at leads
    repeat' split at leads
    all_goals cases leads
    all_goals
      constructor
      · simp [run, *]
      · simp only [workload, Step.weight, Query.size]
        omega
  last {state result} ends := by
    unfold round at ends
    repeat' split at ends
    all_goals cases ends
    all_goals simp [run, *]

theorem run_visit (query : Query) (copied : List Query) (work : List Step) :
    run copied (.visit query :: work) = run (query :: copied) work := by
  induction query generalizing copied work with
  | literal value => rw [run]
  | and left right ihLeft ihRight => rw [run, ihLeft, ihRight, run]; rfl
  | or left right ihLeft ihRight => rw [run, ihLeft, ihRight, run]; rfl
  | not inner ih => rw [run, ih, run]; rfl

theorem run_root (query : Query) : run [] [.visit query] = some [query] := by
  rw [run_visit, run]

end Copying

/-- The copy is all that is left on the stack. -/
def Query.copy (query : Query) : Query :=
  ((Copying.run [] [.visit query]).get (by simp [Copying.run_root])).head (by simp [Copying.run_root])

end TagQuery
