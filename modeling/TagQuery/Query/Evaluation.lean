import TagQuery.Loop
import TagQuery.Query.Basic
import Std.Data.HashSet

/-! Whether a query holds of a set of tags. The run keeps the value found last and a list
of what is left to do; the right operand of `and` and `or` is only visited if the left
one has not decided the matter. The literals it asks for are kept in order. -/

namespace TagQuery

structure Evaluation where
  value : Bool
  tested : List String
  deriving DecidableEq

namespace Evaluation

inductive Step where
  | visit (query : Query)
  | ifTrue (right : Query)
  | ifFalse (right : Query)
  | negate

/-- Every step is taken once, and so is every step that it leaves behind. -/
def Step.weight : Step → Nat
  | visit query => 2 * query.size
  | ifTrue right => 2 * right.size + 1
  | ifFalse right => 2 * right.size + 1
  | negate => 1

/-- Runs the steps. `value` is what was found last, and `tested` are the literals asked for
so far, the last one first. -/
def run (member : String → Bool) (value : Bool) (tested : List String) : List Step → Evaluation
  | [] => { value, tested := tested.reverse }
  | .visit (.literal name) :: work => run member (member name) (name :: tested) work
  | .visit (.and left right) :: work => run member value tested (.visit left :: .ifTrue right :: work)
  | .visit (.or left right) :: work => run member value tested (.visit left :: .ifFalse right :: work)
  | .visit (.not inner) :: work => run member value tested (.visit inner :: .negate :: work)
  | .ifTrue right :: work =>
    if value then run member value tested (.visit right :: work) else run member value tested work
  | .ifFalse right :: work =>
    if value then run member value tested work else run member value tested (.visit right :: work)
  | .negate :: work => run member (!value) tested work
termination_by work => workload Step.weight work
decreasing_by all_goals (simp only [workload, Step.weight, Query.size]; omega)

/-- One round of the run: the value found last, the literals asked for, and what is left to do. -/
def round (member : String → Bool) : Bool × List String × List Step → Round (Bool × List String × List Step) Evaluation
  | (value, tested, []) => .last { value, tested := tested.reverse }
  | (_, tested, .visit (.literal name) :: work) => .next (member name, name :: tested, work)
  | (value, tested, .visit (.and left right) :: work) => .next (value, tested, .visit left :: .ifTrue right :: work)
  | (value, tested, .visit (.or left right) :: work) => .next (value, tested, .visit left :: .ifFalse right :: work)
  | (value, tested, .visit (.not inner) :: work) => .next (value, tested, .visit inner :: .negate :: work)
  | (value, tested, .ifTrue right :: work) =>
    if value then .next (value, tested, .visit right :: work) else .next (value, tested, work)
  | (value, tested, .ifFalse right :: work) =>
    if value then .next (value, tested, work) else .next (value, tested, .visit right :: work)
  | (value, tested, .negate :: work) => .next (!value, tested, work)

theorem computes (member : String → Bool) :
    Round.Computes (round member) (fun state => run member state.1 state.2.1 state.2.2)
      (fun state => workload Step.weight state.2.2) where
  next {state later} leads := by
    unfold round at leads
    repeat' split at leads
    all_goals cases leads
    all_goals
      constructor
      · simp [run, *]
      · simp only [workload, Step.weight, Query.size]
        omega
  last {state result} ends := by
    unfold round at ends
    repeat' split at ends
    all_goals cases ends
    rw [run]

end Evaluation

namespace Query

def evaluation (member : String → Bool) (query : Query) : Evaluation :=
  Evaluation.run member false [] [.visit query]

def holdsIn (tags : Std.HashSet String) (query : Query) : Bool := (query.evaluation tags.contains).value

/-- Order and repetition of the tags mean nothing. -/
def evaluate (tags : List String) (query : Query) : Bool := query.holdsIn (.ofList tags)

end Query

end TagQuery
