import TagQuery.Loop
import TagQuery.Query.Basic

/-! Whether two queries are the same: the same nodes in the same places, with the same
literals. Pairs of subqueries wait to be compared, and the first difference ends the run. -/

namespace TagQuery

namespace Equality

def run : List (Query × Query) → Bool
  | [] => true
  | (.literal first, .literal second) :: pending => if first = second then run pending else false
  | (.and left right, .and left' right') :: pending => run ((left, left') :: (right, right') :: pending)
  | (.or left right, .or left' right') :: pending => run ((left, left') :: (right, right') :: pending)
  | (.not inner, .not inner') :: pending => run ((inner, inner') :: pending)
  | _ :: _ => false
termination_by pending => workload (fun pair => pair.1.size) pending
decreasing_by all_goals (simp only [workload, Query.size]; omega)

/-- One round of the run: the pairs that wait. -/
def round : List (Query × Query) → Round (List (Query × Query)) Bool
  | [] => .last true
  | (.literal first, .literal second) :: pending => if first = second then .next pending else .last false
  | (.and left right, .and left' right') :: pending => .next ((left, left') :: (right, right') :: pending)
  | (.or left right, .or left' right') :: pending => .next ((left, left') :: (right, right') :: pending)
  | (.not inner, .not inner') :: pending => .next ((inner, inner') :: pending)
  | _ :: _ => .last false

theorem computes : Round.Computes round run (workload fun pair => min pair.1.size pair.2.size) where
  next {state later} leads := by
    unfold round at leads
    repeat' split at leads
    all_goals cases leads
    all_goals
      constructor
      · simp [run, *]
      · simp only [workload, Query.size]
        omega
  last {state result} ends := by
    unfold round at ends
    repeat' split at ends
    all_goals cases ends
    all_goals simp [run, *]

theorem run_iff (pending : List (Query × Query)) :
    run pending = true ↔ ∀ pair ∈ pending, pair.1 = pair.2 := by
  induction pending using run.induct with
  | case1 => simp [run]
  | case2 _ _ ih => simp [run, ih]
  | case3 _ _ _ different => simp [run, different]
  | case4 _ _ _ _ _ ih => simp [run, ih, and_assoc]
  | case5 _ _ _ _ _ ih => simp [run, ih, and_assoc]
  | case6 _ _ _ ih => simp [run, ih]
  | case7 pair pending noLiterals noAnds noOrs noNots =>
    have differ : pair.1 ≠ pair.2 := by
      obtain ⟨first, second⟩ := pair
      intro equal
      obtain rfl : first = second := equal
      cases first
      · exact noLiterals _ _ rfl
      · exact noAnds _ _ _ _ rfl
      · exact noOrs _ _ _ _ rfl
      · exact noNots _ _ rfl
    simp [run, differ]

end Equality

def Query.same (first second : Query) : Bool := Equality.run [(first, second)]

theorem Query.same_iff (first second : Query) : first.same second = true ↔ first = second := by
  simp [same, Equality.run_iff]

end TagQuery
