import TagQuery.Loop
import TagQuery.Query.Basic
import TagQuery.Text.Basic

/-! The canonical text of a query. Every operator is written with parentheses around what
belongs to it, so no reader needs to know how tightly the operators bind. -/

namespace TagQuery

namespace Rendering

inductive Step where
  | visit (query : Query)
  | write (text : String)

def Step.weight : Step → Nat
  | visit query => 4 * query.size
  | write _ => 1

/-- Writes behind `written` what the steps say. -/
def run (written : String) : List Step → String
  | [] => written
  | .write text :: work => run (written ++ text) work
  | .visit (.literal value) :: work => run (written ++ value) work
  | .visit (.and left right) :: work =>
    run (written ++ "( ") (.visit left :: .write " and " :: .visit right :: .write " )" :: work)
  | .visit (.or left right) :: work =>
    run (written ++ "( ") (.visit left :: .write " or " :: .visit right :: .write " )" :: work)
  | .visit (.not inner) :: work => run (written ++ "not ( ") (.visit inner :: .write " )" :: work)
termination_by work => workload Step.weight work
decreasing_by all_goals (simp only [workload, Step.weight, Query.size]; omega)

/-- One round of the run: what was written, and what is left to do. -/
def round : String × List Step → Round (String × List Step) String
  | (written, []) => .last written
  | (written, .write text :: work) => .next (written ++ text, work)
  | (written, .visit (.literal value) :: work) => .next (written ++ value, work)
  | (written, .visit (.and left right) :: work) =>
    .next (written ++ "( ", .visit left :: .write " and " :: .visit right :: .write " )" :: work)
  | (written, .visit (.or left right) :: work) =>
    .next (written ++ "( ", .visit left :: .write " or " :: .visit right :: .write " )" :: work)
  | (written, .visit (.not inner) :: work) => .next (written ++ "not ( ", .visit inner :: .write " )" :: work)

theorem computes : Round.Computes round (fun state => run state.1 state.2) (fun state => workload Step.weight state.2) where
  next {state later} leads := by
    unfold round at leads
    split at leads <;> cases leads
    all_goals
      constructor
      · rw [run]
      · simp only [workload, Step.weight, Query.size]
        omega
  last {state result} ends := by
    unfold round at ends
    split at ends <;> cases ends
    rw [run]

end Rendering

namespace Query

/-- The canonical text, by recursion. -/
def canonical : Query → String
  | literal value => value
  | and left right => "( " ++ left.canonical ++ " and " ++ right.canonical ++ " )"
  | or left right => "( " ++ left.canonical ++ " or " ++ right.canonical ++ " )"
  | not inner => "not ( " ++ inner.canonical ++ " )"

def render (query : Query) : String := Rendering.run "" [.visit query]

/-- The canonical text as a value is shown to people. -/
def inspect (query : Query) : String := "Expression(" ++ query.render ++ ")"

/-- As `inspect`, with the content on lines of its own: each of them is indented, empty
ones too, and the last one ends in a comma. -/
def inspectLines (query : Query) : String :=
  let lines := (query.render ++ ",").toList.splitOn '\n'
  String.ofList ("Expression(\n".toList ++ lines.flatMap (fun line => "    ".toList ++ line ++ ['\n']) ++ [')'])

end Query

theorem Rendering.run_visit (query : Query) (written : String) (work : List Step) :
    run written (.visit query :: work) = run (written ++ query.canonical) work := by
  induction query generalizing written work with
  | literal value => rw [run]; rfl
  | and left right ihLeft ihRight => simp [run, ihLeft, ihRight, Query.canonical, String.append_assoc]
  | or left right ihLeft ihRight => simp [run, ihLeft, ihRight, Query.canonical, String.append_assoc]
  | not inner ih => simp [run, ih, Query.canonical, String.append_assoc]

theorem Query.render_eq_canonical (query : Query) : query.render = query.canonical := by
  rw [render, Rendering.run_visit, Rendering.run, String.empty_append]

end TagQuery
