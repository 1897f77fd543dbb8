import TagQuery.Query.Copy
import TagQuery.Query.Equality
import TagQuery.Query.Literals
import TagQuery.Query.Postorder
import TagQuery.Query.Reading
import TagQuery.Query.Rendering

/-! A stack of queries to work on. Commands put queries on it, combine them and ask about
those on top. A command that cannot be carried out changes nothing. -/

namespace TagQuery

inductive Command where
  | literal (value : String)
  | parse (input : String)
  | combine (op : Operator)
  /-- Wraps the top in as many negations. -/
  | negate (times : Nat)
  | duplicate
  | swap
  | drop
  | reparse
  | evaluate (tags : List String)
  | holdsIn (tags : List String)
  | same
  | inspect
  | inspectLines
  | literals
  | postorder

inductive Reply where
  /-- The stack as a command left it: its size and the text of its top. -/
  | stack (size : Nat) (top : Option String)
  | rejected (error : ParseError)
  /-- There are too few queries for the command. -/
  | underflow
  | truth (value : Bool)
  | text (value : String)
  | texts (values : List String)
  | items (values : List Item)

/-- The top comes first. -/
abbrev Workbench := List Query

/-- The command could not be carried out. -/
def Reply.Failed : Reply → Prop
  | rejected _ => True
  | underflow => True
  | _ => False

namespace Workbench

def changed (workbench : Workbench) : Reply × Workbench :=
  (.stack workbench.length (workbench.head?.map Query.render), workbench)

/-- Reads a query and puts it on top. -/
def push (input : String) (workbench : Workbench) : Reply × Workbench :=
  match Query.parse input with
  | .ok query => changed (query :: workbench)
  | .error error => (.rejected error, workbench)

def perform (workbench : Workbench) : Command → Reply × Workbench
  | .literal value => changed (.literal value :: workbench)
  | .parse input => workbench.push input
  | .combine op =>
    match op.combine? workbench with
    | some combined => changed combined
    | none => (.underflow, workbench)
  | .negate times =>
    match workbench with
    | top :: others => changed (Nat.repeat Query.not times top :: others)
    | [] => (.underflow, workbench)
  | .duplicate =>
    match workbench with
    | top :: others => changed (top.copy :: top :: others)
    | [] => (.underflow, workbench)
  | .swap =>
    match workbench with
    | top :: second :: others => changed (second :: top :: others)
    | _ => (.underflow, workbench)
  | .drop =>
    match workbench with
    | _ :: others => changed others
    | [] => (.underflow, workbench)
  | .reparse =>
    match workbench with
    | top :: _ => workbench.push top.render
    | [] => (.underflow, workbench)
  | .same =>
    match workbench with
    | top :: second :: _ => (.truth (second.same top), workbench)
    | _ => (.underflow, workbench)
  | .evaluate tags => ask fun top => .truth (top.evaluate tags)
  | .holdsIn tags => ask fun top => .truth (top.holdsIn (.ofList tags))
  | .inspect => ask fun top => .text top.inspect
  | .inspectLines => ask fun top => .text top.inspectLines
  | .literals => ask fun top => .texts top.literals
  | .postorder => ask fun top => .items top.postorder
where
  /-- Asks about the top. -/
  ask (question : Query → Reply) : Reply × Workbench :=
    match workbench with
    | top :: _ => (question top, workbench)
    | [] => (.underflow, workbench)

theorem push_cases (input : String) (workbench : Workbench) :
    workbench.push input = changed (workbench.push input).2 ∨ (workbench.push input).2 = workbench := by
  unfold push
  cases Query.parse input with
  | ok query => exact .inl rfl
  | error error => exact .inr rfl

theorem perform_ask (workbench : Workbench) (question : Query → Reply) :
    (perform.ask workbench question).2 = workbench := by
  cases workbench <;> rfl

/-- A command is answered by what it has made of the workbench, or it has left it as it was. -/
theorem perform_cases (workbench : Workbench) (command : Command) :
    workbench.perform command = changed (workbench.perform command).2 ∨ (workbench.perform command).2 = workbench := by
  cases command with
  | literal value => exact .inl rfl
  | parse input => exact push_cases input workbench
  | combine op =>
    simp only [perform]
    split
    next => exact .inl rfl
    next => exact .inr rfl
  | negate times | duplicate | drop =>
    cases workbench with
    | nil => exact .inr rfl
    | cons top others => exact .inl rfl
  | swap =>
    match workbench with
    | [] | [_] => exact .inr rfl
    | top :: second :: others => exact .inl rfl
  | reparse =>
    cases workbench with
    | nil => exact .inr rfl
    | cons top others => exact push_cases top.render (top :: others)
  | same =>
    match workbench with
    | [] | [_] => exact .inr rfl
    | top :: second :: others => exact .inr rfl
  | evaluate | holdsIn | inspect | inspectLines | literals | postorder => exact .inr (perform_ask workbench _)

theorem perform_of_failed {workbench : Workbench} {command : Command} (failed : (workbench.perform command).1.Failed) :
    (workbench.perform command).2 = workbench := by
  cases perform_cases workbench command with
  | inl done =>
    rw [done] at failed
    cases failed
  | inr kept => exact kept

/-- The replies to the commands, which are performed one after the other. -/
def replies (workbench : Workbench) : List Command → List Reply
  | [] => []
  | command :: later =>
    match workbench.perform command with
    | (reply, next) => reply :: replies next later

/-- After a failed command all goes on as if it had not been given. -/
theorem replies_of_failed {workbench : Workbench} {command : Command} (failed : (workbench.perform command).1.Failed)
    (later : List Command) :
    workbench.replies (command :: later) = (workbench.perform command).1 :: workbench.replies later := by
  change (workbench.perform command).1 :: (workbench.perform command).2.replies later = _
  rw [perform_of_failed failed]

end Workbench

end TagQuery
