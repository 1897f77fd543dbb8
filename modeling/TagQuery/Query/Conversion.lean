import TagQuery.Query.Postorder
import TagQuery.Token.Lexing
import TagQuery.Yard

/-! Reading tokens in two passes. The first one has a stack of operators only, and writes
out literals and operators in postorder; it comes to a halt where parentheses do not
match. The second one builds queries from what was written. -/

namespace TagQuery

structure Conversion where
  items : List Item
  halted : Option ParseError

namespace Conversion

def prepend (items : List Item) (conversion : Conversion) : Conversion :=
  { conversion with items := items ++ conversion.items }

/-- The operators on top of the stack that precede `next`, and the stack below them. -/
def preceding (next : Operator) : List Yard.Entry → List Item × List Yard.Entry
  | .operator waiting :: operators =>
    if waiting.precedes next then
      match preceding next operators with
      | (items, below) => (.operator waiting :: items, below)
    else ([], .operator waiting :: operators)
  | operators => ([], operators)

/-- The operators of the innermost group, and the stack below its opening parenthesis, if
there is one. -/
def group : List Yard.Entry → List Item × Option (List Yard.Entry)
  | [] => ([], none)
  | .opening :: operators => ([], some operators)
  | .operator waiting :: operators =>
    match group operators with
    | (items, below) => (.operator waiting :: items, below)

def drain : List Yard.Entry → Conversion
  | [] => { items := [], halted := none }
  | .opening :: _ => { items := [], halted := some .unmatchedOpening }
  | .operator waiting :: operators => (drain operators).prepend [.operator waiting]

def ofTokens (operators : List Yard.Entry) : List Token → Conversion
  | [] => drain operators
  | .literal value :: later => (ofTokens operators later).prepend [.literal value]
  | .opening :: later => ofTokens (.opening :: operators) later
  | .operator next :: later =>
    match preceding next operators with
    | (items, below) => (ofTokens (.operator next :: below) later).prepend items
  | .closing :: later =>
    match group operators with
    | (items, some below) => (ofTokens below later).prepend items
    | (items, none) => { items, halted := some .unmatchedClosing }

def ofString (input : String) : Conversion := ofTokens [] (tokenize input)

/-- Builds queries on a stack. An operator without its operands ends the run. -/
def build (stack : List Query) : List Item → Except ParseError (List Query)
  | [] => .ok stack
  | .literal value :: later => build (.literal value :: stack) later
  | .operator op :: later =>
    match op.combine? stack with
    | some combined => build combined later
    | none => .error (.missingOperand op)

/-- An operator without operands was written before the halt, so it comes first. -/
def outcome (conversion : Conversion) : Except ParseError Query :=
  match build [] conversion.items, conversion.halted with
  | .error error, _ => .error error
  | .ok _, some error => .error error
  | .ok [], none => .error .empty
  | .ok [query], none => .ok query
  | .ok _, none => .error .unconnected

end Conversion

end TagQuery
