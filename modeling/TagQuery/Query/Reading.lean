import TagQuery.Query.Evaluation
import TagQuery.Token.Lexing
import TagQuery.Yard

/-! Reading a query from text, with a journal of how it went. -/

namespace TagQuery

structure Reading where
  outcome : Except ParseError Query
  events : List Event

namespace Reading

def rejected (input : String) (error : ParseError) : Reading :=
  { outcome := .error error, events := [.rejected input error] }

/-- Feeds the tokens to the yard. The first failure ends the reading. -/
def ofTokens (input : String) (yard : Yard) : List Token → Reading
  | [] =>
    match yard.result with
    | .ok query => { outcome := .ok query, events := [] }
    | .error error => rejected input error
  | token :: later =>
    match yard.accept token with
    | .ok yard => ofTokens input yard later
    | .error error => rejected input error

def ofString (input : String) : Reading :=
  let lexing := Lexing.ofString input
  let reading := ofTokens input {} lexing.tokens
  { reading with events := lexing.events input ++ reading.events }

end Reading

namespace Query

def parse (input : String) : Except ParseError Query := (Reading.ofString input).outcome

end Query

/-- Fails exactly when `input` is not a query. -/
def evaluate (input : String) (tags : List String) : Except ParseError Bool :=
  (Query.parse input).map (Query.evaluate tags)

end TagQuery
