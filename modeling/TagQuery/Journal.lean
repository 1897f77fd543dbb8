import TagQuery.ParseError

/-! What is noted down while a query is read. Every reading leaves a trace of the complex
literals it masked and of the tokens it found; only a failure is worth more than a trace. -/

namespace TagQuery

inductive Level where
  | trace
  | debug
  deriving DecidableEq

inductive Event where
  | masked (literal placeholder : String)
  | tokenised (input : String) (tokens complexLiterals : Nat)
  | rejected (input : String) (error : ParseError)
  deriving DecidableEq

namespace Event

def level : Event → Level
  | masked .. => .trace
  | tokenised .. => .trace
  | rejected .. => .debug

def message : Event → String
  | masked literal placeholder => s!"masking complex literal '{literal}' as '{placeholder}'"
  | tokenised input tokens complexLiterals =>
    s!"tokenised '{input}' into {tokens} tokens ({complexLiterals} complex literals)"
  | rejected input error => s!"failed to parse tag expression '{input}': {error.message}"

/-- What is written down for an event. -/
def record (event : Event) : Level × String := (event.level, event.message)

end Event

end TagQuery
