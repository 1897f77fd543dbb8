import TagQuery.Loop
import TagQuery.Text.Occurrence

/-! Markers, the part of a placeholder by which it is told from the text around it. The
marker for a text is `tagexpr` and a number, its salt: the least salt whose marker does
not occur in that text. -/

namespace TagQuery.Placeholder

/-- Decimal, without leading zeros. -/
def numeral (number : Nat) : Text := Nat.toDigits 10 number

def marker (salt : Nat) : Text := "tagexpr".toList ++ numeral salt

/-- Salts up to the length of the text are enough to try: markers of different salts occur
in it at different places. -/
def freeSalt? (text : Text) : Option Nat :=
  (List.range (text.length + 1)).find? fun salt => !(marker salt).occursIn text

/-- One round of the search salt by salt, with a counter that stays below `limit` or, without
one, goes on for ever. The counter moves on before the salt it stood at is tried; if it cannot,
the search is over without a result. -/
def Search.round (limit : Option Nat) (text : Text) (salt : Nat) : Round Nat (Option Nat) :=
  if limit = some (salt + 1) then .last none
  else if (marker salt).occursIn text then .next (salt + 1)
  else .last (some salt)

end TagQuery.Placeholder
