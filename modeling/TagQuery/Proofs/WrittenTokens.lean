import TagQuery.Proofs.DirectLexing

/-! Tokens written down again. What stands on the two sides of a blank is read apart, so
tokens that are read from their own texts are read from these texts in a row, with blanks
between them. The tokens of a text are of this kind, whatever the text is. -/

namespace TagQuery

open Direct

namespace Token

def Legible (token : Token) : Prop := read token.text.toList = [token]

private theorem legible_operator (op : Operator) : (operator op).Legible := by
  unfold Legible
  cases op <;> decide +kernel

private theorem legible_opening : opening.Legible := by
  unfold Legible
  decide +kernel

private theorem legible_closing : closing.Legible := by
  unfold Legible
  decide +kernel

theorem legible_of_literals {tokens : List Token} (alone : ∀ value, literal value ∈ tokens → SelfContained value) :
    ∀ token ∈ tokens, token.Legible := by
  intro token member
  cases token with
  | operator op => exact legible_operator op
  | opening => exact legible_opening
  | closing => exact legible_closing
  | literal value => exact (alone value member).read

theorem joined_singleton (token : Token) : joined [token] = token.text := String.intercalate_singleton

theorem joined_cons (token : Token) {tokens : List Token} (some : tokens ≠ []) :
    joined (token :: tokens) = token.text ++ " " ++ joined tokens :=
  String.intercalate_cons_of_ne_nil (by simpa using some)

theorem joined_append {first second : List Token} (some : first ≠ []) (some' : second ≠ []) :
    joined (first ++ second) = joined first ++ " " ++ joined second := by
  rw [joined, List.map_append]
  exact String.intercalate_append_of_ne_nil (by simpa using some) (by simpa using some')

/-- Legible tokens are read in a row as they are read one by one. -/
theorem read_joined {tokens : List Token} (legible : ∀ token ∈ tokens, token.Legible) :
    read (joined tokens).toList = tokens := by
  induction tokens with
  | nil => exact read_nil
  | cons token tokens ih =>
    have first : read token.text.toList = [token] := legible token List.mem_cons_self
    cases tokens with
    | nil => rw [joined_singleton, first]
    | cons second others =>
      have rest := ih fun other member => legible other (List.mem_cons_of_mem _ member)
      have spelled : (joined (token :: second :: others)).toList =
          token.text.toList ++ ' ' :: (joined (second :: others)).toList := by
        simp [joined_cons]
      rw [spelled, read_append_blank _ _ (by decide), first, rest, List.singleton_append]

end Token

/-- Reading commutes with putting a blank between two texts, although each of the three
readings has a marker and numbers of its own. -/
theorem tokenize_append_blank (before after : String) {blank : Char} (separates : Text.isBlank blank) :
    tokenize (before ++ String.singleton blank ++ after) = tokenize before ++ tokenize after := by
  have spelled : (before ++ String.singleton blank ++ after).toList = before.toList ++ blank :: after.toList := by simp
  rw [tokenize_eq_read, tokenize_eq_read, tokenize_eq_read, spelled, read_append_blank _ _ separates]

theorem tokenize_append_blank_renumbered :
    Text.isBlank '\u2003' ∧
      tokenize ("c(d) or a(b" ++ String.singleton '\u2003' ++ "a(b) __tagexpr0_0__ not c(d)") =
        tokenize "c(d) or a(b" ++ tokenize "a(b) __tagexpr0_0__ not c(d)" := by
  have separates : Text.isBlank '\u2003' := by decide
  exact ⟨separates, tokenize_append_blank _ _ separates⟩

/-- The tokens of any text, an accepted one or not, are read again from their texts in a
row, and each literal among them is read from its text alone. -/
theorem tokenize_joined (input : String) :
    tokenize (Token.joined (tokenize input)) = tokenize input ∧
      ∀ value, Token.literal value ∈ tokenize input → tokenize value = [.literal value] := by
  simp only [tokenize_eq_read]
  have alone (value : String) : Token.literal value ∈ read input.toList → SelfContained value := selfContained_of_mem_read
  constructor
  · exact Token.read_joined (Token.legible_of_literals alone)
  · intro value member
    exact (alone value member).read

theorem tokenize_joined_glued :
    tokenize (Token.joined (tokenize "x-a(b)c(d)_0)(and(e) __tagexpr0_0__)not")) =
        tokenize "x-a(b)c(d)_0)(and(e) __tagexpr0_0__)not" ∧
      Token.literal "x-a(b)c(d)_0" ∈ tokenize "x-a(b)c(d)_0)(and(e) __tagexpr0_0__)not" ∧
      tokenize "x-a(b)c(d)_0" = [.literal "x-a(b)c(d)_0"] := by
  have member : Token.literal "x-a(b)c(d)_0" ∈ tokenize "x-a(b)c(d)_0)(and(e) __tagexpr0_0__)not" := by
    decide +kernel
  have again := tokenize_joined "x-a(b)c(d)_0)(and(e) __tagexpr0_0__)not"
  exact ⟨again.1, member, again.2 _ member⟩

end TagQuery
