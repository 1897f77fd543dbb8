import TagQuery.Text.Basic
import TagQuery.Text.CodeRange

/-! The characters that separate words: those with the White_Space property. Separators
that merely look or act like blanks, such as the zero-width space, are not among them. -/

namespace TagQuery.Text

def blankRanges : List CodeRange :=
  [⟨0x9, 0xD⟩, ⟨0x20, 0x20⟩, ⟨0x85, 0x85⟩, ⟨0xA0, 0xA0⟩, ⟨0x1680, 0x1680⟩, ⟨0x2000, 0x200A⟩, ⟨0x2028, 0x2029⟩,
    ⟨0x202F, 0x202F⟩, ⟨0x205F, 0x205F⟩, ⟨0x3000, 0x3000⟩]

def isBlank (char : Char) : Bool := CodeRange.cover char.toNat blankRanges

theorem isBlank_iff (char : Char) :
    isBlank char = true ↔ ∃ range ∈ blankRanges, range.first ≤ char.toNat ∧ char.toNat ≤ range.last :=
  CodeRange.cover_iff (show CodeRange.ascend 0 blankRanges = true by decide)

/-- The stretches between blanks. None of them is empty. -/
def words (text : Text) : List Text := (text.splitOnP isBlank).filter fun word => !word.isEmpty

@[simp] theorem words_nil : words [] = [] := by simp [words]

theorem words_append_blank (before after : Text) {char : Char} (blank : isBlank char) :
    words (before ++ char :: after) = words before ++ words after := by
  simp [words, List.splitOnP_append_cons before after blank]

theorem words_of_unbroken {text : Text} (some : text ≠ []) (unbroken : ∀ char ∈ text, ¬ isBlank char) :
    words text = [text] := by
  rw [words, List.splitOnP_eq_singleton fun char member => by simpa using unbroken char member]
  simp [some]

end TagQuery.Text
