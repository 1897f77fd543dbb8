import TagQuery.Proofs.ComplexSpans
import TagQuery.Proofs.DirectLexing
import TagQuery.Proofs.YardRuns

/-! Blanks around parentheses. A text may be cut where its two parts have, read apart, the
tokens of the whole; at such a seam blanks make no difference. There is a seam on either
side of a parenthesis that belongs to no complex literal. -/

namespace TagQuery

namespace Direct

/-- The parts are read apart, even without a blank between them. -/
def Seam (before after : Text) : Prop := read (before ++ after) = read before ++ read after

private theorem read_blanks_append {blanks : Text} (separate : ∀ char ∈ blanks, Text.isBlank char) (after : Text) :
    read (blanks ++ after) = read after := by
  induction blanks with
  | nil => rfl
  | cons blank blanks ih =>
    have first := read_append_blank [] (blanks ++ after) (separate blank List.mem_cons_self)
    rw [read_nil, List.nil_append, List.nil_append] at first
    rw [List.cons_append, first]
    exact ih fun char member => separate char (List.mem_cons_of_mem _ member)

private theorem Seam.read_blanks {before after blanks : Text} (seam : Seam before after)
    (separate : ∀ char ∈ blanks, Text.isBlank char) : read (before ++ (blanks ++ after)) = read (before ++ after) := by
  cases blanks with
  | nil => rfl
  | cons blank blanks =>
    have others : ∀ char ∈ blanks, Text.isBlank char := fun char member => separate char (List.mem_cons_of_mem _ member)
    rw [List.cons_append, read_append_blank before _ (separate blank List.mem_cons_self), read_blanks_append others, seam]

variable {before after : Text} {char : Char} {tokens : List Token}

private theorem seam_before (ends : ending? char = some tokens)
    (outside : ¬ Segment.InComplex (before ++ char :: after) before.length) : Seam before (char :: after) := by
  obtain ⟨whole, _, behind⟩ := Atom.ofText_of_outside outside
  rw [Seam, read, read, read, whole, behind, scan_append_ending ends, scan_ending ends, close, List.nil_append,
    List.append_assoc]

private theorem seam_behind (ends : ending? char = some tokens)
    (outside : ¬ Segment.InComplex (before ++ char :: after) before.length) : Seam (before ++ [char]) after := by
  obtain ⟨whole, front, _⟩ := Atom.ofText_of_outside outside
  have split : before ++ [char] ++ after = before ++ char :: after := by simp
  rw [Seam, split, read, read, read, whole, front, scan_append_ending ends, scan_append_ending ends, scan, close,
    List.append_nil]

private theorem exists_ending {parenthesis : Char} (either : parenthesis = '(' ∨ parenthesis = ')') :
    ∃ tokens, ending? parenthesis = some tokens := by
  cases either with
  | inl opening => exact ⟨[.opening], opening ▸ rfl⟩
  | inr closing => exact ⟨[.closing], closing ▸ rfl⟩

end Direct

/-- Blanks on either side of a parenthesis outside the complex literals change neither the
tokens nor what is made of them. -/
theorem tokenize_spaced_parenthesis (before after blanks : String) {parenthesis : Char}
    (either : parenthesis = '(' ∨ parenthesis = ')')
    (outside : ¬ Segment.InComplex (before.toList ++ parenthesis :: after.toList) before.toList.length)
    (separate : ∀ char ∈ blanks.toList, Text.isBlank char) :
    ∀ spaced ∈ [before ++ blanks ++ String.singleton parenthesis ++ after,
        before ++ String.singleton parenthesis ++ blanks ++ after],
      tokenize spaced = tokenize (before ++ String.singleton parenthesis ++ after) ∧
        Query.parse spaced = Query.parse (before ++ String.singleton parenthesis ++ after) := by
  obtain ⟨tokens, ends⟩ := Direct.exists_ending either
  intro spaced member
  have unchanged : tokenize spaced = tokenize (before ++ String.singleton parenthesis ++ after) := by
    rw [tokenize_eq_read, tokenize_eq_read]
    rcases List.mem_pair.mp member with rfl | rfl
    · simpa using (Direct.seam_before ends outside).read_blanks separate
    · simpa using (Direct.seam_behind ends outside).read_blanks separate
  refine ⟨unchanged, ?_⟩
  rw [Query.parse_eq_feed, Query.parse_eq_feed, unchanged]

/-- Here `not` stands before a complex literal in parentheses; a blank between `a` and its own
parenthesis would make a group of the argument. -/
theorem tokenize_spaced_parenthesis_nested :
    ¬ Segment.InComplex ("not".toList ++ '(' :: "a(b))or (c)".toList) "not".toList.length ∧
      (∀ char ∈ "\u2003\t".toList, Text.isBlank char) ∧
      ∀ spaced ∈ ["not" ++ "\u2003\t" ++ String.singleton '(' ++ "a(b))or (c)",
          "not" ++ String.singleton '(' ++ "\u2003\t" ++ "a(b))or (c)"],
        tokenize spaced = tokenize ("not" ++ String.singleton '(' ++ "a(b))or (c)") ∧
          Query.parse spaced = Query.parse ("not" ++ String.singleton '(' ++ "a(b))or (c)") := by
  have outside : ¬ Segment.InComplex ("not".toList ++ '(' :: "a(b))or (c)".toList) "not".toList.length := by
    decide +kernel
  have separate : ∀ char ∈ "\u2003\t".toList, Text.isBlank char := List.all_eq_true.mp (by decide)
  exact ⟨outside, separate, tokenize_spaced_parenthesis "not" "a(b))or (c)" "\u2003\t" (.inl rfl) outside separate⟩

end TagQuery
