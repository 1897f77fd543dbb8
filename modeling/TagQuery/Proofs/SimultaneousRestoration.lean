import TagQuery.Proofs.DirectLexing
import TagQuery.Proofs.Unmasking

/-! Restoring puts all literals back at once. A text is made of the atoms that it is read as without
its placeholders; if their literals make no marker, the order of the replacements does not matter.
All words of a masked text are such texts, since they are made of atoms of the text that was masked. -/

namespace TagQuery

namespace Lexing

variable {table : Placeholder.Table} {word later : List Atom} {piece : Text}

private theorem mem_words_append_ending {char : Char} {tokens : List Token} (ends : Direct.ending? char = some tokens)
    {before after : Text} (member : piece ∈ Text.words (before ++ (Text.spaced [char] ++ after))) :
    piece ∈ Text.words before ∨ piece = [char] ∨ piece ∈ Text.words after := by
  by_cases parenthesis : char = '(' ∨ char = ')'
  · rw [Text.words_append_spaced parenthesis] at member
    simpa using member
  · rw [not_or] at parenthesis
    have blank : Text.isBlank char := by
      by_contra noBlank
      cases ends.symm.trans ((Direct.ending?_eq_none_iff char).mpr ⟨parenthesis.1, parenthesis.2, noBlank⟩)
    have plain : Text.spaced [char] = [char] := Text.spaced_of_plain (by simpa using parenthesis)
    rw [plain, List.singleton_append, Text.words_append_blank _ _ blank] at member
    rcases List.mem_append.mp member with here | onward
    · exact .inl here
    · exact .inr (.inr onward)

private theorem eq_of_mem_words (hidden : Hidden table word) (unbroken : Direct.Unbroken word)
    (member : piece ∈ Text.words (word.flatMap table.mask)) : piece = word.flatMap table.mask := by
  have plain (char : Char) (inside : char ∈ word.flatMap table.mask) :=
    ((Direct.ending?_eq_none_iff char).mp (mask_unbroken hidden unbroken char inside)).2.2
  by_cases empty : word.flatMap table.mask = []
  · rw [empty] at member
    simp [Text.words] at member
  · rw [Text.words_of_unbroken empty plain] at member
    exact List.mem_singleton.mp member

/-- The words of a masked text are made of its atoms. -/
theorem exists_part_of_mem_words (hidden : Hidden table (word ++ later)) (unbroken : Direct.Unbroken word)
    (member : piece ∈ Text.words (word.flatMap table.mask ++ Text.spaced (later.flatMap table.mask))) :
    ∃ part, part <:+: word ++ later ∧ piece = part.flatMap table.mask := by
  induction later generalizing word with
  | nil =>
    rw [List.append_nil] at hidden
    refine ⟨word, (List.prefix_append ..).isInfix, eq_of_mem_words hidden unbroken ?_⟩
    simpa [Text.spaced] using member
  | cons atom later ih =>
    have joined (unbroken : Direct.Unbroken (word ++ [atom]))
        (member : piece ∈ Text.words (word.flatMap table.mask ++ (table.mask atom ++ Text.spaced (later.flatMap table.mask)))) :
        ∃ part, part <:+: word ++ atom :: later ∧ piece = part.flatMap table.mask := by
      have onward := @ih (word ++ [atom]) (by simpa using hidden) unbroken (by simpa using member)
      simpa using onward
    rw [List.flatMap_cons, Text.spaced_append] at member
    cases atom with
    | complex literal =>
      obtain ⟨salt, number, same⟩ := hidden.form (List.mem_append_right word List.mem_cons_self)
      have plain : Text.spaced (table.mask (.complex literal)) = table.mask (.complex literal) :=
        spaced_of_unbroken fun char inside => ending?_of_isWord (Placeholder.isWord_of_mem_form (same ▸ inside))
      rw [plain] at member
      exact joined (unbroken.concat_complex literal) member
    | char value =>
      rw [show table.mask (.char value) = [value] from rfl] at member
      cases ends : Direct.ending? value with
      | none =>
        have plain : Text.spaced [value] = [value] := spaced_of_unbroken (by simp [ends])
        rw [plain] at member
        exact joined (unbroken.concat_char ends) member
      | some tokens =>
        have inside : later <:+: word ++ .char value :: later := ⟨word ++ [.char value], [], by simp⟩
        rcases mem_words_append_ending ends member with before | rfl | behind
        · exact ⟨word, (List.prefix_append ..).isInfix,
            eq_of_mem_words (hidden.subset (List.subset_append_left _ _)) unbroken before⟩
        · exact ⟨[.char value], ⟨word, later, by simp⟩, rfl⟩
        · obtain ⟨part, within, same⟩ := @ih [] (hidden.subset inside.subset) Direct.unbroken_nil behind
          exact ⟨part, within.trans inside, same⟩

end Lexing

/-- Restoring puts all literals back at once: where the placeholders in a word are apart and the
literals in their places make no marker, neither the order of the entries nor the early ends change
the result. All words of the masked text are like that. -/
theorem restoring_is_simultaneous (text : Text) :
    (∀ word, (Masking.ofText text).table.Separated word →
      (∀ result, (Masking.ofText text).table.Replaced word result ↔
        result = (Masking.ofText text).table.substitute word) ∧
      (¬ (Masking.ofText text).table.marker <:+: (Masking.ofText text).table.substitute word →
        ∀ order, order.Perm (Masking.ofText text).table.literals →
          (Masking.ofText text).table.restoreIn order word = (Masking.ofText text).table.substitute word ∧
          order.foldl (fun (text : Text) entry => text.replaceAll entry.1 entry.2) word =
            (Masking.ofText text).table.substitute word)) ∧
    ∀ word ∈ (Masking.ofText text).text.spaced.words,
      (Masking.ofText text).table.Separated word ∧
        ¬ (Masking.ofText text).table.marker <:+: (Masking.ofText text).table.substitute word := by
  have hides := Masking.hides_ofText text
  have numbered := hides.numbered
  obtain ⟨salt, marked⟩ := hides.marked
  constructor
  · intro word separated
    obtain ⟨atoms, unmasks⟩ := Placeholder.Table.exists_unmasks numbered word
    have replaced := unmasks.replaced numbered separated
    refine ⟨fun result => ⟨fun replaced' => numbered.replaced_unique replaced' replaced, fun same => same ▸ replaced⟩, ?_⟩
    intro fresh order shuffled
    rw [unmasks.substitute numbered, marked] at fresh
    rw [unmasks.substitute numbered, ← unmasks.mask numbered]
    exact ⟨restoreIn_mask numbered marked fresh shuffled, Restoration.foldl_mask numbered marked fresh shuffled⟩
  · intro word member
    rw [(Masking.covers_ofText text).1.text] at member
    obtain ⟨part, inside, rfl⟩ := Lexing.exists_part_of_mem_words ⟨hides.marked, hides.listed⟩ Direct.unbroken_nil member
    have hides' := hides.part inside
    exact ⟨hides'.separated, hides'.unmasks.substitute numbered ▸ hides'.fresh⟩

theorem restoring_is_simultaneous_elsewhere :
    (Masking.ofText "a(b)c(d) tagexpr0".toList).table.Separated "x__tagexpr1_1____tagexpr1_0___0".toList ∧
      (Masking.ofText "a(b)c(d) tagexpr0".toList).table.Replaced "x__tagexpr1_1____tagexpr1_0___0".toList
        "xc(d)a(b)_0".toList ∧
      [("__tagexpr1_1__".toList, "c(d)".toList), ("__tagexpr1_0__".toList, "a(b)".toList)].Perm
        (Masking.ofText "a(b)c(d) tagexpr0".toList).table.literals ∧
      (Masking.ofText "a(b)c(d) tagexpr0".toList).table.restoreIn
          [("__tagexpr1_1__".toList, "c(d)".toList), ("__tagexpr1_0__".toList, "a(b)".toList)]
          "x__tagexpr1_1____tagexpr1_0___0".toList = "xc(d)a(b)_0".toList ∧
      "__tagexpr1_0____tagexpr1_1__".toList ∈ (Masking.ofText "a(b)c(d) tagexpr0".toList).text.spaced.words ∧
      (Masking.ofText "a(b)c(d) tagexpr0".toList).table.Separated "__tagexpr1_0____tagexpr1_1__".toList := by
  have hides : (Masking.ofText "a(b)c(d) tagexpr0".toList).table.Hides
      [.char 'x', .complex "c(d)".toList, .complex "a(b)".toList, .char '_', .char '0'] := by
    have whole := Masking.hides_ofText "a(b)c(d) tagexpr0".toList
    refine ⟨whole.numbered, whole.marked, ?_, by decide +kernel⟩
    intro literal member
    simp only [List.mem_cons, reduceCtorEq, Atom.complex.injEq, List.not_mem_nil, false_or, or_false] at member
    rcases member with rfl | rfl
    · exact ⟨1, by decide +kernel⟩
    · exact ⟨0, by decide +kernel⟩
  have spelled : List.flatMap (Masking.ofText "a(b)c(d) tagexpr0".toList).table.mask
      [.char 'x', .complex "c(d)".toList, .complex "a(b)".toList, .char '_', .char '0'] =
      "x__tagexpr1_1____tagexpr1_0___0".toList := by
    decide +kernel
  have separated : (Masking.ofText "a(b)c(d) tagexpr0".toList).table.Separated "x__tagexpr1_1____tagexpr1_0___0".toList :=
    spelled ▸ hides.separated
  have shuffled : [("__tagexpr1_1__".toList, "c(d)".toList), ("__tagexpr1_0__".toList, "a(b)".toList)].Perm
      (Masking.ofText "a(b)c(d) tagexpr0".toList).table.literals := by
    decide +kernel
  have member : "__tagexpr1_0____tagexpr1_1__".toList ∈ (Masking.ofText "a(b)c(d) tagexpr0".toList).text.spaced.words := by
    decide +kernel
  have result : "xc(d)a(b)_0".toList =
      (Masking.ofText "a(b)c(d) tagexpr0".toList).table.substitute "x__tagexpr1_1____tagexpr1_0___0".toList := by
    decide +kernel
  obtain ⟨restored, words⟩ := restoring_is_simultaneous "a(b)c(d) tagexpr0".toList
  obtain ⟨replaced, anyOrder⟩ := restored _ separated
  have same := (anyOrder (by decide +kernel) _ shuffled).1
  exact ⟨separated, (replaced _).mpr result, shuffled, same.trans result.symm, member, (words _ member).1⟩

end TagQuery
