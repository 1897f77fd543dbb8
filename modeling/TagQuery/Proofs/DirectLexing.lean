import TagQuery.Proofs.DirectWords
import TagQuery.Proofs.Restoration
import TagQuery.Token.Lexing

/-! Masking cannot be seen in the tokens. A word of the masked text is a stretch of atoms
with placeholders in it; it is told from a keyword by them, and restored as a whole. -/

namespace TagQuery

open Placeholder

private theorem Placeholder.isWord_of_mem_numeral {number : Nat} {char : Char} (member : char ∈ numeral number) :
    Text.isWord char := by
  have digit := isDigit_of_mem_numeral member
  simp only [Char.isDigit, Bool.and_eq_true, decide_eq_true_eq] at digit
  exact (Text.isWord_iff char).mpr ⟨⟨0x30, 0x39⟩, List.mem_append_left _ List.mem_cons_self, digit.1, digit.2⟩

private theorem Placeholder.isWord_of_mem_marker {salt : Nat} {char : Char} (member : char ∈ marker salt) :
    Text.isWord char := by
  have letters : ['t', 'a', 'g', 'e', 'x', 'p', 'r'].all Text.isWord := by decide
  rw [marker_eq] at member
  cases List.mem_append.mp member with
  | inl letter => exact List.all_eq_true.mp letters char letter
  | inr digit => exact isWord_of_mem_numeral digit

/-- No character that is special in a query stands in a placeholder. -/
theorem Placeholder.isWord_of_mem_form {salt number : Nat} {char : Char} (member : char ∈ form (marker salt) number) :
    Text.isWord char := by
  have underscore : Text.isWord '_' := by decide
  simp only [form_eq, List.mem_cons, List.mem_append, List.not_mem_nil, or_false] at member
  rcases member with rfl | rfl | inMarker | rfl | inNumeral | rfl | rfl
  any_goals exact underscore
  · exact isWord_of_mem_marker inMarker
  · exact isWord_of_mem_numeral inNumeral

namespace Lexing

variable {table : Table} {word : List Atom} {restore : Text → Text}

theorem ending?_of_isWord {char : Char} (letter : Text.isWord char) : Direct.ending? char = none := by
  rw [Direct.ending?_eq_none_iff]
  refine ⟨?_, ?_, fun blank => Text.not_isWord_of_isBlank blank letter⟩
  · intro opening
    exact absurd (opening ▸ letter) (by decide)
  · intro closing
    exact absurd (closing ▸ letter) (by decide)

theorem spaced_of_unbroken {text : Text} (plain : ∀ char ∈ text, Direct.ending? char = none) : text.spaced = text := by
  apply Text.spaced_of_plain
  intro char member
  obtain ⟨noOpening, noClosing, _⟩ := (Direct.ending?_eq_none_iff char).mp (plain char member)
  exact ⟨noOpening, noClosing⟩

private theorem words_append_ending {char : Char} {tokens : List Token} (ends : Direct.ending? char = some tokens)
    (before after : Text) :
    (Text.words (before ++ (Text.spaced [char] ++ after))).map (Token.ofWord restore) =
      (Text.words before).map (Token.ofWord restore) ++ tokens ++ (Text.words after).map (Token.ofWord restore) := by
  unfold Direct.ending? at ends
  split at ends
  next opening =>
    cases ends
    rw [Text.words_append_spaced (.inl opening), opening]
    simp [Token.ofWord]
  next noOpening =>
    split at ends
    next closing =>
      cases ends
      rw [Text.words_append_spaced (.inr closing), closing]
      simp [Token.ofWord]
    next noClosing =>
      split at ends
      next blank =>
        cases ends
        have plain : Text.spaced [char] = [char] := Text.spaced_of_plain (by simp [noOpening, noClosing])
        rw [plain, List.singleton_append, Text.words_append_blank _ _ blank, List.map_append, List.append_nil]
      next => cases ends

structure Hidden (table : Table) (word : List Atom) : Prop where
  marked : ∃ salt, table.marker = marker salt
  listed : ∀ literal, .complex literal ∈ word → ∃ number, table.number? literal = some number

theorem Hidden.form {literal : Text} (hidden : Hidden table word) (member : .complex literal ∈ word) :
    ∃ salt number, table.mask (.complex literal) = Placeholder.form (marker salt) number := by
  obtain ⟨salt, marked⟩ := hidden.marked
  obtain ⟨number, found⟩ := hidden.listed literal member
  exact ⟨salt, number, by simp [Table.mask, Atom.masked, found, marked]⟩

theorem Hidden.subset {part : List Atom} (hidden : Hidden table word) (inside : part ⊆ word) : Hidden table part :=
  ⟨hidden.marked, fun literal member => hidden.listed literal (inside member)⟩

private theorem eq_map_char_of_mask (hidden : Hidden table word) (plain : '_' ∉ word.flatMap table.mask) :
    word = (word.flatMap table.mask).map .char := by
  induction word with
  | nil => rfl
  | cons atom word ih =>
    rw [List.flatMap_cons, List.mem_append, not_or] at plain
    have rest := ih (hidden.subset (List.subset_cons_self _ _)) plain.2
    cases atom with
    | char value =>
      rw [List.flatMap_cons, List.map_append, ← rest]
      rfl
    | complex literal =>
      obtain ⟨salt, number, same⟩ := hidden.form List.mem_cons_self
      simp [same, form_eq] at plain

private theorem keyword?_mask (hidden : Hidden table word) :
    Operator.ofKeyword? (String.ofList (word.flatMap table.mask)) = Direct.keyword? word := by
  have plain (op : Operator) : '_' ∉ op.keyword.toList := by cases op <;> decide
  ext op
  rw [Operator.ofKeyword?_eq_some_iff, Direct.keyword?_eq_some_iff]
  constructor
  · intro same
    have spelled : word.flatMap table.mask = op.keyword.toList := by simp [← same]
    rw [eq_map_char_of_mask hidden (spelled ▸ plain op), spelled]
  · intro same
    rw [same, Atom.flatMap_map_char fun _ => rfl, String.ofList_toList]

theorem mask_unbroken (hidden : Hidden table word) (unbroken : Direct.Unbroken word) :
    ∀ char ∈ word.flatMap table.mask, Direct.ending? char = none := by
  intro char member
  obtain ⟨atom, inside, member⟩ := List.mem_flatMap.mp member
  cases atom with
  | char value =>
    cases List.mem_singleton.mp member
    exact unbroken char inside
  | complex literal =>
    obtain ⟨salt, number, same⟩ := hidden.form inside
    exact ending?_of_isWord (isWord_of_mem_form (same ▸ member))

private theorem mask_ne_nil (hidden : Hidden table word) (some : word ≠ []) : word.flatMap table.mask ≠ [] := by
  intro empty
  cases word with
  | nil => exact some rfl
  | cons atom word =>
    have nothing := List.flatMap_eq_nil_iff.mp empty atom List.mem_cons_self
    cases atom with
    | char value => cases nothing
    | complex literal =>
      obtain ⟨salt, number, same⟩ := hidden.form List.mem_cons_self
      simp [same, form_eq] at nothing

/-- A word is read alike with and without placeholders, if it is restored as a whole. -/
private theorem map_ofWord_words (hidden : Hidden table word) (unbroken : Direct.Unbroken word)
    (restored : restore (word.flatMap table.mask) = word.flatMap Atom.text) :
    (Text.words (word.flatMap table.mask)).map (Token.ofWord restore) = Direct.close word := by
  cases word with
  | nil => simp [Direct.close]
  | cons atom word =>
    have some := mask_ne_nil hidden (List.cons_ne_nil atom word)
    have plain (char : Char) (member : char ∈ (atom :: word).flatMap table.mask) :=
      (Direct.ending?_eq_none_iff char).mp (mask_unbroken hidden unbroken char member)
    have noOpening : (atom :: word).flatMap table.mask ≠ ['('] := fun same => (plain '(' (by simp [same])).1 rfl
    have noClosing : (atom :: word).flatMap table.mask ≠ [')'] := fun same => (plain ')' (by simp [same])).2.1 rfl
    rw [Text.words_of_unbroken some fun char member => (plain char member).2.2]
    simp only [List.map_cons, List.map_nil, Token.ofWord, noOpening, noClosing, if_false, keyword?_mask hidden,
      restored, Direct.close]
    cases Direct.keyword? (atom :: word) <;> rfl

/-- The split of the masked text goes word by word along with the scan of the atoms. -/
private theorem words_scan {later : List Atom} (hidden : Hidden table (word ++ later)) (unbroken : Direct.Unbroken word)
    (restored : ∀ part, part <:+: word ++ later → restore (part.flatMap table.mask) = part.flatMap Atom.text) :
    (Text.words (word.flatMap table.mask ++ Text.spaced (later.flatMap table.mask))).map (Token.ofWord restore) =
      Direct.scan word later := by
  induction later generalizing word with
  | nil =>
    rw [List.append_nil] at hidden restored
    simpa [Text.spaced, Direct.scan] using map_ofWord_words hidden unbroken (restored word List.infix_rfl)
  | cons atom later ih =>
    have joined (atom' : Direct.Unbroken (word ++ [atom])) := @ih (word ++ [atom]) (by simpa using hidden) atom'
      (by simpa using restored)
    rw [List.flatMap_append, List.flatMap_singleton, List.append_assoc] at joined
    rw [List.flatMap_cons, Text.spaced_append]
    cases atom with
    | complex literal =>
      obtain ⟨salt, number, same⟩ := hidden.form (List.mem_append_right word List.mem_cons_self)
      have plain : Text.spaced (table.mask (.complex literal)) = table.mask (.complex literal) :=
        spaced_of_unbroken fun char member => ending?_of_isWord (isWord_of_mem_form (same ▸ member))
      rw [plain, Direct.scan, joined (unbroken.concat_complex literal)]
    | char value =>
      rw [show table.mask (.char value) = [value] from rfl] at joined ⊢
      cases ends : Direct.ending? value with
      | none =>
        have plain : Text.spaced [value] = [value] := spaced_of_unbroken (by simp [ends])
        rw [plain, Direct.scan_plain ends, joined (unbroken.concat_char ends)]
      | some tokens =>
        have inside : later <:+: word ++ .char value :: later := ⟨word ++ [.char value], [], by simp⟩
        have closed := map_ofWord_words (hidden.subset (List.subset_append_left _ _)) unbroken
          (restored word (List.prefix_append _ _).isInfix)
        have onward := @ih [] (hidden.subset inside.subset) Direct.unbroken_nil
          fun part within => restored part (within.trans inside)
        rw [List.flatMap_nil, List.nil_append] at onward
        rw [words_append_ending ends, Direct.scan_ending ends, closed, onward]

end Lexing

private theorem Masking.restoreIn_part (text : Text) {order : List (Text × Text)}
    (shuffled : order.Perm (Masking.ofText text).table.literals) {part : List Atom}
    (inside : part <:+: Atom.ofText text) :
    (Masking.ofText text).table.restoreIn order (part.flatMap (Masking.ofText text).table.mask) =
      part.flatMap Atom.text := by
  obtain ⟨covers, salt, marked, absent⟩ := Masking.covers_ofText text
  apply restoreIn_mask covers.numbered marked _ shuffled
  intro occurring
  obtain ⟨before, after, whole⟩ := inside
  have around : part.flatMap Atom.text <:+: text := by
    refine ⟨before.flatMap Atom.text, after.flatMap Atom.text, ?_⟩
    rw [← List.flatMap_append, ← List.flatMap_append, whole, Atom.flatMap_ofText]
  exact absent (occurring.trans around)

theorem Masking.tokensIn_ofText (text : Text) {order : List (Text × Text)}
    (shuffled : order.Perm (Masking.ofText text).table.literals) :
    (Masking.ofText text).tokensIn order = Direct.read text := by
  obtain ⟨covers, salt, marked, _⟩ := Masking.covers_ofText text
  have scanned := Lexing.words_scan ⟨⟨salt, marked⟩, covers.listed⟩ Direct.unbroken_nil
    fun part inside => Masking.restoreIn_part text shuffled inside
  rw [Masking.tokensIn, covers.text]
  exact scanned

theorem tokenize_eq_read (input : String) : tokenize input = Direct.read input.toList :=
  Masking.tokensIn_ofText input.toList (.refl _)

/-- Masking is invisible: in whatever order the literals are put back, the tokens are those
that the text has without placeholders. -/
theorem tokensIn_eq_direct (input : String) (order : List (Text × Text))
    (shuffled : order.Perm (Masking.ofText input.toList).table.literals) :
    (Masking.ofText input.toList).tokensIn order = Direct.tokens input ∧ tokenize input = Direct.tokens input := by
  rw [Direct.tokens_eq_read]
  exact ⟨Masking.tokensIn_ofText input.toList shuffled, tokenize_eq_read input⟩

theorem tokensIn_eq_direct_swapped :
    [("__tagexpr1_1__".toList, "c(d)".toList), ("__tagexpr1_0__".toList, "a(b)".toList)].Perm
        (Masking.ofText "a(b)c(d)_0 or __tagexpr0_0__".toList).table.literals ∧
      (Masking.ofText "a(b)c(d)_0 or __tagexpr0_0__".toList).tokensIn
          [("__tagexpr1_1__".toList, "c(d)".toList), ("__tagexpr1_0__".toList, "a(b)".toList)] =
        Direct.tokens "a(b)c(d)_0 or __tagexpr0_0__" ∧
      tokenize "a(b)c(d)_0 or __tagexpr0_0__" = Direct.tokens "a(b)c(d)_0 or __tagexpr0_0__" := by
  have shuffled : [("__tagexpr1_1__".toList, "c(d)".toList), ("__tagexpr1_0__".toList, "a(b)".toList)].Perm
      (Masking.ofText "a(b)c(d)_0 or __tagexpr0_0__".toList).table.literals := by
    decide +kernel
  exact ⟨shuffled, tokensIn_eq_direct _ _ shuffled⟩

end TagQuery
