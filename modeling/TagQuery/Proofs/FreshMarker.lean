import Mathlib.Data.Finset.Card
import Mathlib.Order.Interval.Finset.Nat
import TagQuery.Placeholder.Table

/-! Markers that do not occur in a text. Different salts make markers that end at different
places of a text, so one of the first salts, one more than the text has characters, is free. -/

namespace TagQuery.Placeholder

theorem numeral_injective {first second : Nat} (same : numeral first = numeral second) : first = second := by
  simpa [numeral] using congrArg (fun digits => Nat.ofDigitChars 10 digits 0) same

theorem isDigit_of_mem_numeral {number : Nat} {char : Char} (member : char ∈ numeral number) : char.isDigit :=
  Nat.isDigit_of_mem_toDigits (by decide) (by decide) member

theorem underscore_not_mem_numeral (number : Nat) : '_' ∉ numeral number := Nat.underscore_not_in_toDigits

theorem letter_not_mem_numeral (number : Nat) : 't' ∉ numeral number :=
  fun member => absurd (isDigit_of_mem_numeral member) (by decide)

theorem marker_eq (salt : Nat) : marker salt = ['t', 'a', 'g', 'e', 'x', 'p', 'r'] ++ numeral salt := rfl

theorem underscore_not_mem_marker (salt : Nat) : '_' ∉ marker salt := by
  simp [marker_eq, underscore_not_mem_numeral]

/-- A marker ends in no other marker: only its first character is a `t`. -/
private theorem eq_of_marker_suffix {first second : Nat} (suffix : marker first <:+ marker second) :
    first = second := by
  obtain ⟨before, same⟩ := suffix
  rw [marker_eq, marker_eq] at same
  cases before with
  | nil => exact numeral_injective (by simpa using same)
  | cons char before =>
    simp only [List.cons_append, List.nil_append, List.cons.injEq] at same
    have inside : 't' ∈ 'a' :: 'g' :: 'e' :: 'x' :: 'p' :: 'r' :: numeral second := by
      rw [← same.2]
      simp
    simp [letter_not_mem_numeral] at inside

theorem length_marker (salt : Nat) : 8 ≤ (marker salt).length := by
  have some : 0 < (Nat.toDigits 10 salt).length := Nat.length_toDigits_pos
  simp only [marker_eq, numeral, List.length_append, List.length_cons, List.length_nil]
  omega

/-- Markers of different salts end at different places, none of them among the first ones, so a
text has no room for as many as it has characters. -/
theorem exists_absent_marker (text : Text) : ∃ salt ≤ text.length - 7, ¬ marker salt <:+: text := by
  by_contra occurring
  push Not at occurring
  have placed : ∀ salt ∈ Finset.range (text.length - 7 + 1),
      ∃ place ∈ Finset.Icc 8 text.length, marker salt <:+ text.take place := by
    intro salt member
    obtain ⟨before, after, whole⟩ := occurring salt (by simpa [Nat.lt_succ_iff] using member)
    refine ⟨(before ++ marker salt).length, ?_, ?_⟩
    · have long := length_marker salt
      rw [Finset.mem_Icc, ← whole]
      simp only [List.length_append]
      omega
    · rw [← whole, List.take_left]
      exact List.suffix_append _ _
  choose! place bounded ends using placed
  obtain ⟨first, inside, second, inside', different, same⟩ :=
    Finset.exists_ne_map_eq_of_card_lt_of_maps_to (by simp) bounded
  have later := ends second inside'
  rw [← same] at later
  cases List.suffix_or_suffix_of_suffix (ends first inside) later with
  | inl suffix => exact different (eq_of_marker_suffix suffix)
  | inr suffix => exact different (eq_of_marker_suffix suffix).symm

theorem le_of_occurring {text : Text} {salt : Nat} (occurring : ∀ smaller < salt, marker smaller <:+: text) :
    salt ≤ text.length - 7 := by
  obtain ⟨free, bounded, absent⟩ := exists_absent_marker text
  by_contra beyond
  exact absent (occurring free (by omega))

theorem freeSalt?_eq_some_iff (text : Text) (salt : Nat) :
    freeSalt? text = some salt ↔ ¬ marker salt <:+: text ∧ ∀ smaller < salt, marker smaller <:+: text := by
  have bounded (occurring : ∀ smaller < salt, marker smaller <:+: text) := le_of_occurring occurring
  simp only [freeSalt?, List.find?_range_eq_some, ← Text.occursIn_iff, List.mem_range, Bool.not_eq_true',
    Bool.not_not, Bool.not_eq_true] at bounded ⊢
  constructor
  · intro ⟨absent, _, smaller⟩
    exact ⟨absent, smaller⟩
  · intro ⟨absent, smaller⟩
    have inside := bounded smaller
    exact ⟨absent, by omega, smaller⟩

theorem exists_freeSalt? (text : Text) : ∃ salt, freeSalt? text = some salt := by
  cases found : freeSalt? text with
  | some free => exact ⟨free, rfl⟩
  | none =>
    obtain ⟨salt, bounded, absent⟩ := exists_absent_marker text
    have occurring := List.find?_eq_none.mp found salt (List.mem_range.mpr (by omega))
    simp only [Bool.not_eq_true', Bool.not_eq_false] at occurring
    exact absurd ((Text.occursIn_iff ..).mp occurring) absent

theorem marker_of_freeSalt? {text : Text} {salt : Nat} (free : freeSalt? text = some salt) :
    (Table.forText text).marker = marker salt := by
  simp [Table.forText, free]

theorem marker_forText (text : Text) :
    ∃ salt, (Table.forText text).marker = marker salt ∧ ¬ marker salt <:+: text := by
  obtain ⟨salt, free⟩ := exists_freeSalt? text
  exact ⟨salt, marker_of_freeSalt? free, ((freeSalt?_eq_some_iff ..).mp free).1⟩

end TagQuery.Placeholder
