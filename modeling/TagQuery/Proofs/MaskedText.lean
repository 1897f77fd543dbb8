import Mathlib.Data.List.Basic
import Mathlib.Logic.Function.Basic
import TagQuery.Proofs.Atoms
import TagQuery.Proofs.TableNumbering

/-! Masked texts as sequences of atoms, some complex literals standing as placeholders and
some not. If the marker does not occur in the text without placeholders, it occurs in the
masked one only where a placeholder was put, and so do the placeholders. -/

namespace TagQuery

open Placeholder

/-- How an atom stands in a masked text: a complex literal with a number as its placeholder. -/
def Atom.masked (marker : Text) (number? : Text → Option Nat) : Atom → Text
  | char value => [value]
  | complex literal => ((number? literal).map (form marker)).getD literal

namespace Masked

variable {salt : Nat} {number? : Text → Option Nat}

theorem shown_or_hidden (salt : Nat) (number? : Text → Option Nat) (atom : Atom) :
    atom.masked (marker salt) number? = atom.text ∨
      ∃ literal number, atom = .complex literal ∧ number? literal = some number ∧
        atom.masked (marker salt) number? = form (marker salt) number := by
  cases atom with
  | char value => exact .inl rfl
  | complex literal =>
    cases found : number? literal with
    | none => exact .inl (by simp [Atom.masked, Atom.text, found])
    | some number => exact .inr ⟨literal, number, rfl, found, by simp [Atom.masked, found]⟩

private theorem prefix_append {pattern front rest : Text} (found : pattern <+: front ++ rest) :
    pattern <+: front ∨ ∃ more, pattern = front ++ more ∧ more <+: rest := by
  cases List.prefix_or_prefix_of_prefix found (List.prefix_append front rest) with
  | inl inside => exact .inl inside
  | inr beyond =>
    obtain ⟨more, rfl⟩ := beyond
    exact .inr ⟨more, rfl, (List.prefix_append_right_inj front).mp found⟩

/-- Placeholders begin with an underscore, so what has none sees the text only. -/
private theorem prefix_text {pattern : Text} {atoms : List Atom} (plain : '_' ∉ pattern)
    (found : pattern <+: atoms.flatMap (Atom.masked (marker salt) number?)) : pattern <+: atoms.flatMap Atom.text := by
  induction atoms generalizing pattern with
  | nil => exact found
  | cons atom atoms ih =>
    rw [List.flatMap_cons] at found ⊢
    rcases shown_or_hidden salt number? atom with shown | ⟨literal, number, _, _, hidden⟩
    · rw [shown] at found
      rcases prefix_append found with inside | ⟨more, rfl, follows⟩
      · exact inside.trans (List.prefix_append _ _)
      · simp only [List.mem_append, not_or] at plain
        exact (List.prefix_append_right_inj _).mpr (ih plain.2 follows)
    · rw [hidden, form_eq, List.cons_append, ← List.nil_append ('_' :: _)] at found
      rw [List.prefix_nil.mp (Text.prefix_of_not_mem plain found)]
      exact List.nil_prefix

private theorem prefix_append_text {pattern front : Text} {atoms : List Atom} (plain : '_' ∉ pattern)
    (found : pattern <+: front ++ atoms.flatMap (Atom.masked (marker salt) number?)) :
    pattern <+: front ++ atoms.flatMap Atom.text := by
  rcases prefix_append found with inside | ⟨more, rfl, follows⟩
  · exact inside.trans (List.prefix_append _ _)
  · simp only [List.mem_append, not_or] at plain
    exact (List.prefix_append_right_inj _).mpr (prefix_text plain.2 follows)

theorem marker_in_form {number : Nat} {start rest tail : Text}
    (found : form (marker salt) number ++ tail = start ++ marker salt ++ rest) :
    (start = ['_', '_'] ∧ rest = '_' :: (numeral number ++ '_' :: '_' :: tail)) ∨
      ∃ gap, start = form (marker salt) number ++ gap ∧ tail = gap ++ marker salt ++ rest := by
  have plain := underscore_not_mem_marker salt
  have some : marker salt ≠ [] := by simp [marker_eq]
  have skip {start after : Text} (found : start ++ marker salt ++ rest = '_' :: after) :
      ∃ gap, start = '_' :: gap ∧ gap ++ marker salt ++ rest = after := by
    rw [← List.nil_append ('_' :: after)] at found
    rcases Text.sides_of_not_mem plain found with ⟨gap, inside, _⟩ | ⟨gap, rfl, rfl⟩
    · simp [some] at inside
    · exact ⟨gap, rfl, rfl⟩
  have whole : start ++ marker salt ++ rest =
      '_' :: '_' :: (marker salt ++ '_' :: (numeral number ++ '_' :: '_' :: tail)) := by
    simpa [form_eq] using found.symm
  obtain ⟨second, rfl, afterFirst⟩ := skip whole
  obtain ⟨core, rfl, afterSecond⟩ := skip afterFirst
  rcases Text.sides_of_not_mem plain afterSecond with ⟨gap, inside, rfl⟩ | ⟨digits, rfl, afterMarker⟩
  · have lengths := congrArg List.length inside
    simp only [List.length_append] at lengths
    obtain rfl : core = [] := List.length_eq_zero_iff.mp (by omega)
    obtain rfl : gap = [] := List.length_eq_zero_iff.mp (by omega)
    exact .inl ⟨rfl, rfl⟩
  · right
    rcases Text.sides_of_not_mem plain afterMarker.symm with ⟨gap, inside, _⟩ | ⟨third, rfl, afterDigits⟩
    · have letter : 't' ∈ numeral number := by simp [inside, marker_eq]
      exact absurd letter (letter_not_mem_numeral number)
    · obtain ⟨beyond, rfl, last⟩ := skip afterDigits.symm
      exact ⟨beyond, by simp [form_eq], last.symm⟩

/-- The marker occurs nowhere but in the placeholders. -/
theorem marker_occurrence {atoms : List Atom} (fresh : ¬ marker salt <:+: atoms.flatMap Atom.text) {start rest : Text}
    (found : atoms.flatMap (Atom.masked (marker salt) number?) = start ++ marker salt ++ rest) :
    ∃ before literal number after, atoms = before ++ .complex literal :: after ∧ number? literal = some number ∧
      start = before.flatMap (Atom.masked (marker salt) number?) ++ ['_', '_'] ∧
      rest = '_' :: (numeral number ++ '_' :: '_' :: after.flatMap (Atom.masked (marker salt) number?)) := by
  induction atoms generalizing start with
  | nil => simp [marker_eq] at found
  | cons atom atoms ih =>
    have fresh' : ¬ marker salt <:+: atoms.flatMap Atom.text :=
      fun inside => fresh (inside.trans ⟨atom.text, [], by simp⟩)
    have later {gap : Text} (start_eq : start = atom.masked (marker salt) number? ++ gap)
        (found : atoms.flatMap (Atom.masked (marker salt) number?) = gap ++ marker salt ++ rest) :
        ∃ before literal number after, atom :: atoms = before ++ .complex literal :: after ∧ number? literal = some number ∧
          start = before.flatMap (Atom.masked (marker salt) number?) ++ ['_', '_'] ∧
          rest = '_' :: (numeral number ++ '_' :: '_' :: after.flatMap (Atom.masked (marker salt) number?)) := by
      obtain ⟨before, literal, number, after, rfl, given, rfl, rest_eq⟩ := ih fresh' found
      exact ⟨atom :: before, literal, number, after, rfl, given, by simp [start_eq], rest_eq⟩
    rw [List.flatMap_cons] at found
    rcases shown_or_hidden salt number? atom with shown | ⟨literal, number, rfl, given, hidden⟩
    · rw [List.append_assoc] at found
      rcases List.append_eq_append_iff.mp found with ⟨gap, start_eq, follows⟩ | ⟨front, whole, follows⟩
      · exact later start_eq (by simpa using follows)
      · have begins : marker salt <+: front ++ atoms.flatMap (Atom.masked (marker salt) number?) := ⟨rest, follows⟩
        have seen := prefix_append_text (underscore_not_mem_marker salt) begins
        apply absurd _ fresh
        rw [List.flatMap_cons, ← shown, whole, List.append_assoc]
        exact seen.isInfix.trans (List.suffix_append _ _).isInfix
    · rw [hidden] at found
      rcases marker_in_form found with ⟨rfl, rfl⟩ | ⟨gap, start_eq, follows⟩
      · exact ⟨[], literal, number, atoms, rfl, given, rfl, rfl⟩
      · exact later (hidden ▸ start_eq) follows

theorem numeral_before_underscore {first second : Nat} {rest rest' : Text}
    (same : numeral first ++ '_' :: rest = numeral second ++ '_' :: rest') : first = second ∧ rest = rest' := by
  have forth : numeral first <+: numeral second :=
    Text.prefix_of_not_mem (underscore_not_mem_numeral first) ⟨_, same⟩
  have back : numeral second <+: numeral first :=
    Text.prefix_of_not_mem (underscore_not_mem_numeral second) ⟨_, same.symm⟩
  obtain rfl := numeral_injective (forth.eq_of_length (Nat.le_antisymm forth.length_le back.length_le))
  exact ⟨rfl, by simpa using same⟩

/-- Placeholders occur nowhere but where they were put, each as a whole. -/
theorem placeholder_occurrence {atoms : List Atom} (fresh : ¬ marker salt <:+: atoms.flatMap Atom.text) {number : Nat}
    {start rest : Text}
    (found : atoms.flatMap (Atom.masked (marker salt) number?) = start ++ form (marker salt) number ++ rest) :
    ∃ before literal after, atoms = before ++ .complex literal :: after ∧ number? literal = some number ∧
      start = before.flatMap (Atom.masked (marker salt) number?) ∧
      rest = after.flatMap (Atom.masked (marker salt) number?) := by
  have inside : atoms.flatMap (Atom.masked (marker salt) number?) =
      (start ++ ['_', '_']) ++ marker salt ++ '_' :: (numeral number ++ '_' :: '_' :: rest) := by
    simpa [form_eq] using found
  obtain ⟨before, literal, number', after, whole, given, start_eq, rest_eq⟩ := marker_occurrence fresh inside
  obtain ⟨rfl, same⟩ := numeral_before_underscore (List.cons.inj rest_eq).2
  exact ⟨before, literal, after, whole, given, List.append_cancel_right start_eq, (List.cons.inj same).2⟩

section Replacement

variable {number : Nat} {literal : Text} {atom : Atom} {atoms : List Atom}

private theorem masked_update
    (own : ∀ other number', number? other = some number' → (number' = number ↔ other = literal))
    (other : ¬ (atom = .complex literal ∧ number? literal = some number)) :
    atom.masked (marker salt) (Function.update number? literal none) = atom.masked (marker salt) number? := by
  cases atom with
  | char value => rfl
  | complex inside =>
    by_cases same : inside = literal
    · subst inside
      cases given : number? literal with
      | none => simp [Atom.masked, given]
      | some number' =>
        cases (own literal number' given).mpr rfl
        exact absurd ⟨rfl, given⟩ other
    · simp [Atom.masked, Function.update_of_ne same]

private theorem not_prefix_within (fresh : ¬ marker salt <:+: (atom :: atoms).flatMap Atom.text)
    (own : ∀ other number', number? other = some number' → (number' = number ↔ other = literal))
    (other : ¬ (atom = .complex literal ∧ number? literal = some number)) {start stretch : Text}
    (split : atom.masked (marker salt) number? = start ++ stretch) (some : stretch ≠ []) :
    ¬ form (marker salt) number <+: stretch ++ atoms.flatMap (Atom.masked (marker salt) number?) := by
  intro ⟨tail, follows⟩
  have found : (atom :: atoms).flatMap (Atom.masked (marker salt) number?) = start ++ form (marker salt) number ++ tail := by
    rw [List.flatMap_cons, split, List.append_assoc, List.append_assoc, follows]
  obtain ⟨before, inside, after, whole, given, start_eq, _⟩ := placeholder_occurrence fresh found
  cases before with
  | nil =>
    cases (own inside number given).mp rfl
    exact other ⟨(List.cons.inj whole).1, given⟩
  | cons first before =>
    obtain ⟨rfl, _⟩ := List.cons.inj whole
    have length := congrArg List.length split
    rw [start_eq, List.flatMap_cons] at length
    simp only [List.length_append] at length
    exact some (List.length_eq_zero_iff.mp (by omega))

/-- Replacing a placeholder puts back one literal, and changes nothing else. -/
theorem replaceAll_masked (fresh : ¬ marker salt <:+: atoms.flatMap Atom.text)
    (own : ∀ other number', number? other = some number' → (number' = number ↔ other = literal)) :
    Text.replaceAll (atoms.flatMap (Atom.masked (marker salt) number?)) (form (marker salt) number) literal =
      atoms.flatMap (Atom.masked (marker salt) (Function.update number? literal none)) := by
  induction atoms with
  | nil => exact Text.replaceAll_nil (by simp [form_eq]) literal
  | cons atom atoms ih =>
    have rest := ih fun inside => fresh (inside.trans ⟨atom.text, [], by simp⟩)
    rw [List.flatMap_cons, List.flatMap_cons]
    by_cases here : atom = .complex literal ∧ number? literal = some number
    · obtain ⟨rfl, given⟩ := here
      have hidden : Atom.masked (marker salt) number? (.complex literal) = form (marker salt) number := by
        simp [Atom.masked, given]
      rw [hidden, Text.replaceAll_append_self (by simp [form_eq]), rest]
      simp [Atom.masked]
    · rw [masked_update own here, Text.replaceAll_append, rest]
      intro start stretch split some
      exact not_prefix_within fresh own here split some

end Replacement

end Masked

end TagQuery
