import TagQuery.Text.Basic

/-! Where one text occurs in another, and putting something else in its place. -/

namespace TagQuery.Text

def occursIn (pattern : Text) : Text → Bool
  | [] => pattern.isEmpty
  | char :: rest => pattern.isPrefixOf (char :: rest) || occursIn pattern rest

theorem occursIn_iff (pattern text : Text) : occursIn pattern text = true ↔ pattern <:+: text := by
  induction text with
  | nil => simp [occursIn]
  | cons char rest ih => simp [occursIn, ih, List.infix_cons_iff]

/-- The pattern stands in this stretch of the text. -/
def OccursAt (pattern text : Text) (span : Span) : Prop :=
  ∃ before after, text = before ++ (pattern ++ after) ∧ span = ⟨before.length, before.length + pattern.length⟩

/-- What lacks a character and begins before one ends before it, too. -/
theorem prefix_of_not_mem {pattern before after : Text} {char : Char} (absent : char ∉ pattern)
    (found : pattern <+: before ++ char :: after) : pattern <+: before := by
  obtain ⟨rest, whole⟩ := found
  obtain ⟨gap, inside, _⟩ | ⟨gap, rfl, follows⟩ := List.append_eq_append_iff.mp whole
  · exact ⟨gap, inside.symm⟩
  · cases gap with
    | nil => simp
    | cons first gap =>
      obtain rfl := (List.cons.inj follows).1
      simp at absent

/-- An occurrence of what lacks a character lies on one side of it. -/
theorem sides_of_not_mem {pattern start rest before after : Text} {char : Char} (absent : char ∉ pattern)
    (found : start ++ pattern ++ rest = before ++ char :: after) :
    (∃ gap, before = start ++ pattern ++ gap ∧ rest = gap ++ char :: after) ∨
      ∃ gap, start = before ++ char :: gap ∧ after = gap ++ pattern ++ rest := by
  rw [List.append_assoc] at found
  obtain ⟨more, rfl, follows⟩ | ⟨more, rfl, follows⟩ := List.append_eq_append_iff.mp found
  · obtain ⟨gap, rfl⟩ := prefix_of_not_mem absent ⟨rest, follows⟩
    left
    exact ⟨gap, by simp, by simpa using follows⟩
  · cases more with
    | nil =>
      have begins : pattern <+: [] ++ char :: after := ⟨rest, follows.symm⟩
      obtain rfl := List.prefix_nil.mp (prefix_of_not_mem absent begins)
      left
      exact ⟨[], by simp, by simpa using follows.symm⟩
    | cons first gap =>
      obtain ⟨rfl, rfl⟩ := List.cons.inj follows
      right
      exact ⟨gap, rfl, by simp⟩

/-- Occurrences are found from the left and do not overlap, and what is put in is not searched
again. The empty pattern occurs before every character and behind the last one. -/
def replaceAll (text pattern replacement : Text) : Text :=
  match pattern with
  | [] => replacement ++ text.flatMap fun char => char :: replacement
  | first :: others =>
    (pieces (fun char rest =>
      if char = first ∧ others.isPrefixOf rest then (replacement, others.length) else ([char], 0)) text).flatten

theorem replaceAll_nil {pattern : Text} (some : pattern ≠ []) (replacement : Text) :
    replaceAll [] pattern replacement = [] := by
  cases pattern with
  | nil => exact absurd rfl some
  | cons first others => simp [replaceAll]

theorem replaceAll_append_self {pattern : Text} (some : pattern ≠ []) (rest replacement : Text) :
    replaceAll (pattern ++ rest) pattern replacement = replacement ++ replaceAll rest pattern replacement := by
  cases pattern with
  | nil => exact absurd rfl some
  | cons first others => simp [replaceAll, pieces_cons]

theorem replaceAll_cons {char : Char} {rest pattern : Text} (absent : ¬ pattern <+: char :: rest)
    (replacement : Text) :
    replaceAll (char :: rest) pattern replacement = char :: replaceAll rest pattern replacement := by
  cases pattern with
  | nil => simp at absent
  | cons first others =>
    have here : ¬ (char = first ∧ others <+: rest) := by
      rintro ⟨rfl, follows⟩
      exact absent (List.cons_prefix_cons.mpr ⟨rfl, follows⟩)
    simp [replaceAll, pieces_cons, here]

/-- A stretch in which no occurrence begins is left alone. -/
theorem replaceAll_append {text rest pattern : Text}
    (absent : ∀ before after, text = before ++ after → after ≠ [] → ¬ pattern <+: after ++ rest) (replacement : Text) :
    replaceAll (text ++ rest) pattern replacement = text ++ replaceAll rest pattern replacement := by
  induction text with
  | nil => rfl
  | cons char text ih =>
    have here : ¬ pattern <+: char :: (text ++ rest) := absent [] (char :: text) rfl (by simp)
    have later := ih fun before after whole => absent (char :: before) after (by simp [whole])
    rw [List.cons_append, replaceAll_cons here, later, List.cons_append]

end TagQuery.Text
