import TagQuery.Loop
import TagQuery.Proofs.FreshMarker

/-! The search for a marker, salt by salt. It ends at the least salt that is free, which is
smaller than the text is long, so no counter that can hold the length comes to its end. -/

namespace TagQuery.Placeholder

private theorem length_le_utf8ByteSize (input : String) : input.toList.length ≤ input.utf8ByteSize := by
  have characters (text : Text) : text.length ≤ (String.ofList text).utf8ByteSize := by
    induction text with
    | nil => exact Nat.zero_le _
    | cons char rest ih =>
      have some := char.utf8Size_pos
      rw [String.ofList_cons, String.utf8ByteSize_append, String.utf8ByteSize_singleton, List.length_cons]
      omega
  simpa using characters input.toList

namespace Search

variable {limit : Option Nat} {text : Text} {salt : Nat}

private theorem round_of_occurring (occurring : marker salt <:+: text) (room : limit ≠ some (salt + 1)) :
    round limit text salt = .next (salt + 1) := by
  rw [round, if_neg room, if_pos ((Text.occursIn_iff ..).mpr occurring)]

private theorem round_of_absent (absent : ¬ marker salt <:+: text) (room : limit ≠ some (salt + 1)) :
    round limit text salt = .last (some salt) := by
  rw [round, if_neg room, if_neg (mt (Text.occursIn_iff ..).mp absent)]

/-- The search takes one round for each salt up to the first that is free. -/
theorem finishes (absent : ¬ marker salt <:+: text) (occurring : ∀ smaller < salt, marker smaller <:+: text)
    (room : ∀ counter ≤ salt, limit ≠ some (counter + 1)) {rounds : Nat} (enough : rounds ≤ salt) :
    Round.Finishes (round limit text) (some salt) (salt - rounds) rounds := by
  induction rounds with
  | zero => exact .last (round_of_absent absent (room salt (Nat.le_refl salt)))
  | succ rounds ih =>
    have leads := round_of_occurring (occurring (salt - (rounds + 1)) (by omega)) (room _ (by omega))
    have onward : salt - (rounds + 1) + 1 = salt - rounds := by omega
    exact .next leads (onward ▸ ih (by omega))

theorem le_of_reaches (absent : ¬ marker salt <:+: text) {counter : Nat}
    (reached : Round.Reaches (round limit text) 0 counter) : counter ≤ salt := by
  induction reached with
  | start => exact Nat.zero_le salt
  | @next counter later _ leads ih =>
    unfold round at leads
    split at leads
    · cases leads
    · split at leads
      next occurring =>
        cases leads
        apply Nat.succ_le_of_lt (Nat.lt_of_le_of_ne ih _)
        rintro rfl
        exact absent ((Text.occursIn_iff ..).mp occurring)
      next => cases leads

end Search

/-- The search ends at the least salt whose marker is not in the text, after as many rounds. The
bytes of the text bound that salt, so if 32 bits can count them a counter of 32 bits does not come
to its end, and the marker that is used is not the empty one. -/
theorem marker_search_ends (input : String) :
    ∃ salt ≤ input.utf8ByteSize,
      (¬ marker salt <:+: input.toList ∧ ∀ smaller < salt, marker smaller <:+: input.toList) ∧
        Round.Finishes (Search.round none input.toList) (some salt) 0 salt ∧
        freeSalt? input.toList = some salt ∧
        (input.utf8ByteSize < 2 ^ 32 →
          Round.Finishes (Search.round (some (2 ^ 32)) input.toList) (some salt) 0 salt ∧
            (∀ counter, Round.Reaches (Search.round (some (2 ^ 32)) input.toList) 0 counter → counter + 1 < 2 ^ 32) ∧
            (Table.forText input.toList).marker = marker salt ∧ marker salt ≠ []) := by
  obtain ⟨salt, free⟩ := exists_freeSalt? input.toList
  obtain ⟨absent, occurring⟩ := (freeSalt?_eq_some_iff ..).mp free
  have bounded := le_of_occurring occurring
  have bytes := length_le_utf8ByteSize input
  have search (limit : Option Nat) (room : ∀ counter ≤ salt, limit ≠ some (counter + 1)) :
      Round.Finishes (Search.round limit input.toList) (some salt) 0 salt := by
    simpa using Search.finishes absent occurring room (Nat.le_refl salt)
  refine ⟨salt, by omega, ⟨absent, occurring⟩, search none (by simp), free, ?_⟩
  intro short
  have room : ∀ counter ≤ salt, counter + 1 < 2 ^ 32 := by
    intro counter below
    omega
  refine ⟨search _ ?_, ?_, marker_of_freeSalt? free, by simp [marker_eq]⟩
  · intro counter below same
    exact absurd (Option.some.inj same).symm (Nat.ne_of_lt (room counter below))
  · intro counter reached
    exact room counter (Search.le_of_reaches absent reached)

theorem marker_search_ends_shared :
    "tagexpr10 tagexpr01(x)".utf8ByteSize < 2 ^ 32 ∧
      Round.Finishes (Search.round (some (2 ^ 32)) "tagexpr10 tagexpr01(x)".toList) (some 2) 0 2 ∧
      Round.Reaches (Search.round (some (2 ^ 32)) "tagexpr10 tagexpr01(x)".toList) 0 1 ∧ 1 + 1 < 2 ^ 32 ∧
      (Table.forText "tagexpr10 tagexpr01(x)".toList).marker = marker 2 ∧ marker 2 ≠ [] := by
  have short : "tagexpr10 tagexpr01(x)".utf8ByteSize < 2 ^ 32 := by decide
  have first : marker 0 <:+: "tagexpr10 tagexpr01(x)".toList := by decide +kernel
  have reached : Round.Reaches (Search.round (some (2 ^ 32)) "tagexpr10 tagexpr01(x)".toList) 0 1 :=
    .next .start (Search.round_of_occurring first (by simp))
  obtain ⟨salt, _, _, _, free, limited⟩ := marker_search_ends "tagexpr10 tagexpr01(x)"
  have chosen : freeSalt? "tagexpr10 tagexpr01(x)".toList = some 2 := by decide +kernel
  obtain rfl : salt = 2 := Option.some.inj (free.symm.trans chosen)
  obtain ⟨finishes, room, marked, some⟩ := limited short
  exact ⟨short, finishes, reached, room _ reached, marked, some⟩

end TagQuery.Placeholder
