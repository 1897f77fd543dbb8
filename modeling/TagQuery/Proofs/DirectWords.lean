import TagQuery.Proofs.Atoms

/-! Words of atoms. A scan cuts the atoms at the characters that end words, and each word
is read by itself. A word that was read as a literal is read as the same literal wherever
blanks or the ends of a text stand around it, for its atoms are found again in its text. -/

namespace TagQuery

theorem Operator.ofKeyword?_eq_some_iff (word : String) (op : Operator) :
    Operator.ofKeyword? word = some op ↔ word = op.keyword := by
  constructor
  · intro found
    unfold Operator.ofKeyword? at found
    split at found <;> cases found <;> rfl
  · intro same
    exact same ▸ ofKeyword?_keyword op

namespace Direct

def ending? (char : Char) : Option (List Token) :=
  if char = '(' then some [.opening]
  else if char = ')' then some [.closing]
  else if Text.isBlank char then some []
  else none

theorem ending?_eq_none_iff (char : Char) : ending? char = none ↔ char ≠ '(' ∧ char ≠ ')' ∧ ¬ Text.isBlank char := by
  unfold ending?
  split
  · simp_all
  · split
    · simp_all
    · split <;> simp_all

private theorem ending?_blank {char : Char} (blank : Text.isBlank char) : ending? char = some [] := by
  have noOpening : char ≠ '(' := fun same => absurd (same ▸ blank) (by decide)
  have noClosing : char ≠ ')' := fun same => absurd (same ▸ blank) (by decide)
  simp [ending?, noOpening, noClosing, blank]

private theorem literal_not_mem_ending {char : Char} {tokens : List Token} (ends : ending? char = some tokens)
    (value : String) :
    .literal value ∉ tokens := by
  unfold ending? at ends
  split at ends
  · cases ends
    simp
  · split at ends
    · cases ends
      simp
    · split at ends
      · cases ends
        simp
      · cases ends

theorem scan_ending {char : Char} {tokens : List Token} (ends : ending? char = some tokens) (word later : List Atom) :
    scan word (.char char :: later) = close word ++ tokens ++ scan [] later := by
  unfold ending? at ends
  rw [scan]
  split
  next opening =>
    simp only [opening, if_true] at ends
    cases ends
    simp
  next noOpening =>
    simp only [noOpening, if_false] at ends
    split
    next closing =>
      simp only [closing, if_true] at ends
      cases ends
      simp
    next noClosing =>
      simp only [noClosing, if_false] at ends
      split at ends
      next blank =>
        cases ends
        simp [blank]
      next => cases ends

theorem scan_plain {char : Char} (plain : ending? char = none) (word later : List Atom) :
    scan word (.char char :: later) = scan (word ++ [.char char]) later := by
  obtain ⟨noOpening, noClosing, noBlank⟩ := (ending?_eq_none_iff char).mp plain
  simp only [scan, noOpening, noClosing, noBlank, if_false, Bool.false_eq_true]

def Unbroken (word : List Atom) : Prop := ∀ value, .char value ∈ word → ending? value = none

theorem unbroken_nil : Unbroken [] := fun _ member => nomatch member

theorem Unbroken.concat_char {word : List Atom} (unbroken : Unbroken word) {value : Char} (plain : ending? value = none) :
    Unbroken (word ++ [.char value]) := by
  intro other member
  cases List.mem_append.mp member with
  | inl inside => exact unbroken other inside
  | inr last =>
    cases List.mem_singleton.mp last
    exact plain

theorem Unbroken.concat_complex {word : List Atom} (unbroken : Unbroken word) (literal : Text) :
    Unbroken (word ++ [.complex literal]) := by
  intro other member
  cases List.mem_append.mp member with
  | inl inside => exact unbroken other inside
  | inr last => cases List.mem_singleton.mp last

theorem keyword?_eq_some_iff (word : List Atom) (op : Operator) :
    keyword? word = some op ↔ word = op.keyword.toList.map .char := by
  constructor
  · intro found
    simpa using List.find?_some found
  · intro same
    subst same
    cases op <;> decide +kernel

structure Word (word : List Atom) : Prop where
  some : word ≠ []
  unbroken : Unbroken word
  noKeyword : keyword? word = none

private theorem Word.close {word : List Atom} (literal : Word word) :
    close word = [.literal (String.ofList (word.flatMap Atom.text))] := by
  cases word with
  | nil => exact absurd rfl literal.some
  | cons atom word => simp [Direct.close, literal.noKeyword]

private theorem word_of_mem_close {word : List Atom} (unbroken : Unbroken word) {value : String}
    (member : .literal value ∈ close word) : Word word ∧ value = String.ofList (word.flatMap Atom.text) := by
  cases word with
  | nil => cases member
  | cons atom word =>
    cases found : keyword? (atom :: word) with
    | some op => simp [close, found] at member
    | none => exact ⟨⟨List.cons_ne_nil _ _, unbroken, found⟩, by simpa [close, found] using member⟩

private theorem word_of_mem_scan {word later : List Atom} (unbroken : Unbroken word) {value : String}
    (member : .literal value ∈ scan word later) :
    ∃ part, part <:+: word ++ later ∧ Word part ∧ value = String.ofList (part.flatMap Atom.text) := by
  induction later generalizing word with
  | nil =>
    obtain ⟨literal, same⟩ := word_of_mem_close unbroken member
    exact ⟨word, (List.prefix_append _ _).isInfix, literal, same⟩
  | cons atom later ih =>
    cases atom with
    | complex literal => simpa using ih (unbroken.concat_complex literal) member
    | char char =>
      cases ends : ending? char with
      | none =>
        rw [scan_plain ends] at member
        simpa using ih (unbroken.concat_char ends) member
      | some tokens =>
        rw [scan_ending ends, List.mem_append, List.mem_append] at member
        rcases member with (closed | ending) | onward
        · obtain ⟨literal, same⟩ := word_of_mem_close unbroken closed
          exact ⟨word, (List.prefix_append _ _).isInfix, literal, same⟩
        · exact absurd ending (literal_not_mem_ending ends value)
        · obtain ⟨part, inside, literal, same⟩ := ih unbroken_nil onward
          exact ⟨part, inside.trans ⟨word ++ [.char char], [], by simp⟩, literal, same⟩

private theorem scan_unbroken {word later : List Atom} (unbroken : Unbroken later) :
    scan word later = close (word ++ later) := by
  induction later generalizing word with
  | nil => rw [scan, List.append_nil]
  | cons atom later ih =>
    have rest (word : List Atom) : scan word later = close (word ++ later) :=
      ih fun value member => unbroken value (List.mem_cons_of_mem _ member)
    cases atom with
    | complex literal => rw [scan, rest, List.append_assoc, List.singleton_append]
    | char char =>
      rw [scan_plain (unbroken char List.mem_cons_self), rest, List.append_assoc, List.singleton_append]

/-- What stands before a character that ends words is read apart from what stands behind it. -/
theorem scan_append_ending {char : Char} {tokens : List Token} (ends : ending? char = some tokens)
    (word before after : List Atom) :
    scan word (before ++ .char char :: after) = scan word before ++ tokens ++ scan [] after := by
  induction before generalizing word with
  | nil => rw [List.nil_append, scan_ending ends, scan]
  | cons atom before ih =>
    cases atom with
    | complex literal => exact ih _
    | char other =>
      cases ends' : ending? other with
      | none => simp only [List.cons_append, scan_plain ends', ih]
      | some others => simp only [List.cons_append, scan_ending ends', ih, List.append_assoc]

def read (text : Text) : List Token := scan [] (Atom.ofText text)

@[simp] theorem read_nil : read [] = [] := by simp [read, scan, close]

theorem tokens_eq_read (input : String) : tokens input = read input.toList := rfl

theorem read_append_blank (before after : Text) {char : Char} (blank : Text.isBlank char) :
    read (before ++ char :: after) = read before ++ read after := by
  rw [read, Atom.ofText_append_blank before after blank, scan_append_ending (ending?_blank blank), List.append_nil,
    read, read]

/-- A value that is read as a literal when it stands alone. -/
def SelfContained (value : String) : Prop := Word (Atom.ofText value.toList)

theorem SelfContained.read {value : String} (selfContained : SelfContained value) :
    read value.toList = [.literal value] := by
  rw [Direct.read, scan_unbroken selfContained.unbroken, List.nil_append, selfContained.close, Atom.flatMap_ofText,
    String.ofList_toList]

theorem selfContained_of_mem_read {text : Text} {value : String} (member : .literal value ∈ read text) :
    SelfContained value := by
  obtain ⟨part, inside, literal, rfl⟩ := word_of_mem_scan unbroken_nil member
  have again : Atom.ofText (part.flatMap Atom.text) = part := (Atom.exact_ofText text).inside inside
  rw [SelfContained, String.toList_ofList, again]
  exact literal

end Direct

end TagQuery
