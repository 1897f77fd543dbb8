import Mathlib.Data.List.TakeWhile
import TagQuery.Text.Occurrence
import TagQuery.Token.Direct

/-! Texts as atoms. A complex literal is found wherever its text stands, whatever follows, so
the atoms of a text are found again in the text of any stretch of them; and as no complex
literal has a blank in it, the sides of a blank have their atoms apart. -/

namespace TagQuery

theorem Text.not_isWord_of_isBlank {char : Char} (blank : isBlank char) : ¬ isWord char := by
  have apart : ∀ range ∈ blankRanges, ∀ code ∈ List.range' range.first (range.last + 1 - range.first),
      CodeRange.cover code wordRanges = false := by decide +kernel
  obtain ⟨range, member, lower, upper⟩ := (isBlank_iff char).mp blank
  simp [isWord, apart range member char.toNat (by simp only [List.mem_range'_1]; omega)]

namespace Segment

/-- A complex literal, said without a scan: a name and, in parentheses, arguments. -/
def Formed (literal : Text) : Prop :=
  ∃ name arguments, literal = name ++ '(' :: arguments ++ [')'] ∧ name ≠ [] ∧ arguments ≠ [] ∧
    (∀ char ∈ name, Text.isWord char) ∧ ∀ char ∈ arguments, isArgument char

def complex? : Text → Option Text
  | [] => none
  | char :: rest =>
    if Text.isWord char then (arguments? (rest.dropWhile Text.isWord)).map (char :: rest.takeWhile Text.isWord ++ ·)
    else none

private theorem arguments?_eq_some_iff (text arguments : Text) :
    arguments? text = some arguments ↔
      ∃ inside, arguments = '(' :: inside ++ [')'] ∧ inside ≠ [] ∧ (∀ char ∈ inside, isArgument char) ∧
        arguments <+: text := by
  constructor
  · intro found
    obtain ⟨rest, follows⟩ := append_of_arguments? found
    unfold arguments? at found
    split at found
    next inside =>
      dsimp only at found
      split at found
      next =>
        split at found
        next => cases found
        next some =>
          cases found
          refine ⟨inside.takeWhile isArgument, rfl, by simpa using some, ?_, ⟨rest, follows.symm⟩⟩
          intro char member
          exact List.mem_takeWhile_imp member
      next => cases found
    next => cases found
  · intro written
    obtain ⟨inside, rfl, some, argument, rest, rfl⟩ := written
    have closing : isArgument ')' = false := by decide
    have split : ∀ char ∈ inside, isArgument char = true := argument
    simp [arguments?, List.takeWhile_append_of_pos split, List.dropWhile_append_of_pos split, closing, some]

theorem complex?_eq_some_iff (text literal : Text) :
    complex? text = some literal ↔ Formed literal ∧ literal <+: text := by
  have opening : Text.isWord '(' = false := by decide
  constructor
  · intro found
    cases text with
    | nil => cases found
    | cons char rest =>
      simp only [complex?] at found
      split at found
      next word =>
        obtain ⟨arguments, given, rfl⟩ := Option.map_eq_some_iff.mp found
        obtain ⟨inside, rfl, some, argument, follows⟩ := (arguments?_eq_some_iff _ _).mp given
        refine ⟨⟨char :: rest.takeWhile Text.isWord, inside, by simp, by simp, some, ?_, argument⟩, ?_⟩
        · intro char member
          cases List.mem_cons.mp member with
          | inl first => exact first ▸ word
          | inr later => exact List.mem_takeWhile_imp later
        · have whole : rest.takeWhile Text.isWord ++ rest.dropWhile Text.isWord = rest :=
            List.takeWhile_append_dropWhile
          rw [List.cons_append, List.cons_prefix_cons]
          refine ⟨rfl, ?_⟩
          conv => rhs; rw [← whole]
          exact (List.prefix_append_right_inj _).mpr follows
      next => cases found
  · intro ⟨formed, follows⟩
    obtain ⟨name, arguments, rfl, named, some, words, argument⟩ := formed
    obtain ⟨rest, rfl⟩ := follows
    cases name with
    | nil => exact absurd rfl named
    | cons char name =>
      have word : Text.isWord char := words char (by simp)
      have later : ∀ char ∈ name, Text.isWord char := fun char member => words char (by simp [member])
      have given : arguments? ('(' :: (arguments ++ ')' :: rest)) = .some ('(' :: arguments ++ [')']) :=
        (arguments?_eq_some_iff _ _).mpr ⟨arguments, rfl, some, argument, rest, by simp⟩
      simp [complex?, word, List.takeWhile_append_of_pos later, List.dropWhile_append_of_pos later, opening, given]

private theorem complex?_append {text literal : Text} (found : complex? text = some literal) (rest : Text) :
    complex? (text ++ rest) = some literal := by
  obtain ⟨formed, follows⟩ := (complex?_eq_some_iff _ _).mp found
  exact (complex?_eq_some_iff _ _).mpr ⟨formed, follows.trans (List.prefix_append _ _)⟩

private theorem complex?_eq_none_of_append {text rest : Text} (absent : complex? (text ++ rest) = none) :
    complex? text = none := by
  cases found : complex? text with
  | none => rfl
  | some literal => cases absent.symm.trans (complex?_append found rest)

theorem blank_not_mem {literal : Text} (formed : Formed literal) {char : Char} (blank : Text.isBlank char) :
    char ∉ literal := by
  have word := Text.not_isWord_of_isBlank blank
  have apart : char ≠ '(' ∧ char ≠ ')' ∧ char ≠ ',' := by
    refine ⟨?_, ?_, ?_⟩ <;> (intro same; subst char; exact absurd blank (by decide))
  obtain ⟨name, arguments, rfl, _, _, words, argument⟩ := formed
  intro member
  simp only [List.mem_append, List.mem_cons, List.not_mem_nil, or_false, apart, false_or] at member
  rcases member with member | member
  · exact word (words char member)
  · have := argument char member
    simp [isArgument, word, apart] at this

private theorem complex?_blank {char : Char} (blank : Text.isBlank char) (rest : Text) :
    complex? (char :: rest) = none := by
  simp [complex?, Text.not_isWord_of_isBlank blank]

private theorem complex?_append_blank {char : Char} (blank : Text.isBlank char) (before after : Text) :
    complex? (before ++ char :: after) = complex? before := by
  cases found : complex? (before ++ char :: after) with
  | none => exact (complex?_eq_none_of_append found).symm
  | some literal =>
    obtain ⟨formed, follows⟩ := (complex?_eq_some_iff _ _).mp found
    exact ((complex?_eq_some_iff _ _).mpr ⟨formed, Text.prefix_of_not_mem (blank_not_mem formed blank) follows⟩).symm

private theorem cut_of_complex? {char : Char} {rest literal : Text} (found : complex? (char :: rest) = some literal) :
    cut char rest = (complex literal, literal.length - 1) := by
  simp only [complex?] at found
  split at found
  next word =>
    obtain ⟨arguments, given, rfl⟩ := Option.map_eq_some_iff.mp found
    simp [cut, word, given]
  next => cases found

private theorem ofText_run {name after : Text} (words : ∀ char ∈ name, Text.isWord char)
    (stops : ∀ char ∈ after.head?, ¬ Text.isWord char) (bare : arguments? after = none) :
    (ofText (name ++ after)).flatMap atoms = name.map .char ++ (ofText after).flatMap atoms := by
  cases name with
  | nil => rfl
  | cons char name =>
    have word : Text.isWord char := words char (by simp)
    have later : ∀ char ∈ name, Text.isWord char := fun char member => words char (by simp [member])
    have ends : after.takeWhile Text.isWord = [] := by
      cases after with
      | nil => rfl
      | cons stop after => simp [stops stop rfl]
    have remains : after.dropWhile Text.isWord = after := by
      cases after with
      | nil => rfl
      | cons stop after => simp [stops stop rfl]
    simp [ofText, Text.pieces_cons, cut, word, List.takeWhile_append_of_pos later,
      List.dropWhile_append_of_pos later, ends, remains, bare, atoms]

end Segment

namespace Atom

/-- The atoms of a text: its complex literals, and the characters outside them. -/
def ofText (text : Text) : List Atom := (Segment.ofText text).flatMap Segment.atoms

theorem flatMap_map_char {shown : Atom → Text} (plain : ∀ value, shown (char value) = [value]) (text : Text) :
    (text.map Atom.char).flatMap shown = text := by
  rw [List.flatMap_map, funext plain, List.flatMap_singleton']

theorem flatMap_text_atoms (segment : Segment) : segment.atoms.flatMap Atom.text = segment.text := by
  cases segment with
  | plain text => exact flatMap_map_char (fun _ => rfl) text
  | complex literal => simp [Segment.atoms, Atom.text, Segment.text]

theorem flatMap_ofText (text : Text) : (ofText text).flatMap Atom.text = text := by
  rw [ofText, List.flatMap_assoc, funext flatMap_text_atoms, Segment.flatMap_ofText]

@[simp] theorem ofText_nil : ofText [] = [] := by simp [ofText, Segment.ofText]

private theorem ofText_of_complex? {text literal : Text} (found : Segment.complex? text = some literal) :
    ofText text = complex literal :: ofText (text.drop literal.length) := by
  cases text with
  | nil => cases found
  | cons char rest =>
    have some : literal.length ≠ 0 := by
      obtain ⟨⟨name, arguments, rfl, _⟩, _⟩ := (Segment.complex?_eq_some_iff _ _).mp found
      simp
    obtain ⟨length, same⟩ := Nat.exists_eq_succ_of_ne_zero some
    simp [ofText, Segment.ofText, Text.pieces_cons, Segment.cut_of_complex? found, Segment.atoms, same]

private theorem ofText_of_no_complex {char : Char} {rest : Text} (absent : Segment.complex? (char :: rest) = none) :
    ofText (char :: rest) = .char char :: ofText rest := by
  by_cases word : Text.isWord char
  · have bare : Segment.arguments? (rest.dropWhile Text.isWord) = none := by
      simpa [Segment.complex?, word] using absent
    have names : ∀ char ∈ rest.takeWhile Text.isWord, Text.isWord char := fun _ member => List.mem_takeWhile_imp member
    have stops : ∀ char ∈ (rest.dropWhile Text.isWord).head?, ¬ Text.isWord char := by
      intro char first
      have := List.head?_dropWhile_not Text.isWord rest
      simp_all
    have run := Segment.ofText_run names stops bare
    have names' : ∀ other ∈ char :: rest.takeWhile Text.isWord, Text.isWord other := by simpa [word] using names
    have longer := Segment.ofText_run names' stops bare
    rw [List.takeWhile_append_dropWhile] at run
    rw [List.cons_append, List.takeWhile_append_dropWhile] at longer
    rw [ofText, ofText, longer, run, List.map_cons, List.cons_append]
  · simp [ofText, Segment.ofText, Text.pieces_cons, Segment.cut, word, Segment.atoms]

/-- Atoms that are read again from their own text. -/
def Exact (atoms : List Atom) : Prop := ofText (atoms.flatMap Atom.text) = atoms

theorem exact_ofText (text : Text) : Exact (ofText text) := congrArg ofText (flatMap_ofText text)

theorem Exact.ofText_eq {atoms : List Atom} {whole : Text} (exact : Exact atoms)
    (spelled : atoms.flatMap Atom.text = whole) : ofText whole = atoms := by
  rw [← spelled, exact]

theorem exact_char_cons (value : Char) (later : List Atom) :
    Exact (.char value :: later) ↔ Segment.complex? (value :: later.flatMap Atom.text) = none ∧ Exact later := by
  unfold Exact
  rw [List.flatMap_cons, Atom.text, List.singleton_append]
  cases found : Segment.complex? (value :: later.flatMap Atom.text) with
  | some literal => simp [ofText_of_complex? found]
  | none => simp [ofText_of_no_complex found]

theorem ofText_formed {literal : Text} (formed : Segment.Formed literal) (rest : Text) :
    ofText (literal ++ rest) = complex literal :: ofText rest := by
  have found := (Segment.complex?_eq_some_iff (literal ++ rest) literal).mpr ⟨formed, List.prefix_append _ _⟩
  simp [ofText_of_complex? found]

private theorem formed_of_ofText {text literal : Text} {later : List Atom}
    (read : ofText text = .complex literal :: later) :
    Segment.Formed literal := by
  cases text with
  | nil => simp at read
  | cons char rest =>
    cases found : Segment.complex? (char :: rest) with
    | some other =>
      rw [ofText_of_complex? found] at read
      cases read
      exact ((Segment.complex?_eq_some_iff _ _).mp found).1
    | none =>
      rw [ofText_of_no_complex found] at read
      cases read

theorem exact_complex_cons (literal : Text) (later : List Atom) :
    Exact (.complex literal :: later) ↔ Segment.Formed literal ∧ Exact later := by
  constructor
  · intro exact
    have formed := formed_of_ofText exact
    rw [Exact, List.flatMap_cons, Atom.text, ofText_formed formed] at exact
    exact ⟨formed, (List.cons.inj exact).2⟩
  · intro ⟨formed, exact⟩
    rw [Exact, List.flatMap_cons, Atom.text, ofText_formed formed, exact]

theorem Exact.right {before after : List Atom} (exact : Exact (before ++ after)) : Exact after := by
  induction before with
  | nil => exact exact
  | cons atom before ih =>
    cases atom with
    | char value => exact ih ((exact_char_cons ..).mp exact).2
    | complex literal => exact ih ((exact_complex_cons ..).mp exact).2

theorem formed_of_mem_ofText {text literal : Text} (member : .complex literal ∈ ofText text) : Segment.Formed literal := by
  obtain ⟨before, after, split⟩ := List.append_of_mem member
  have exact := exact_ofText text
  rw [split] at exact
  exact ((exact_complex_cons ..).mp exact.right).1

theorem Exact.left {before after : List Atom} (exact : Exact (before ++ after)) : Exact before := by
  induction before with
  | nil => exact ofText_nil
  | cons atom before ih =>
    cases atom with
    | char value =>
      obtain ⟨absent, rest⟩ := (exact_char_cons ..).mp exact
      refine (exact_char_cons ..).mpr ⟨?_, ih rest⟩
      rw [List.append_eq, List.flatMap_append, ← List.cons_append] at absent
      exact Segment.complex?_eq_none_of_append absent
    | complex literal =>
      obtain ⟨formed, rest⟩ := (exact_complex_cons ..).mp exact
      exact (exact_complex_cons ..).mpr ⟨formed, ih rest⟩

theorem Exact.inside {part whole : List Atom} (exact : Exact whole) (inside : part <:+: whole) : Exact part := by
  obtain ⟨before, after, rfl⟩ := inside
  exact exact.left.right

/-- A blank belongs to no complex literal, so what stands on its two sides is read apart. -/
theorem Exact.join {before after : List Atom} {blank : Char} (first : Exact before) (second : Exact after)
    (separates : Text.isBlank blank) : Exact (before ++ .char blank :: after) := by
  induction before with
  | nil => exact (exact_char_cons ..).mpr ⟨Segment.complex?_blank separates _, second⟩
  | cons atom before ih =>
    cases atom with
    | char value =>
      obtain ⟨absent, rest⟩ := (exact_char_cons ..).mp first
      refine (exact_char_cons ..).mpr ⟨?_, ih rest⟩
      rw [List.append_eq, List.flatMap_append, List.flatMap_cons, Atom.text, List.singleton_append, ← List.cons_append,
        Segment.complex?_append_blank separates]
      exact absent
    | complex literal =>
      obtain ⟨formed, rest⟩ := (exact_complex_cons ..).mp first
      exact (exact_complex_cons ..).mpr ⟨formed, ih rest⟩

theorem ofText_append_blank (before after : Text) {blank : Char} (separates : Text.isBlank blank) :
    ofText (before ++ blank :: after) = ofText before ++ .char blank :: ofText after := by
  have joined := (exact_ofText before).join (exact_ofText after) separates
  apply joined.ofText_eq
  simp [flatMap_ofText, Atom.text]

end Atom

end TagQuery
