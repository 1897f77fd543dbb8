import TagQuery.Proofs.TableNumbering
import TagQuery.Query.Reading

/-! What a reading notes down. Masking notes each complex literal when its table takes it up, so
the journal lists the literals of the table with their numbers; then come the tokens, and a
failure, whichever token it was met at, ends the reading and the journal. -/

namespace TagQuery

open Placeholder

private theorem Event.record_masked (literal : String) (salt number : Nat) :
    record (.masked literal (String.ofList (form (marker salt) number))) =
      (.trace, s!"masking complex literal '{literal}' as '__tagexpr{salt}_{number}__'") := by
  have front : "' as '__tagexpr" = "' as '" ++ "__tagexpr" := rfl
  have back : "__'" = "__" ++ "'" := rfl
  have text (placeholder : String) :
      message (.masked literal placeholder) = s!"masking complex literal '{literal}' as '{placeholder}'" := rfl
  rw [record, text, form_marker]
  simp only [level, ToString.toString, String.append_assoc, front, back]

namespace Masking

structure Noted (masking : Masking) (literals : List Text) : Prop where
  numbered : masking.table.Numbered
  known : masking.table.known = literals.eraseDups
  events : masking.events = masking.table.known.mapIdx fun number literal =>
    .masked (String.ofList literal) (String.ofList (form masking.table.marker number))

private theorem Noted.step {masking : Masking} {literals : List Text} (noted : masking.Noted literals)
    (segment : Segment) :
    (masking.step segment).Noted (literals ++ segment.literal?.toList) ∧
      (masking.step segment).table.marker = masking.table.marker := by
  cases segment with
  | plain text =>
    rw [Segment.literal?, Option.toList_none, List.append_nil]
    exact ⟨⟨noted.numbered, noted.known, noted.events⟩, rfl⟩
  | complex literal =>
    rw [Segment.literal?, Option.toList_some]
    obtain ⟨numbered, marker, _⟩ := Table.assign_numbered noted.numbered literal
    refine ⟨⟨numbered, Table.known_assign noted.numbered noted.known literal, ?_⟩, marker⟩
    have given := Table.placeholder?_eq noted.numbered literal
    cases found : masking.table.number? literal with
    | some number =>
      simp only [Masking.step, Table.assign_of_number noted.numbered found, given, found, Option.map_some,
        Option.isSome_some, if_true]
      exact noted.events
    | none =>
      have new := (Table.number?_eq_none_iff ..).mp found
      simp only [Masking.step, Table.assign_of_unknown noted.numbered new, given, found, Option.map_none,
        Option.isSome_none, Bool.false_eq_true, if_false, Table.known_add, List.mapIdx_concat, noted.events]
      simp [Table.next, Table.known, Table.add]

private theorem foldl_noted {masking : Masking} {literals : List Text} (noted : masking.Noted literals)
    (segments : List Segment) :
    (segments.foldl step masking).Noted (literals ++ segments.filterMap Segment.literal?) ∧
      (segments.foldl step masking).table.marker = masking.table.marker := by
  induction segments generalizing masking literals with
  | nil => simpa using noted
  | cons segment segments ih =>
    obtain ⟨after, marker⟩ := noted.step segment
    obtain ⟨last, marker'⟩ := ih after
    rw [List.append_assoc] at last
    refine ⟨?_, marker'.trans marker⟩
    cases found : segment.literal? <;> simpa [found] using last

theorem noted_ofText (text : Text) :
    (ofText text).Noted ((Segment.ofText text).filterMap Segment.literal?) ∧
      (ofText text).table.marker = (Table.forText text).marker := by
  have start : Noted { table := .forText text } [] := ⟨Table.numbered_forText text, rfl, rfl⟩
  exact foldl_noted start (Segment.ofText text)

theorem Noted.size {masking : Masking} {literals : List Text} (noted : masking.Noted literals) :
    masking.table.size = literals.eraseDups.length := by
  rw [Table.size, noted.numbered.literals, List.length_mapIdx, noted.known]

end Masking

private theorem Reading.events_ofTokens (input : String) (yard : Yard) (tokens : List Token) :
    (ofTokens input yard tokens).events =
      match (ofTokens input yard tokens).outcome with
      | .ok _ => []
      | .error error => [.rejected input error] := by
  induction tokens generalizing yard with
  | nil =>
    rw [ofTokens]
    cases yard.result <;> rfl
  | cons token tokens ih =>
    rw [ofTokens]
    cases yard.accept token with
    | ok after => exact ih after
    | error error => rfl

/-- One event for each complex literal, one for the tokens, and one more for a failure. -/
theorem Reading.events_ofString (input : String) :
    ∃ salt, (¬ marker salt <:+: input.toList ∧ ∀ smaller < salt, marker smaller <:+: input.toList) ∧
      (ofString input).events =
        ((Segment.distinctLiterals input.toList).mapIdx fun number literal =>
            .masked (String.ofList literal) (String.ofList (form (marker salt) number))) ++
          .tokenised input (tokenize input).length (Segment.distinctLiterals input.toList).length ::
          match Query.parse input with
          | .ok _ => []
          | .error error => [.rejected input error] := by
  obtain ⟨salt, free⟩ := exists_freeSalt? input.toList
  obtain ⟨noted, marked⟩ := Masking.noted_ofText input.toList
  have masked := noted.events
  rw [noted.known, marked, marker_of_freeSalt? free] at masked
  have parsed := Reading.events_ofTokens input {} (tokenize input)
  refine ⟨salt, (freeSalt?_eq_some_iff ..).mp free, ?_⟩
  calc (ofString input).events
    _ = (Masking.ofText input.toList).events ++
          [.tokenised input (tokenize input).length (Masking.ofText input.toList).table.size] ++
          (ofTokens input {} (tokenize input)).events := rfl
    _ = _ := by
      rw [masked, noted.size, parsed, List.append_assoc]
      rfl

/-- The records of a reading: a trace for each complex literal, numbered as they are met first, a
trace that counts the tokens and those literals, and the error if there is one. -/
theorem records_of_reading (input : String) :
    ∃ salt count, (¬ marker salt <:+: input.toList ∧ ∀ smaller < salt, marker smaller <:+: input.toList) ∧
      count = (Segment.distinctLiterals input.toList).length ∧
      (Reading.ofString input).events.map Event.record =
        ((Segment.distinctLiterals input.toList).mapIdx fun number literal =>
            (.trace, s!"masking complex literal '{String.ofList literal}' as '__tagexpr{salt}_{number}__'")) ++
          (.trace, s!"tokenised '{input}' into {(tokenize input).length} tokens ({count} complex literals)") ::
          match Query.parse input with
          | .ok _ => []
          | .error error => [(.debug, s!"failed to parse tag expression '{input}': {error.message}")] := by
  obtain ⟨salt, least, events⟩ := Reading.events_ofString input
  refine ⟨salt, _, least, rfl, ?_⟩
  rw [events, List.map_append, List.map_cons, List.mapIdx_eq_zipIdx_map, List.map_map, List.mapIdx_eq_zipIdx_map]
  congr 1
  · exact List.map_congr_left fun entry _ => Event.record_masked ..
  · cases Query.parse input <;> rfl

example : (Reading.ofString "a(x) and b(y) tagexpr0 a(x))").events =
    [.masked "a(x)" "__tagexpr1_0__", .masked "b(y)" "__tagexpr1_1__",
      .tokenised "a(x) and b(y) tagexpr0 a(x))" 6 2, .rejected "a(x) and b(y) tagexpr0 a(x))" .unmatchedClosing] := by
  decide +kernel

end TagQuery
