import Lox.Conformance.Suite
import Lox.Proofs.Closed
import Lox.Proofs.Discrepancies
import Lox.Proofs.Spacing
import Lox.Proofs.Transcripts

namespace Lox.Conformance

open Command (status_runScript)

/-- No annotation begins in the text. -/
def IsUnmarked (text : List Char) : Prop := ∀ tag : Tag, ¬ tag.marker <:+: text

theorem infix_of_infix_append_cons {α : Type} {x : α} {part front back : List α}
    (absent : x ∉ part) (within : part <:+: front ++ x :: back) :
    part <:+: front ∨ part <:+: back := by
  obtain ⟨before, behind, same⟩ := within
  rcases List.append_eq_append_iff.mp same with ⟨more, whole, -⟩ | ⟨more, same', rest⟩
  · exact .inl ⟨before, more, whole.symm⟩
  -- The part ends behind the separator, so that it has to begin there as well.
  · cases more with
    | nil => exact .inl ⟨before, [], by simpa using same'⟩
    | cons y more =>
      obtain ⟨rfl, back'⟩ := List.cons.inj rest
      rcases List.append_eq_append_iff.mp same' with ⟨middle, -, ends⟩ | ⟨middle, -, ends⟩
      · exact absurd (by simp [ends]) absent
      · cases middle with
        | nil =>
          rw [List.nil_append] at ends
          exact absurd (by simp [← ends]) absent
        | cons z middle =>
          obtain ⟨-, more'⟩ := List.cons.inj ends
          exact .inr ⟨middle, behind, by simp [back', more']⟩

namespace IsUnmarked

theorem mono {text part : List Char} (unmarked : IsUnmarked text) (within : part <:+: text) :
    IsUnmarked part := fun tag marked => unmarked tag (marked.trans within)

private theorem of_few_slashes {text : List Char} (few : text.count '/' ≤ 1) : IsUnmarked text := by
  intro tag marked
  have two : tag.marker.count '/' = 2 := by cases tag <;> decide
  have more := marked.sublist.count_le '/'
  omega

theorem append_cons {x : Char} {front back : List Char} (separator : x = '\n' ∨ x = '"')
    (left : IsUnmarked front) (right : IsUnmarked back) : IsUnmarked (front ++ x :: back) := by
  intro tag marked
  have absent : x ∉ tag.marker := by
    rcases separator with rfl | rfl <;> cases tag <;> decide
  rcases infix_of_infix_append_cons absent marked with within | within
  · exact left tag within
  · exact right tag within

theorem cons {c : Char} {text : List Char} (other : c ≠ '/') (unmarked : IsUnmarked text) :
    IsUnmarked (c :: text) := by
  intro tag marked
  rcases List.infix_cons_iff.mp marked with start | within
  · obtain ⟨rest, same⟩ : ∃ rest, tag.marker = '/' :: rest := by cases tag <;> exact ⟨_, rfl⟩
    rw [same] at start
    exact other (List.cons_prefix_cons.mp start).1.symm
  · exact unmarked tag within

theorem record (unmarked : IsUnmarked source.toList) (member : result ∈ scan source) :
    IsUnmarked (Listing.record result).text.toList := by
  obtain ⟨unit, present, isUnit, offset, line, delivers⟩ := exists_unit_of_mem_scan member
  rcases delivers.few_slashes isUnit with few | ⟨body, text, shown⟩
  · exact of_few_slashes few
  · have quoted : body <:+: unit.text := ⟨['"'], ['"'], by simp [text]⟩
    have plain : IsUnmarked body := unmarked.mono (quoted.trans (infix_of_mem_segments present))
    have empty : IsUnmarked [] := of_few_slashes (by simp)
    have name : IsUnmarked "STRING ".toList := of_few_slashes (by decide)
    have behind : IsUnmarked (body ++ ['\n']) := append_cons (.inl rfl) plain empty
    rw [shown]
    exact append_cons (.inr rfl) name (append_cons (.inr rfl) plain (cons (by decide) behind))

end IsUnmarked

/-- Where a source begins no annotation, its listing begins none. -/
theorem IsUnmarked.listed (unmarked : IsUnmarked source.toList) (stream : Stream) :
    IsUnmarked (listed stream source).toList := by
  rw [listed_eq]
  have each : ∀ result ∈ scan source, IsUnmarked (Listing.record result).text.toList :=
    fun result member => unmarked.record member
  generalize scan source = results at each
  induction results with
  | nil => exact of_few_slashes (by simp [Listing.records, textTo])
  | cons result results ih =>
    have later := ih fun other member => each other (by simp [member])
    rw [Listing.records_cons, textTo_cons]
    split
    · obtain ⟨line, same⟩ := exists_record_line result
      have here : IsUnmarked line :=
        (each result (by simp)).mono ⟨[], ['\n'], by simp [same]⟩
      rw [same, List.append_assoc]
      exact append_cons (.inl rfl) here later
    · exact later

theorem behind?_append (marker text : List Char) : behind? marker (marker ++ text) = some text := by
  have head : marker.isPrefixOf (marker ++ text) = true := by simp
  generalize whole : marker ++ text = all at head ⊢
  have drop : all.drop marker.length = text := by simp [← whole]
  cases all with
  | nil =>
    obtain ⟨rfl, rfl⟩ := List.append_eq_nil_iff.mp whole
    rfl
  | cons c rest => rw [behind?, if_pos head, drop]

private theorem behind?_eq_none {marker text : List Char} (absent : ¬ marker <:+: text) :
    behind? marker text = none := by
  induction text with
  | nil => exact if_neg fun same => absent (by simp [same])
  | cons c rest ih =>
    rw [List.infix_cons_iff, not_or] at absent
    rw [behind?, if_neg (by simpa using absent.1), ih absent.2]

theorem annotations_append_feed (tag : Tag) (text text' : List Char) :
    annotations tag (text ++ '\n' :: text') =
      annotations tag (text ++ ['\n']) ++ annotations tag text' := by
  rw [annotations, lines_append, List.filterMap_append]
  rfl

theorem annotations_eq_nil (unmarked : IsUnmarked text) (tag : Tag) : annotations tag text = [] := by
  refine List.filterMap_eq_nil_iff.mpr fun line member => ?_
  rw [behind?_eq_none (unmarked.mono (mem_lines member).2 tag)]
  rfl

private theorem annotations_flatMap (tag : Tag) {runs : List (List Char)}
    (each : ∀ run ∈ runs, '\n' ∉ run) :
    annotations tag (runs.flatMap (· ++ ['\n'])) = runs.filterMap fun run =>
      (behind? tag.marker (withoutLineEnd (run ++ ['\n']))).map fun text =>
        String.ofList (trimEnd text) := by
  rw [annotations, lines_flatMap each, List.filterMap_map]
  rfl

/-- The lines of a text as annotations. -/
def annotationsFor (tag : Tag) (text : List Char) : List (List Char) :=
  (lines text).map (tag.marker ++ ·)

private theorem feed_not_mem_annotationsFor (tag : Tag) (text : List Char) :
    ∀ run ∈ annotationsFor tag text, '\n' ∉ run := by
  intro run member
  obtain ⟨line, present, rfl⟩ := List.mem_map.mp member
  have marker : '\n' ∉ tag.marker := by cases tag <;> decide
  rw [List.mem_append, not_or]
  exact ⟨marker, (mem_lines present).1⟩

private theorem withoutLineEnd_marker (tag : Tag) (line : List Char) :
    withoutLineEnd (tag.marker ++ line ++ ['\n']) =
      tag.marker ++ withoutLineEnd (line ++ ['\n']) := by
  have last : tag.marker.getLast? ≠ some '\r' := by cases tag <;> decide
  exact withoutLineEnd_append last line

private theorem marker_expect : Tag.expect.marker =
    ['/', '/', ' ', 'e', 'x', 'p', 'e', 'c', 't', ':', ' '] := by decide

private theorem marker_error : Tag.error.marker =
    ['/', '/', ' ', 'e', 'r', 'r', 'o', 'r', ':', ' '] := by decide

/-- The markers differ where the tag's name goes on, and there are no two slashes behind that. -/
private theorem not_infix_other_marker {tag other : Tag} (different : tag ≠ other)
    {line : List Char} (unmarked : IsUnmarked line) : ¬ tag.marker <:+: other.marker ++ line := by
  have absent := unmarked tag
  cases tag <;> cases other <;>
    simp_all [marker_expect, marker_error, List.infix_cons_iff, List.cons_prefix_cons]

private theorem annotations_annotationsFor (tag other : Tag) {text : List Char}
    (unmarked : IsUnmarked text) :
    annotations tag ((annotationsFor other text).flatMap (· ++ ['\n'])) =
      if tag = other then comparedLines text else [] := by
  rw [annotations_flatMap tag (feed_not_mem_annotationsFor other text), annotationsFor,
    List.filterMap_map]
  split
  · rename_i same
    subst same
    rw [comparedLines, ← List.filterMap_eq_map]
    refine List.filterMap_congr fun line member => ?_
    rw [Function.comp_apply, withoutLineEnd_marker, behind?_append, Option.map_some,
      trimEnd_withoutLineEnd, Function.comp_apply]
  · rename_i different
    refine List.filterMap_eq_nil_iff.mpr fun line member => ?_
    have part := (withoutLineEnd_feed_isPrefix line).isInfix.trans (mem_lines member).2
    have absent := not_infix_other_marker different (unmarked.mono part)
    rw [Function.comp_apply, withoutLineEnd_marker, behind?_eq_none absent, Option.map_none]

/-- The stream whose lines a tag is about. -/
def Tag.stream : Tag → Stream
  | .expect => .out
  | .error => .err

/-- What the listing of a source is written down as: a comment for each line of the standard output
and then one for each line of the error output. -/
def listingLines (source : String) : List (List Char) :=
  annotationsFor .expect (listed .out source).toList ++
    annotationsFor .error (listed .err source).toList

/-- A source with its own listing behind it. -/
def annotated (source : String) : String :=
  String.ofList (source.toList ++ '\n' :: (listingLines source).flatMap (· ++ ['\n']))

private theorem trivia_annotationsFor (tag : Tag) (text : List Char) (trivia : Trivia rest) :
    Trivia ((annotationsFor tag text).flatMap (· ++ ['\n']) ++ rest) := by
  have each := feed_not_mem_annotationsFor tag text
  rw [annotationsFor] at each ⊢
  generalize lines text = all at each ⊢
  induction all with
  | nil => exact trivia
  | cons line lines ih =>
    have later := ih fun run member => each run (by simp [member])
    have here := each (tag.marker ++ line) (by simp)
    obtain ⟨name, same⟩ : ∃ name, tag.marker = '/' :: '/' :: name := by
      cases tag <;> exact ⟨_, rfl⟩
    have noFeed : '\n' ∉ name ++ line := fun feed => here (by simp [same, List.mem_append.mp feed])
    simpa [same] using Trivia.lineComment noFeed later

private theorem trivia_listingLines (source : String) :
    Trivia ('\n' :: (listingLines source).flatMap (· ++ ['\n'])) := by
  have errors := trivia_annotationsFor .error (listed .err source).toList .nil
  have all := trivia_annotationsFor .expect (listed .out source).toList errors
  rw [List.append_nil] at all
  rw [listingLines, List.flatMap_append]
  exact .blank (by simp) all

/-- The annotations are comments, and so they leave the scan as it is. -/
private theorem scan_annotated (closed : IsClosed source) :
    scan (annotated source) = scan source := by
  have trivia := (trivia_listingLines source).placed_append
    (0 + Utf8.size source.toList) (1 + feeds source.toList) []
  rw [List.append_nil, segments_nil, placed] at trivia
  rw [scan_eq_placed, annotated, String.toList_ofList,
    segments_append_feed _ _ closed.not_isOpen, placed_append, joined_segments, trivia,
    List.append_nil, scan_eq_placed]

private theorem listed_annotated (closed : IsClosed source) (stream : Stream) :
    listed stream (annotated source) = listed stream source := by
  rw [listed_eq, listed_eq, scan_annotated closed]

/-- What is read from the annotations is what the run is compared by. -/
private theorem annotations_annotated (unmarked : IsUnmarked source.toList) (tag : Tag) :
    annotations tag (annotated source).toList =
      comparedLines (listed tag.stream source).toList := by
  have own : annotations tag (source.toList ++ ['\n']) = [] :=
    annotations_eq_nil (.append_cons (.inl rfl) unmarked (.of_few_slashes (by simp))) tag
  have feeds : ∀ run ∈ listingLines source, '\n' ∉ run := by
    intro run member
    rcases List.mem_append.mp member with member | member
    · exact feed_not_mem_annotationsFor _ _ run member
    · exact feed_not_mem_annotationsFor _ _ run member
  have expected := annotations_annotationsFor tag .expect (unmarked.listed .out)
  have errors := annotations_annotationsFor tag .error (unmarked.listed .err)
  rw [annotations_flatMap tag (feed_not_mem_annotationsFor _ _)] at expected errors
  rw [annotated, String.toList_ofList, annotations_append_feed, own, List.nil_append,
    annotations_flatMap tag feeds, listingLines, List.filterMap_append, expected, errors]
  cases tag <;> simp [Tag.stream]

private theorem compare_annotated (unmarked : IsUnmarked source.toList) (closed : IsClosed source)
    (tag : Tag) : compare (annotations tag (annotated source).toList)
      (listed tag.stream (annotated source)).toList = [] := by
  rw [compare, annotations_annotated unmarked, listed_annotated closed, discrepancies_eq_nil_iff]

private theorem textTo_err_eq_nil_iff (results : List Result) :
    (textTo .err (Listing.records results)).toList = [] ↔ results.any Result.isError = false := by
  induction results with
  | nil => simp [Listing.records, textTo]
  | cons result results ih =>
    rw [Listing.records_cons, textTo_cons]
    cases result with
    | token token => simpa [Listing.record, Result.isError, Result.error?] using ih
    | error error => simp [Listing.record, Result.isError, Result.error?]

/-- The annotations ask for the status that a script with these errors ends with. -/
private theorem expectedStatus_annotated (unmarked : IsUnmarked source.toList) :
    expectedStatus (annotated source).toList =
      if (scan source).any Result.isError then Command.dataError else 0 := by
  have noLines : (comparedLines (listed .err source).toList).isEmpty =
      !(scan source).any Result.isError := by
    rw [Bool.eq_iff_iff, Bool.not_eq_true', ← textTo_err_eq_nil_iff, ← listed_eq,
      ← lines_eq_nil_iff, comparedLines, List.isEmpty_iff, List.map_eq_nil_iff]
  rw [expectedStatus, annotations_annotated unmarked, Tag.stream, noLines]
  cases (scan source).any Result.isError <;> rfl

/-- A suite passes a source that is annotated with its own listing. -/
theorem check_annotated (unmarked : IsUnmarked source.toList) (closed : IsClosed source)
    (name : String) :
    check true name (.ok (Utf8.encode (annotated source).toList)) = .ok [] := by
  have writes := Command.writes_runScript Log.Filter.isSilent_warn name (annotated source)
  have status := status_runScript (.ofLevel .warn) name (annotated source)
  rw [scan_annotated closed, ← expectedStatus_annotated unmarked] at status
  have expected := compare_annotated unmarked closed .expect
  have errors := compare_annotated unmarked closed .error
  rw [listed_eq, ← writes] at expected errors
  have passed : failures (annotated source).toList (Command.runScript (.ofLevel .warn) name
      (.ok (Utf8.encode (annotated source).toList))) = [] := by
    rw [failures, status, if_pos rfl, Command.Transcript.stdout, Command.Transcript.stderr]
    simpa using ⟨expected, errors⟩
  rw [check, Utf8.decode_encode]
  simp [passed]

/-- A source in which nothing is left open and that has no annotations conforms to its own listing:
annotated with it, the source is listed as before, each stream agrees with the annotations line by
line, and the exit status is the one that the annotations ask for. -/
theorem annotated_conforms (source : String)
    (unmarked : ∀ tag : Tag, ¬ tag.marker <:+: source.toList) (closed : IsClosed source) :
    (∀ stream, listed stream (annotated source) = listed stream source) ∧
      compare (annotations .expect (annotated source).toList)
        (listed .out (annotated source)).toList = [] ∧
      compare (annotations .error (annotated source).toList)
        (listed .err (annotated source)).toList = [] ∧
      ∀ filter filename,
        (Command.runScript filter filename (.ok (Utf8.encode (annotated source).toList))).status =
          expectedStatus (annotated source).toList := by
  refine ⟨listed_annotated closed, compare_annotated unmarked closed .expect,
    compare_annotated unmarked closed .error, fun filter filename => ?_⟩
  rw [status_runScript, scan_annotated closed, expectedStatus_annotated unmarked]

/-- A string that ends behind a line feed, with white space before it, and a stray character. -/
theorem annotated_conforms_two_lines :
    let source := "\"a \r\n\" @"
    let source' := annotated source
    source' = source ++ "\n// expect: STRING \"a \n// expect: \" a \n// expect: \n" ++
        "// error: [line 2] Error: Encountered unexpected character @ at position 7\n" ∧
      (∀ stream, listed stream source' = listed stream source) ∧
      compare (annotations .expect source'.toList) (listed .out source').toList = [] ∧
      compare (annotations .error source'.toList) (listed .err source').toList = [] ∧
      ∀ filter filename,
        (Command.runScript filter filename (.ok (Utf8.encode source'.toList))).status = 65 := by
  intro source source'
  have results : scan source =
      [.token ⟨.string, "\"a \r\n\"", .string "a \r\n", 2⟩,
        .error ⟨2, .unexpectedCharacter '@' 7⟩] := by decide +kernel
  have unmarked : ∀ tag : Tag, ¬ tag.marker <:+: source.toList :=
    IsUnmarked.of_few_slashes (by decide)
  have closed : IsClosed source := by
    intro error member
    rw [results] at member
    obtain rfl : error = ⟨2, .unexpectedCharacter '@' 7⟩ := by simpa using member
    simp
  have text : source' = source ++ "\n// expect: STRING \"a \n// expect: \" a \n// expect: \n" ++
      "// error: [line 2] Error: Encountered unexpected character @ at position 7\n" := by
    simp only [source', annotated, listingLines, listed_eq, results]
    decide +kernel
  obtain ⟨same, expected, errors, asked⟩ := annotated_conforms source unmarked closed
  rw [expectedStatus_annotated unmarked, results] at asked
  exact ⟨text, same, expected, errors, asked⟩

end Lox.Conformance
