import Lox.Proofs.Annotated
import Lox.Proofs.LineEndings
import Lox.Proofs.Lines

namespace Lox

private theorem IgnoresReturn.map_lines_withReturns {α : Type} {read : List Char → α}
    (ignores : IgnoresReturn read) (text : List Char) :
    (lines (withReturns text)).map read = (lines text).map read := by
  induction text using pieces_induction '\n' with
  | nil => rfl
  | last run absent nonempty => rw [withReturns_of_not_mem absent]
  | piece run items absent ih =>
    have absent' : '\n' ∉ run ++ ['\r'] := by simp [absent]
    have returned : withReturns (run ++ '\n' :: items) =
        (run ++ ['\r']) ++ '\n' :: withReturns items := by
      simp [withReturns_of_not_mem absent]
    rw [returned, lines_run absent', lines_run absent, List.map_cons, List.map_cons, ih,
      ignores.withoutLineEnd, ignores.withoutLineEnd, ignores]

namespace Conformance

/-- No marker ends with a carriage return, so that one behind a line does not complete any. -/
private theorem behind?_append_return {marker : List Char} (visible : '\r' ∉ marker)
    (nonempty : marker ≠ []) (line : List Char) :
    behind? marker (line ++ ['\r']) = (behind? marker line).map (· ++ ['\r']) := by
  have unfinished (line : List Char) : marker <+: line ++ ['\r'] ↔ marker <+: line := by
    rw [List.prefix_concat_iff]
    refine or_iff_right ?_
    rintro rfl
    simp at visible
  induction line with
  | nil =>
    have absent : ¬ marker <+: ['\r'] := by simpa [nonempty] using unfinished []
    simp [behind?, absent, nonempty]
  | cons c line ih =>
    rw [List.cons_append, behind?, behind?, ih]
    by_cases start : marker <+: c :: line
    · have start' := (unfinished (c :: line)).mpr start
      rw [if_pos (by simpa using start'), if_pos (by simpa using start), Option.map_some,
        ← List.cons_append, List.drop_append_of_le_length start.length_le]
    · have start' := mt (unfinished (c :: line)).mp start
      rw [if_neg (by simpa using start'), if_neg (by simpa using start)]

/-- What a line is annotated with. -/
def annotation? (tag : Tag) (line : List Char) : Option String :=
  (behind? tag.marker line).map fun text => String.ofList (trimEnd text)

private theorem ignoresReturn_annotation? (tag : Tag) : IgnoresReturn (annotation? tag) := by
  intro line
  have visible : '\r' ∉ tag.marker := by cases tag <;> decide
  have nonempty : tag.marker ≠ [] := by cases tag <;> decide
  rw [annotation?, behind?_append_return visible nonempty, Option.map_map, annotation?]
  congr 1
  funext text
  exact congrArg String.ofList (ignoresReturn_trimEnd text)

private theorem annotations_eq (tag : Tag) (text : List Char) :
    annotations tag text = ((lines text).map (annotation? tag)).filterMap id := by
  rw [List.filterMap_map]
  rfl

private theorem annotations_withReturns (tag : Tag) (text : List Char) :
    annotations tag (withReturns text) = annotations tag text := by
  rw [annotations_eq, (ignoresReturn_annotation? tag).map_lines_withReturns, annotations_eq]

private theorem comparedLines_withReturns (text : List Char) :
    comparedLines (withReturns text) = comparedLines text := by
  have ignores : IgnoresReturn fun line => String.ofList (trimEnd line) :=
    fun line => congrArg String.ofList (ignoresReturn_trimEnd line)
  exact ignores.map_lines_withReturns text

private theorem annotations_run (tag : Tag) {run : List Char} (absent : '\n' ∉ run)
    (text : List Char) : annotations tag (run ++ '\n' :: text) =
      (annotation? tag run).toList ++ annotations tag text := by
  rw [annotations_eq, lines_run absent, List.map_cons,
    (ignoresReturn_annotation? tag).withoutLineEnd, annotations_eq]
  cases annotation? tag run <;> rfl

private theorem annotations_last (tag : Tag) {run : List Char} (absent : '\n' ∉ run) :
    annotations tag run = (annotation? tag run).toList := by
  by_cases empty : run = []
  · subst empty
    cases tag <;> rfl
  · rw [annotations_eq, lines_last absent empty, List.map_singleton]
    cases annotation? tag run <;> rfl

/-- A line feed at the end of a text begins no line that is annotated. -/
private theorem annotations_feed (tag : Tag) (text : List Char) :
    annotations tag (text ++ ['\n']) = annotations tag text := by
  induction text using pieces_induction '\n' with
  | nil => cases tag <;> rfl
  | last run absent nonempty =>
    rw [annotations_run tag absent, annotations_last tag absent]
    exact List.append_nil _
  | piece run items absent ih =>
    rw [List.append_assoc, List.cons_append, annotations_run tag absent,
      annotations_run tag absent, ih]

theorem annotations_append (tag : Tag) (text text' : List Char) :
    annotations tag (text ++ '\n' :: text') = annotations tag text ++ annotations tag text' := by
  rw [annotations_append_feed, annotations_feed]

/-- The conformance suite takes both kinds of line endings for the same, and it reads the
annotations of a text line by line. -/
theorem conformance_by_lines :
    (∀ tag contents, annotations tag (withReturns contents) = annotations tag contents) ∧
      (∀ wanted text, compare wanted (withReturns text) = compare wanted text) ∧
      ∀ tag contents contents', annotations tag (contents ++ '\n' :: contents') =
        annotations tag contents ++ annotations tag contents' := by
  refine ⟨annotations_withReturns, fun wanted text => ?_, annotations_append⟩
  rw [compare, comparedLines_withReturns, compare]

end Conformance

end Lox
