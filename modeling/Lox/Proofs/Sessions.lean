import Lox.Proofs.Concatenation
import Lox.Proofs.Transcripts

namespace Lox

private theorem map_mapIdx {α β γ : Type} (g : β → γ) (f : Nat → α → β) (items : List α) :
    (items.mapIdx f).map g = items.mapIdx fun i item => g (f i item) := by
  induction items generalizing f with
  | nil => rfl
  | cons item items ih => rw [List.mapIdx_cons, List.map_cons, ih, List.mapIdx_cons]

/-- The errors of a source, in scan order. -/
def errorsOf (source : String) : List LexicalError := (scan source).filterMap Result.error?

/-- What is listed of errors. -/
def reported (errors : List LexicalError) : String :=
  String.join (errors.map fun error => error.text ++ "\n")

private theorem listed_err (source : String) : listed .err source = reported (errorsOf source) := by
  rw [listed_eq, errorsOf]
  induction scan source with
  | nil => rfl
  | cons result results ih =>
    rw [textTo_records_cons, ih]
    cases result with
    | token token => exact String.empty_append
    | error error => simp [textTo, Listing.record, reported, Result.error?]

private theorem reported_flatMap (sources : List String) :
    reported (sources.flatMap errorsOf) = String.join (sources.map (listed .err)) := by
  induction sources with
  | nil => rfl
  | cons source sources ih =>
    rw [List.map_cons, String.join_cons, ← ih, listed_err, List.flatMap_cons, reported, reported,
      reported, List.map_append, String.join_append]

/-- Where a result stands is not listed of a token. -/
private theorem textTo_out_moved (bytes lines : Nat) (results : List Result) :
    textTo .out (Listing.records (results.map (Result.moved bytes lines))) =
      textTo .out (Listing.records results) := by
  induction results with
  | nil => rfl
  | cons result results ih =>
    rw [List.map_cons, textTo_records_cons, textTo_records_cons, ih]
    cases result <;> rfl

/-- How many bytes stand before the line with some index. -/
def bytesBefore (fed : List String) (index : Nat) : Nat :=
  Utf8.size (String.join (fed.take index)).toList

@[simp] theorem bytesBefore_zero (fed : List String) : bytesBefore fed 0 = 0 := rfl

@[simp] theorem bytesBefore_succ (line : String) (fed : List String) (index : Nat) :
    bytesBefore (line :: fed) (index + 1) = Utf8.size line.toList + bytesBefore fed index := by
  rw [bytesBefore, List.take_succ_cons, String.join_cons, String.toList_append, Utf8.size_append]
  rfl

/-- A text is scanned line by line. -/
private theorem scan_lines {text : List Char} (closed : ∀ line ∈ fedLines text, IsClosed line) :
    scan (String.ofList text) = ((fedLines text).mapIdx fun i line =>
      (scan line).map (Result.moved (bytesBefore (fedLines text) i) i)).flatten := by
  have unmoved : Result.moved 0 0 = id := funext Result.moved_zero
  induction text using pieces_induction '\n' with
  | nil =>
    rw [scan_eq_placed, String.toList_ofList, segments_nil]
    rfl
  | last run absent nonempty =>
    simp [fedLines_last absent nonempty, unmoved]
  | piece run text absent ih =>
    rw [fedLines_append absent] at closed ⊢
    have here := (closed _ List.mem_cons_self).not_isOpen
    rw [String.toList_ofList] at here
    have later := ih fun line member => closed line (List.mem_cons_of_mem _ member)
    have cut := segments_append_of_feed run text here
    have size : (run ++ ['\n']).count '\n' = 1 := by
      simp [List.count_eq_zero.mpr absent]
    rw [← List.singleton_append, ← List.append_assoc, scan_append_of_cut cut, later, size,
      List.map_flatten, map_mapIdx, List.mapIdx_cons, List.flatten_cons]
    simp [unmoved, Function.comp_def, Result.moved_moved, Nat.add_comm 1]

/-- The line with some index stands behind as many line feeds. -/
private theorem count_feed_before {text : List Char} (found : (fedLines text)[i]? = some line) :
    (String.join ((fedLines text).take i)).toList.count '\n' = i ∧
      i + line.toList.count '\n' ≤ text.count '\n' := by
  induction text using pieces_induction '\n' generalizing i with
  | nil => simp [fedLines_nil] at found
  | last run absent nonempty =>
    rw [fedLines_last absent nonempty] at found ⊢
    obtain ⟨inside, rfl⟩ := List.getElem?_eq_some_iff.mp found
    obtain rfl : i = 0 := by simpa using inside
    simp
  | piece run text absent ih =>
    have none := List.count_eq_zero.mpr absent
    rw [fedLines_append absent] at found ⊢
    cases i with
    | zero =>
      obtain rfl : String.ofList (run ++ ['\n']) = line := by simpa using found
      simp [none]
    | succ i =>
      obtain ⟨before, most⟩ := ih (by simpa using found)
      rw [List.take_succ_cons, String.join_cons, String.toList_append, List.count_append, before]
      simp [none]
      omega

private theorem errorsOf_lines {source : String}
    (closed : ∀ line ∈ fedLines source.toList, IsClosed line) :
    errorsOf source = ((fedLines source.toList).mapIdx fun i line =>
      (errorsOf line).map
        (LexicalError.moved (bytesBefore (fedLines source.toList) i) i)).flatten := by
  have moved (bytes lines : Nat) : Result.error? ∘ Result.moved bytes lines =
      fun result => result.error?.map (LexicalError.moved bytes lines) :=
    funext (Result.error?_moved bytes lines)
  have whole := scan_lines closed
  rw [String.ofList_toList] at whole
  simp only [errorsOf, whole, List.filterMap_flatten, map_mapIdx, List.filterMap_map, moved,
    List.map_filterMap]

private theorem listed_out_lines {source : String}
    (closed : ∀ line ∈ fedLines source.toList, IsClosed line) :
    listed .out source = String.join ((fedLines source.toList).map (listed .out)) := by
  have whole := scan_lines closed
  rw [String.ofList_toList] at whole
  have each (bytes lines : Nat) (line : String) : textTo .out (Listing.records
      ((scan line).map (Result.moved bytes lines))) = listed .out line := by
    rw [textTo_out_moved, listed_eq]
  have output : (fedLines source.toList).mapIdx (fun _ => listed .out) =
      (fedLines source.toList).map (listed .out) := List.ext_getElem (by simp) (by simp)
  rw [listed_eq, whole, Listing.records, List.map_flatten, ← List.flatMap_id, textTo_flatMap,
    map_mapIdx, map_mapIdx, ← output]
  exact congrArg String.join (congrArg (fun f => List.mapIdx f _) (funext₂ fun i => each _ i))

theorem any_isError_iff (source : String) :
    (scan source).any Result.isError = true ↔ errorsOf source ≠ [] := by
  simp [errorsOf, Result.isError, Option.isSome_iff_ne_none]

private theorem errorsOf_ne_nil_iff {source : String}
    (closed : ∀ line ∈ fedLines source.toList, IsClosed line) :
    errorsOf source ≠ [] ↔ ∃ line ∈ fedLines source.toList, errorsOf line ≠ [] := by
  rw [errorsOf_lines closed, List.flatten_ne_nil_iff]
  constructor
  · rintro ⟨errors, member, present⟩
    obtain ⟨i, inside, rfl⟩ := List.mem_mapIdx.mp member
    exact ⟨_, List.getElem_mem inside, fun absent => present (by rw [absent, List.map_nil])⟩
  · rintro ⟨line, member, present⟩
    obtain ⟨i, inside, rfl⟩ := List.mem_iff_getElem.mp member
    refine ⟨_, List.mem_mapIdx.mpr ⟨i, inside, rfl⟩, fun absent => ?_⟩
    exact present (List.map_eq_nil_iff.mp absent)

namespace Command

/-- A session lists line by line what a script lists at once, if each line on its own leaves nothing
open: the same goes to the standard output, between the prompts, and the errors are the same but for
their places. The script places the errors of a line behind all the lines and bytes before it. The
session always ends well, the script does if there was no error in any line. -/
theorem session_agrees_with_script (filter : Log.Filter) (filename : String)
    {content : List UInt8} {source : String} (valid : Utf8.decode content = .ok source.toList)
    (closed : ∀ line ∈ fedLines source.toList, IsClosed line)
    (bounded : source.toList.count '\n' < 4294967295) :
    let fed := fedLines source.toList
    let session := runSession filter content
    let script := runScript filter filename (.ok content)
    session.stdout = String.join (fed.map fun line => "> " ++ listed .out line) ++ "> " ∧
      script.stdout = String.join (fed.map (listed .out)) ∧
      (filter.IsSilent → session.stderr = reported (fed.flatMap errorsOf) ∧
        script.stderr = reported (errorsOf source)) ∧
      errorsOf source = (fed.mapIdx fun i line =>
        (errorsOf line).map (LexicalError.moved (bytesBefore fed i) i)).flatten ∧
      (∀ i line, fed[i]? = some line → ∀ error ∈ errorsOf line,
        (error.moved (bytesBefore fed i) i).line.toNat = error.line.toNat + i) ∧
      session.status = 0 ∧
      script.status = if ∃ line ∈ fed, errorsOf line ≠ [] then dataError else 0 := by
  obtain rfl := Utf8.decode_eq_ok_iff.mp valid
  intro fed session script
  refine ⟨stdout_runSession filter source.toList, ?_, ?_, errorsOf_lines closed, ?_, ?_, ?_⟩
  · rw [← listed_out_lines closed]
    exact stdout_runScript filter filename source
  · intro silent
    refine ⟨?_, ?_⟩
    · rw [reported_flatMap]
      exact stderr_runSession silent source.toList
    · rw [← listed_err, listed_eq, ← writes_runScript silent filename source]
      rfl
  · intro i line found error member
    obtain ⟨before, most⟩ := count_feed_before found
    have delivered : Result.error error ∈ scan (String.ofList line.toList) := by
      rw [String.ofList_toList]
      exact mem_errors_iff.mp member
    have few : ((String.join (fed.take i)).toList ++ line.toList).count '\n' < 4294967295 := by
      rw [List.count_append, before]
      omega
    have moved := Result.toNat_line_moved delivered few (bytesBefore fed i)
    rwa [before] at moved
  · exact congrArg Transcript.status (runSession_encode filter source.toList)
  · have status := status_runScript filter filename source
    simpa only [any_isError_iff, errorsOf_ne_nil_iff closed] using status

/-- Four lines, of which the second is empty, the third has a quote in a comment and the last has no
line feed. The characters that are no tokens are of one to three bytes. -/
theorem session_agrees_with_script_four_lines :
    let source := "a€\r\n\n@ // \"\nb §"
    let input := Utf8.encode source.toList
    let session := runSession (.ofLevel .warn) input
    let script := runScript (.ofLevel .warn) "a.lox" (.ok input)
    Utf8.decode input = .ok source.toList ∧
      (∀ line ∈ fedLines source.toList, IsClosed line) ∧
      source.toList.count '\n' < 4294967295 ∧
      session.stdout = "> IDENTIFIER a a\n> > > IDENTIFIER b b\n> " ∧
      script.stdout = "IDENTIFIER a a\nIDENTIFIER b b\n" ∧
      session.stderr = reported [⟨1, .unexpectedCharacter '€' 1⟩,
        ⟨1, .unexpectedCharacter '@' 0⟩, ⟨1, .unexpectedCharacter '§' 2⟩] ∧
      script.stderr = reported [⟨1, .unexpectedCharacter '€' 1⟩,
        ⟨3, .unexpectedCharacter '@' 7⟩, ⟨4, .unexpectedCharacter '§' 16⟩] ∧
      session.status = 0 ∧ script.status = 65 := by
  intro source input session script
  have fed : fedLines source.toList = ["a€\r\n", "\n", "@ // \"\n", "b §"] := by decide +kernel
  have closed : ∀ line ∈ fedLines source.toList, IsClosed line := by
    rw [fed]
    decide +kernel
  have bounded : source.toList.count '\n' < 4294967295 := by decide +kernel
  have valid : Utf8.decode input = .ok source.toList := Utf8.decode_encode source.toList
  obtain ⟨shown, listed', errors, places, -, fine, failed⟩ :=
    session_agrees_with_script (.ofLevel .warn) "a.lox" valid closed bounded
  obtain ⟨told, told'⟩ := errors Log.Filter.isSilent_warn
  rw [places] at told'
  rw [fed] at shown listed' told told' failed
  simp only [listed_eq] at shown listed'
  refine ⟨valid, closed, bounded, shown.trans ?_, listed'.trans ?_, told.trans ?_,
    told'.trans ?_, fine, failed.trans ?_⟩
  all_goals decide +kernel

end Command

end Lox
