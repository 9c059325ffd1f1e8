import Lox.Proofs.Recording
import Lox.Proofs.Sessions

namespace Lox

/-- Whether a result's record is shown depends on nothing but its level. -/
private theorem Log.Filter.admits_ofResult_congr (filter : Filter) {result result' : Result}
    (level : (Event.ofResult result).level = (Event.ofResult result').level) :
    filter.admits (.ofResult result) = filter.admits (.ofResult result') := by
  cases result with
  | token token =>
    cases result' with
    | token token' => rfl
    | error error' => cases level
  | error error =>
    cases result' with
    | token token' => cases level
    | error error' => rfl

/-- The line of an event in the log, if a filter shows it. -/
def Log.Filter.line (filter : Filter) (event : Event) : String :=
  if filter.admits event then event.text ++ "\n" else ""

namespace Command

/-- All that a run of a script may write, in order: its own record, and each result behind that of
the result. -/
def happenings (filename source : String) : List (Log.Event ⊕ Result) :=
  .inl (.scanningScript filename (Utf8.encode source.toList).length) :: recounted (scan source)

/-- What is written of it. -/
def shownAs (filter : Log.Filter) : Log.Event ⊕ Result → List Write
  | .inl event => logged filter event
  | .inr result => [Listing.record result]

/-- A run lists a script, and its log stands between: a record if the filter shows it, and right
behind the record of a result its token or error. Without the records the listing is left. -/
structure ListsWithLog (filter : Log.Filter) (filename source : String)
    (transcript : Transcript) : Prop where
  stdout : transcript.stdout = listed .out source
  status : transcript.status = if errorsOf source ≠ [] then 65 else 0
  writes : transcript.writes = (happenings filename source).flatMap (shownAs filter)
  listing : ∀ stream, textTo stream
    (((happenings filename source).filter Sum.isRight).flatMap (shownAs filter)) =
      listed stream source
  stderr : transcript.stderr =
    filter.line (.scanningScript filename (Utf8.encode source.toList).length) ++
      String.join ((scan source).map fun result =>
        filter.line (.ofResult result) ++ reported result.error?.toList)

private theorem loggedListing_eq (filter : Log.Filter) (results : List Result) :
    loggedListing filter results = (recounted results).flatMap (shownAs filter) := by
  rw [loggedListing, recounted, List.flatMap_assoc]
  simp [shownAs]

private theorem filter_isRight_recounted (results : List Result) :
    (recounted results).filter Sum.isRight = results.map .inr := by
  induction results with
  | nil => rfl
  | cons result results ih => exact congrArg (.inr result :: ·) ih

private theorem textTo_err_logged (filter : Log.Filter) (event : Log.Event) :
    textTo .err (logged filter event) = filter.line event := by
  rw [logged, Log.Filter.line]
  split
  · simp [textTo]
  · rfl

private theorem textTo_err_record (result : Result) :
    textTo .err [Listing.record result] = reported result.error?.toList := by
  cases result <;> rfl

private theorem textTo_err_loggedListing (filter : Log.Filter) (results : List Result) :
    textTo .err (loggedListing filter results) = String.join (results.map fun result =>
      filter.line (.ofResult result) ++ reported result.error?.toList) := by
  simp only [loggedListing, textTo_flatMap, textTo_append, textTo_err_logged, textTo_err_record]

private theorem runScript_listsWithLog (filter : Log.Filter) (filename source : String) :
    ListsWithLog filter filename source
      (runScript filter filename (.ok (Utf8.encode source.toList))) where
  stdout := stdout_runScript filter filename source
  status := by
    rw [status_runScript]
    simp only [any_isError_iff]
    rfl
  writes := by
    rw [runScript_encode, loggedListing_eq]
    rfl
  listing := by
    intro stream
    have only : ((recounted (scan source)).filter Sum.isRight).flatMap (shownAs filter) =
        Listing.records (scan source) := by
      rw [filter_isRight_recounted, List.flatMap_map]
      exact List.map_eq_flatMap.symm
    rw [happenings, List.filter_cons_of_neg Bool.false_ne_true, only, listed_eq]
  stderr := by
    rw [runScript_encode, Transcript.stderr, textTo_append, textTo_err_logged,
      textTo_err_loggedListing]

/-- A script is listed, and has its exit status, whatever its log shows. The log has a record of the
script, and in scan order one of each result, which comes right before the result's error and is
shown or not by its level alone. A pull makes a record just where it delivers a result, so that a
consumer of some results leaves the records of these, and a filter shows what it admits of them. -/
theorem script_log_stands_aside (filename source : String)
    (read : String → Except FileFault (List UInt8))
    (content : read filename = .ok (Utf8.encode source.toList)) :
    (∀ arguments arguments' debug debug' setting setting' input input',
      Arguments.parse arguments = .ok ⟨debug, some filename⟩ →
      Arguments.parse arguments' = .ok ⟨debug', some filename⟩ →
        let transcript := run arguments setting read input
        let transcript' := run arguments' setting' read input'
        transcript.stdout = transcript'.stdout ∧ transcript.status = transcript'.status) ∧
      (∀ arguments debug setting input, Arguments.parse arguments = .ok ⟨debug, some filename⟩ →
        ListsWithLog (filterOf ⟨debug, some filename⟩ setting) filename source
          (run arguments setting read input)) ∧
      (∀ (filter : Log.Filter) (result result' : Result),
        (Log.Event.ofResult result).level = (Log.Event.ofResult result').level →
          filter.admits (.ofResult result) = filter.admits (.ofResult result')) ∧
      (∀ bytes cursor, Recorder.Follows (Cursor.recordPull bytes cursor) (Cursor.pull bytes cursor)
        fun pulled => pulled.1.toList.map Log.Event.ofResult) ∧
      (source.toList.count '\n' < 4294967295 → ∀ (filter : Log.Filter) wanted happened cursor,
        Cursor.consume (Utf8.encode source.toList) Cursor.initial wanted = .ok (happened, cursor) →
          (happened.filterMap Sum.getLeft?).filter filter.admits =
            Log.shown filter ((Scanner.ofSource source).take wanted).1) ∧
      (source.toList.count '\n' < 4294967295 → ∀ wanted, ∃ cursor,
        Cursor.consume (Utf8.encode source.toList) Cursor.initial wanted =
          .ok (recounted ((scan source).take wanted), cursor)) := by
  have lists {arguments debug} (setting : Option String) (input : List UInt8)
      (parsed : Arguments.parse arguments = .ok ⟨debug, some filename⟩) :
      ListsWithLog (filterOf ⟨debug, some filename⟩ setting) filename source
        (run arguments setting read input) := by
    rw [run, parsed]
    simp only [content]
    exact runScript_listsWithLog _ _ _
  have consumes (bounded : source.toList.count '\n' < 4294967295) (wanted : Nat) :
      ∃ cursor, Cursor.consume (Utf8.encode source.toList) Cursor.initial wanted =
        .ok (recounted ((scan source).take wanted), cursor) := by
    rw [scan_eq_placed]
    exact (Cursor.stands_initial source).consume_eq bounded wanted
  refine ⟨?_, ?_, ?_, ?_, ?_, consumes⟩
  · intro arguments arguments' debug debug' setting setting' input input' parsed parsed'
    have here := lists setting input parsed
    have there := lists setting' input' parsed'
    exact ⟨here.stdout.trans there.stdout.symm, here.status.trans there.status.symm⟩
  · intro arguments debug setting input parsed
    exact lists setting input parsed
  · intro filter result result' level
    exact filter.admits_ofResult_congr level
  · intro bytes cursor
    exact Cursor.recordRun_follows bytes .head cursor
  · intro bounded filter wanted happened cursor found
    obtain ⟨cursor', consumed⟩ := consumes bounded wanted
    obtain ⟨rfl, -⟩ := Prod.mk.inj (Except.ok.inj (found.symm.trans consumed))
    rw [records_recounted, Scanner.take_ofSource]
    rfl

/-- A script is read and its token and its error are recorded where the flag asks for that. -/
theorem script_log_stands_aside_debug :
    let source := "a @"
    let bytes := Utf8.encode source.toList
    let read (name : String) : Except FileFault (List UInt8) :=
      if name = "a.lox" then .ok bytes else .error .notFound
    let quiet := run ["a.lox"] (some "warn") read []
    let debug := run ["-d", "a.lox"] none read []
    let token : Token := ⟨.identifier, "a", .identifier "a", 1⟩
    let error : LexicalError := ⟨1, .unexpectedCharacter '@' 2⟩
    read "a.lox" = .ok bytes ∧ Arguments.parse ["a.lox"] = .ok ⟨false, some "a.lox"⟩ ∧
      Arguments.parse ["-d", "a.lox"] = .ok ⟨true, some "a.lox"⟩ ∧
      source.toList.count '\n' < 4294967295 ∧
      quiet.stdout = debug.stdout ∧ quiet.status = debug.status ∧ debug.status = 65 ∧
      debug.writes = [⟨.err, "DEBUG scanlox: scanning script filename=\"a.lox\" bytes=3\n"⟩,
        ⟨.out, "IDENTIFIER a a\n"⟩,
        ⟨.err, (Log.Event.lexicalError error).text ++ "\n"⟩, ⟨.err, error.text ++ "\n"⟩] ∧
      ∃ cursor, Cursor.consume bytes Cursor.initial 1 =
        .ok ([.inl (.scannedToken token), .inr (.token token)], cursor) := by
  intro source bytes read quiet debug token error
  have content : read "a.lox" = .ok bytes := by decide +kernel
  have parsed : Arguments.parse ["a.lox"] = .ok ⟨false, some "a.lox"⟩ := by decide +kernel
  have parsed' : Arguments.parse ["-d", "a.lox"] = .ok ⟨true, some "a.lox"⟩ := by decide +kernel
  have bounded : source.toList.count '\n' < 4294967295 := by decide
  have first : (scan source).take 1 = [.token token] := by decide +kernel
  obtain ⟨same, lists, -, -, -, consumed⟩ :=
    script_log_stands_aside "a.lox" source read content
  obtain ⟨stdout, status⟩ := same _ _ _ _ (some "warn") none [] [] parsed parsed'
  have listed := lists _ _ none [] parsed'
  have consumed := consumed bounded 1
  rw [first] at consumed
  refine ⟨content, parsed, parsed', bounded, stdout, status, listed.status.trans ?_,
    listed.writes.trans ?_, consumed⟩
  · decide +kernel
  · decide +kernel

end Command

end Lox
