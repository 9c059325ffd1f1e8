import Lox.Command.Program
import Lox.Proofs.Lines
import Lox.Proofs.Listed

namespace Lox

/-- A filter that shows no record. -/
def Log.Filter.IsSilent (filter : Log.Filter) : Prop := ∀ event, filter.admits event = false

/-- A level alone admits what is no finer. -/
private theorem Log.Filter.admits_ofLevel (level : Level) (event : Event) :
    (ofLevel level).admits event ↔ event.level.verbosity ≤ level.verbosity := by
  have deciding : (ofLevel level).deciding? event = some ⟨none, none, none, level.verbosity⟩ := rfl
  rw [admits, deciding]
  exact decide_eq_true_iff

/-- No event is as severe as a warning. -/
theorem Log.Filter.isSilent_warn : IsSilent (ofLevel .warn) := by
  intro event
  rw [Bool.eq_false_iff, ne_eq, admits_ofLevel]
  cases event <;> simp [Event.level, Level.verbosity]

/-- The lines of a text as a session is fed them, each with its line feed. -/
def fedLines (text : List Char) : List String := (splitAfter '\n' text).map String.ofList

theorem fedLines_nil : fedLines [] = [] := rfl

theorem fedLines_last {run : List Char} (absent : '\n' ∉ run) (nonempty : run ≠ []) :
    fedLines run = [String.ofList run] := by
  rw [fedLines, splitAfter_last absent nonempty]
  rfl

theorem fedLines_append {run : List Char} (absent : '\n' ∉ run) (text : List Char) :
    fedLines (run ++ '\n' :: text) = String.ofList (run ++ ['\n']) :: fedLines text := by
  rw [fedLines, splitAfter_append, splitAfter_run absent]
  rfl

/-- Cutting the bytes of a text into lines is cutting the text. -/
theorem splitAfter_encode (text : List Char) :
    splitAfter '\n'.toUInt8 (Utf8.encode text) =
      (fedLines text).map fun line => Utf8.encode line.toList := by
  have feed (more : List Char) : Utf8.encode ('\n' :: more) =
      '\n'.toUInt8 :: Utf8.encode more := rfl
  have noFeed {run : List Char} (absent : '\n' ∉ run) : '\n'.toUInt8 ∉ Utf8.encode run := by
    rwa [Utf8.mem_encode_iff (by decide)]
  induction text using pieces_induction '\n' with
  | nil => rfl
  | last run absent nonempty =>
    rw [splitAfter_last (noFeed absent) (Utf8.encode_ne_nil nonempty),
      fedLines_last absent nonempty, List.map_singleton, String.toList_ofList]
  | piece run text absent ih =>
    rw [Utf8.encode_append, feed, splitAfter_append,
      splitAfter_run (noFeed absent), ih, fedLines_append absent, List.map_cons,
      String.toList_ofList, Utf8.encode_append]
    rfl

namespace Command

variable {filter : Log.Filter}

/-- Where the environment sets no filter that is well-formed, the arguments ask for a level. -/
theorem admits_filterOf {setting : Option String} (unset : setting.bind Log.Filter.parse? = none)
    (arguments : Arguments) (event : Log.Event) : (filterOf arguments setting).admits event ↔
      event.level.verbosity ≤ (if arguments.debug then Log.Level.debug else .warn).verbosity := by
  rw [filterOf, unset, Option.getD_none, Log.Filter.admits_ofLevel]

/-- A filter that the environment sets is the filter of the run, whatever the arguments ask for. -/
theorem filterOf_of_parse {setting : String} (wellFormed : Log.Filter.parse? setting = some filter)
    (arguments : Arguments) : filterOf arguments setting = filter := by
  rw [filterOf, Option.bind_some, wellFormed, Option.getD_some]

/-- Nothing is logged unless the arguments or the environment ask for it. -/
theorem isSilent_filterOf {arguments : Arguments} {setting : Option String}
    (unset : setting.bind Log.Filter.parse? = none) (quiet : arguments.debug = false) :
    (filterOf arguments setting).IsSilent := by
  rw [filterOf, unset, quiet]
  exact Log.Filter.isSilent_warn

private theorem logged_of_isSilent (silent : filter.IsSilent) (event : Log.Event) :
    logged filter event = [] := by
  rw [logged, silent]
  rfl

private theorem textTo_out_logged (filter : Log.Filter) (event : Log.Event) :
    textTo .out (logged filter event) = "" := by
  rw [logged]
  split <;> rfl

private theorem loggedListing_of_isSilent (silent : filter.IsSilent) (results : List Result) :
    loggedListing filter results = Listing.records results := by
  simp only [loggedListing, logged_of_isSilent silent, List.nil_append]
  exact List.map_eq_flatMap.symm

private theorem textTo_out_loggedListing (filter : Log.Filter) (results : List Result) :
    textTo .out (loggedListing filter results) = textTo .out (Listing.records results) := by
  simp only [Listing.records, List.map_eq_flatMap, loggedListing, textTo_flatMap, textTo_append,
    textTo_out_logged, String.empty_append]

theorem runScript_encode (filter : Log.Filter) (filename source : String) :
    runScript filter filename (.ok (Utf8.encode source.toList)) =
      { writes := logged filter (.scanningScript filename (Utf8.encode source.toList).length) ++
          loggedListing filter (scan source)
        status := if (scan source).any Result.isError then dataError else 0 } := by
  rw [runScript, Utf8.decode_encode]
  simp only [String.ofList_toList]

theorem status_runScript (filter : Log.Filter) (filename source : String) :
    (runScript filter filename (.ok (Utf8.encode source.toList))).status =
      if (scan source).any Result.isError then dataError else 0 :=
  congrArg Transcript.status (runScript_encode filter filename source)

theorem stdout_runScript (filter : Log.Filter) (filename source : String) :
    (runScript filter filename (.ok (Utf8.encode source.toList))).stdout = listed .out source := by
  rw [runScript_encode, Transcript.stdout, textTo_append, textTo_out_logged,
    textTo_out_loggedListing, String.empty_append, listed_eq]

theorem writes_runScript (silent : filter.IsSilent) (filename source : String) :
    (runScript filter filename (.ok (Utf8.encode source.toList))).writes =
      Listing.records (scan source) := by
  rw [runScript_encode, logged_of_isSilent silent, loggedListing_of_isSilent silent]
  rfl

private theorem reply_encode (filter : Log.Filter) (line : String) :
    reply filter (Utf8.encode line.toList) = .ok (loggedListing filter (scan line)) := by
  rw [reply, Utf8.decode_encode]
  simp only [String.ofList_toList]

/-- What a session writes for one line: the prompt before it and its listing. -/
def answer (filter : Log.Filter) (line : String) : List Write :=
  prompt :: loggedListing filter (scan line)

theorem textTo_out_answer (filter : Log.Filter) (line : String) :
    textTo .out (answer filter line) = "> " ++ listed .out line := by
  rw [listed_eq, ← textTo_out_loggedListing filter]
  exact textTo_append .out [prompt] _

theorem textTo_err_answer (silent : filter.IsSilent) (line : String) :
    textTo .err (answer filter line) = listed .err line := by
  rw [listed_eq, answer, loggedListing_of_isSilent silent]
  rfl

private theorem runLines_written (filter : Log.Filter) (written : List (List Write))
    (lines : List (List UInt8)) : runLines filter written lines =
      { writes := written.reverse.flatten ++ (runLines filter [] lines).writes
        status := (runLines filter [] lines).status } := by
  induction lines generalizing written with
  | nil => simp [runLines]
  | cons line lines ih =>
    rw [runLines, runLines]
    cases reply filter line with
    | error failure => simp
    | ok writes =>
      dsimp only
      rw [ih, ih [_]]
      simp

/-- Lines that are well-formed are answered one by one, and leave nothing behind for the lines that
follow. -/
theorem runLines_append (filter : Log.Filter) (good : List String) (rest : List (List UInt8)) :
    runLines filter [] ((good.map fun line => Utf8.encode line.toList) ++ rest) =
      { writes := good.flatMap (answer filter) ++ (runLines filter [] rest).writes
        status := (runLines filter [] rest).status } := by
  induction good with
  | nil => rfl
  | cons line good ih =>
    rw [List.map_cons, List.cons_append, runLines, reply_encode]
    dsimp only
    rw [runLines_written, ih, List.flatMap_cons, List.append_assoc]
    simp [answer]

theorem runSession_encode (filter : Log.Filter) (text : List Char) :
    runSession filter (Utf8.encode text) =
      { writes := (fedLines text).flatMap (answer filter) ++ [prompt]
        status := 0 } := by
  have all := runLines_append filter (fedLines text) []
  rw [List.append_nil] at all
  rw [runSession, splitAfter_encode, all]
  rfl

theorem stdout_runSession (filter : Log.Filter) (text : List Char) :
    (runSession filter (Utf8.encode text)).stdout =
      String.join ((fedLines text).map fun line => "> " ++ listed .out line) ++ "> " := by
  rw [runSession_encode, Transcript.stdout, textTo_append, textTo_flatMap]
  simp only [textTo_out_answer]
  rfl

theorem stderr_runSession (silent : filter.IsSilent) (text : List Char) :
    (runSession filter (Utf8.encode text)).stderr =
      String.join ((fedLines text).map (listed .err)) := by
  rw [runSession_encode, Transcript.stderr, textTo_append, textTo_flatMap]
  simp only [textTo_err_answer silent]
  exact String.append_empty

end Command

end Lox
