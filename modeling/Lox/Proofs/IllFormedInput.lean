import Lox.Proofs.Transcripts

namespace Lox

namespace Utf8

/-- The bytes encode some text. -/
def IsWellFormed (bytes : List UInt8) : Prop := ∃ text, bytes = encode text

private theorem isWellFormed_encode (text : List Char) : IsWellFormed (encode text) := ⟨text, rfl⟩

private theorem isWellFormed_of_decode {bytes : List UInt8} (decoded : decode bytes = .ok text) :
    IsWellFormed bytes := ⟨text, decode_eq_ok_iff.mp decoded⟩

private theorem exists_fault_iff {bytes : List UInt8} :
    (∃ fault, decode bytes = .error fault) ↔ ¬ IsWellFormed bytes := by
  constructor
  · rintro ⟨fault, faulty⟩ ⟨text, rfl⟩
    rw [decode_encode] at faulty
    cases faulty
  · intro ill
    cases decoded : decode bytes with
    | ok text => exact absurd (isWellFormed_of_decode decoded) ill
    | error fault => exact ⟨fault, rfl⟩

instance (bytes : List UInt8) : Decidable (IsWellFormed bytes) :=
  match decoded : decode bytes with
  | .ok _ => isTrue (isWellFormed_of_decode decoded)
  | .error fault => isFalse (exists_fault_iff.mp ⟨fault, decoded⟩)

private theorem isWellFormed_flatten {lines : List (List UInt8)}
    (each : ∀ line ∈ lines, IsWellFormed line) : IsWellFormed lines.flatten := by
  induction lines with
  | nil => exact ⟨[], rfl⟩
  | cons line lines ih =>
    obtain ⟨text, rfl⟩ := each line List.mem_cons_self
    obtain ⟨more, same⟩ := ih fun other member => each other (List.mem_cons_of_mem _ member)
    refine ⟨text ++ more, ?_⟩
    rw [List.flatten_cons, same, encode_append]

/-- Bytes are well-formed just when each of their lines is. -/
private theorem isWellFormed_iff_lines {bytes : List UInt8} :
    IsWellFormed bytes ↔ ∀ line ∈ splitAfter '\n'.toUInt8 bytes, IsWellFormed line := by
  constructor
  · rintro ⟨text, rfl⟩ line member
    rw [splitAfter_encode] at member
    obtain ⟨fed, -, rfl⟩ := List.mem_map.mp member
    exact isWellFormed_encode _
  · intro each
    have whole : (splitAfter '\n'.toUInt8 bytes).flatten = bytes := flatten_splitAfter bytes
    rw [← whole]
    exact isWellFormed_flatten each

private theorem isWellFormed_append_feed {front back : List UInt8} :
    IsWellFormed (front ++ '\n'.toUInt8 :: back) ↔
      IsWellFormed (front ++ ['\n'.toUInt8]) ∧ IsWellFormed back := by
  rw [isWellFormed_iff_lines, splitAfter_append, List.forall_mem_append,
    ← isWellFormed_iff_lines, ← isWellFormed_iff_lines]

/-- Of lines that are not all well-formed, some come before the first that is not. -/
private theorem exists_first_illFormed_line {lines : List (List UInt8)}
    (ill : ¬ ∀ line ∈ lines, IsWellFormed line) :
    ∃ (good : List String) (bad : List UInt8) (rest : List (List UInt8)),
      lines = (good.map fun line => encode line.toList) ++ bad :: rest ∧ ¬ IsWellFormed bad := by
  induction lines with
  | nil => exact absurd (List.forall_mem_nil _) ill
  | cons line lines ih =>
    by_cases wellFormed : IsWellFormed line
    · obtain ⟨text, rfl⟩ := wellFormed
      have later : ¬ ∀ line ∈ lines, IsWellFormed line := by
        intro each
        apply ill
        exact List.forall_mem_cons.mpr ⟨isWellFormed_encode text, each⟩
      obtain ⟨good, bad, rest, same, illFormed⟩ := ih later
      refine ⟨String.ofList text :: good, bad, rest, ?_, illFormed⟩
      rw [List.map_cons, String.toList_ofList, List.cons_append, ← same]
    · exact ⟨[], line, lines, rfl, wellFormed⟩

private theorem exists_first_illFormed {bytes : List UInt8} (ill : ¬ IsWellFormed bytes) :
    ∃ (good : List String) (bad : List UInt8) (rest : List (List UInt8)),
      splitAfter '\n'.toUInt8 bytes = (good.map fun line => encode line.toList) ++ bad :: rest ∧
        ¬ IsWellFormed bad := by
  rw [isWellFormed_iff_lines] at ill
  exact exists_first_illFormed_line ill

end Utf8

namespace Command

open Utf8 (IsWellFormed)

/-- A line that is not well-formed ends a session behind its prompt. -/
private theorem runLines_illFormed (filter : Log.Filter) {line : List UInt8}
    (ill : ¬ IsWellFormed line) (rest : List (List UInt8)) :
    runLines filter [] (line :: rest) = ⟨[prompt, Failure.invalidStream.write], 1⟩ := by
  obtain ⟨fault, faulty⟩ := Utf8.exists_fault_iff.mpr ill
  rw [runLines, reply, faulty]
  rfl

/-- A script that is not well-formed writes what is wrong with it and nothing else. -/
private theorem runScript_eq_iff_illFormed (filter : Log.Filter) (filename : String)
    (content : List UInt8) :
    (∃ fault, Utf8.decode content = .error fault ∧ runScript filter filename (.ok content) =
      ⟨[(Failure.notUtf8 content fault).write], 1⟩) ↔ ¬ IsWellFormed content := by
  constructor
  · rintro ⟨fault, faulty, -⟩
    exact Utf8.exists_fault_iff.mp ⟨fault, faulty⟩
  · intro ill
    obtain ⟨fault, faulty⟩ := Utf8.exists_fault_iff.mpr ill
    refine ⟨fault, faulty, ?_⟩
    rw [runScript, faulty]

/-- A session fails just when its input as a whole is not well-formed. -/
private theorem status_runSession (filter : Log.Filter) (content : List UInt8) :
    (runSession filter content).status = if IsWellFormed content then 0 else 1 := by
  by_cases wellFormed : IsWellFormed content
  · rw [if_pos wellFormed]
    obtain ⟨text, rfl⟩ := wellFormed
    rw [runSession_encode]
  · rw [if_neg wellFormed]
    obtain ⟨good, bad, rest, same, ill⟩ := Utf8.exists_first_illFormed wellFormed
    rw [runSession, same, runLines_append, runLines_illFormed filter ill]

/-- What a session has written when it comes to a line that is not well-formed. -/
structure BreaksOff (filter : Log.Filter) (session : Transcript) (good : List String) : Prop where
  writes : session.writes = good.flatMap (answer filter) ++ [prompt, Failure.invalidStream.write]
  stdout : session.stdout = String.join (good.map fun line => "> " ++ listed .out line) ++ "> "
  stderr : filter.IsSilent → session.stderr =
    String.join (good.map (listed .err)) ++ Failure.invalidStream.write.text

private theorem breaksOff_runSession (filter : Log.Filter) {content bad : List UInt8}
    {good : List String} {rest : List (List UInt8)}
    (same : splitAfter '\n'.toUInt8 content =
      (good.map fun line => Utf8.encode line.toList) ++ bad :: rest)
    (ill : ¬ IsWellFormed bad) : BreaksOff filter (runSession filter content) good := by
  have writes : (runSession filter content).writes =
      good.flatMap (answer filter) ++ [prompt, Failure.invalidStream.write] := by
    rw [runSession, same, runLines_append, runLines_illFormed filter ill]
  refine ⟨writes, ?_, ?_⟩
  · rw [Transcript.stdout, writes, textTo_append, textTo_flatMap]
    simp only [textTo_out_answer]
    rfl
  · intro silent
    rw [Transcript.stderr, writes, textTo_append, textTo_flatMap]
    simp only [textTo_err_answer silent]
    rfl

/-- Well-formed lines are answered, and what follows goes on as in a session of its own. -/
private theorem runSession_append_feed (filter : Log.Filter) {front : List UInt8}
    (wellFormed : IsWellFormed (front ++ ['\n'.toUInt8])) (back : List UInt8) :
    ∃ answers, runSession filter (front ++ ['\n'.toUInt8]) = ⟨answers ++ [prompt], 0⟩ ∧
      runSession filter (front ++ '\n'.toUInt8 :: back) =
        { writes := answers ++ (runSession filter back).writes
          status := (runSession filter back).status } := by
  obtain ⟨text, same⟩ := wellFormed
  refine ⟨(fedLines text).flatMap (answer filter), ?_, ?_⟩
  · rw [same, runSession_encode]
  · rw [runSession, splitAfter_append, same, splitAfter_encode, runLines_append]
    rfl

/-- Input that is not well-formed. A session fails just when its input as a whole is not
well-formed, and so does a script with that content. The script writes only what is wrong. The
session has answered the lines before the first one that is not well-formed, each as a run of that
line does, and has written one more prompt. Nothing is carried over from line to line: a session
whose input goes on behind a line feed goes on as a session of the rest. -/
theorem ill_formed_input_breaks_off (filter : Log.Filter) (filename : String)
    (content : List UInt8) :
    let session := runSession filter content
    let script := runScript filter filename (.ok content)
    (session.status = 1 ↔ ¬ IsWellFormed content) ∧
      ((∃ fault, Utf8.decode content = .error fault ∧
        script = ⟨[(Failure.notUtf8 content fault).write], 1⟩) ↔ ¬ IsWellFormed content) ∧
      (¬ IsWellFormed content → script.stdout = "" ∧ ∃ good bad rest,
        splitAfter '\n'.toUInt8 content =
          (good.map fun line => Utf8.encode (String.toList line)) ++ bad :: rest ∧
        ¬ IsWellFormed bad ∧ BreaksOff filter session good) ∧
      (∀ front back, content = front ++ '\n'.toUInt8 :: back → IsWellFormed content →
        ∃ shown, (runSession filter (front ++ ['\n'.toUInt8])).stdout = shown ++ "> " ∧
          session.stdout = shown ++ (runSession filter back).stdout) := by
  intro session script
  refine ⟨?_, runScript_eq_iff_illFormed filter filename content, ?_, ?_⟩
  · have status : session.status = if IsWellFormed content then 0 else 1 :=
      status_runSession filter content
    by_cases wellFormed : IsWellFormed content <;> simp [status, wellFormed]
  · intro ill
    obtain ⟨fault, -, only⟩ := (runScript_eq_iff_illFormed filter filename content).mpr ill
    obtain ⟨good, bad, rest, same, illFormed⟩ := Utf8.exists_first_illFormed ill
    exact ⟨congrArg Transcript.stdout only, good, bad, rest, same, illFormed,
      breaksOff_runSession filter same illFormed⟩
  · rintro front back rfl wellFormed
    obtain ⟨answers, closed, goesOn⟩ := runSession_append_feed filter
      (Utf8.isWellFormed_append_feed.mp wellFormed).1 back
    refine ⟨textTo .out answers, ?_, ?_⟩
    · rw [closed]
      exact textTo_append .out answers [prompt]
    · simp only [session, goesOn]
      exact textTo_append .out answers _

/-- The second line ends inside a character, and the line feed does not complete it. The first line
has been answered, and the third, which is well-formed, has not. -/
theorem ill_formed_input_breaks_off_inside_character :
    let content : List UInt8 := [0x61, 0x40, 0x0A, 0x62, 0xE2, 0x82, 0x0A, 0x63]
    let filter := Log.Filter.ofLevel .warn
    let session := runSession filter content
    let script := runScript filter "a.lox" (.ok content)
    ¬ IsWellFormed content ∧ session.status = 1 ∧ script.status = 1 ∧ script.stdout = "" ∧
      session.stdout = "> IDENTIFIER a a\n> " ∧
      (∃ good bad rest, splitAfter '\n'.toUInt8 content =
          (good.map fun line => Utf8.encode (String.toList line)) ++ bad :: rest ∧
        ¬ IsWellFormed bad ∧ BreaksOff filter session good) ∧
      ∃ shown, (runSession filter [0x61, 0x40, 0x0A]).stdout = shown ++ "> " ∧
        (runSession filter [0x61, 0x40, 0x0A, 0x63]).stdout =
          shown ++ (runSession filter [0x63]).stdout := by
  intro content filter session script
  have ill : ¬ IsWellFormed content := by decide +kernel
  have wellFormed : IsWellFormed [0x61, 0x40, 0x0A, 0x63] := by decide +kernel
  obtain ⟨status, faulty, breaks, -⟩ := ill_formed_input_breaks_off filter "a.lox" content
  obtain ⟨fault, -, only⟩ := faulty.mpr ill
  obtain ⟨nothing, first⟩ := breaks ill
  obtain ⟨-, -, -, goesOn⟩ :=
    ill_formed_input_breaks_off filter "a.lox" [0x61, 0x40, 0x0A, 0x63]
  refine ⟨ill, status.mpr ill, congrArg Transcript.status only, nothing, by decide +kernel, first,
    ?_⟩
  exact goesOn [0x61, 0x40] [0x63] rfl wellFormed

end Command

end Lox
