import Lox.Proofs.Results

namespace Lox

/-- The same fault behind some more bytes. Only a stray character is told by its place. -/
def LexicalError.Cause.moved (bytes : Nat) : Cause → Cause
  | unexpectedCharacter character offset => unexpectedCharacter character (offset + bytes)
  | cause => cause

/-- The same error behind some more bytes and line feeds. -/
def LexicalError.moved (bytes lines : Nat) (error : LexicalError) : LexicalError :=
  ⟨error.line + UInt32.ofNat lines, error.cause.moved bytes⟩

namespace Result

/-- The same result behind some more bytes and line feeds. -/
def moved (bytes lines : Nat) : Result → Result
  | token t => token { t with line := t.line + UInt32.ofNat lines }
  | error e => error (e.moved bytes lines)

private theorem line_moved (bytes lines : Nat) (result : Result) :
    (result.moved bytes lines).line = result.line + UInt32.ofNat lines := by
  cases result <;> rfl

theorem moved_zero (result : Result) : result.moved 0 0 = result := by
  cases result with
  | token t => simp [moved]
  | error e =>
    obtain ⟨line, cause⟩ := e
    cases cause <;> simp [moved, LexicalError.moved, LexicalError.Cause.moved]

theorem moved_moved (bytes lines bytes' lines' : Nat) (result : Result) :
    (result.moved bytes lines).moved bytes' lines' =
      result.moved (bytes' + bytes) (lines' + lines) := by
  have sum (line : UInt32) : line + UInt32.ofNat lines + UInt32.ofNat lines' =
      line + UInt32.ofNat (lines' + lines) := by
    rw [UInt32.add_assoc, ← UInt32.ofNat_add, Nat.add_comm]
  cases result with
  | token t => simp only [moved, sum]
  | error e =>
    obtain ⟨line, cause⟩ := e
    cases cause <;> simp only [moved, LexicalError.moved, LexicalError.Cause.moved, sum,
      Nat.add_assoc, Nat.add_comm bytes]

theorem error?_moved (bytes lines : Nat) (result : Result) :
    (result.moved bytes lines).error? = result.error?.map (LexicalError.moved bytes lines) := by
  cases result <;> rfl

end Result

/-- A unit delivers the same wherever it stands, but for its place. -/
private theorem Segment.result?_moved (unit : Segment) (offset bytes lines : Nat) (line : UInt32) :
    unit.result? (offset + bytes) (line + UInt32.ofNat lines) =
      (unit.result? offset line).map (Result.moved bytes lines) := by
  obtain ⟨shape, text⟩ := unit
  cases shape with
  | word =>
    simp only [result?]
    split <;> rfl
  | stray => cases text <;> rfl
  | _ => rfl

private theorem placed_moved (offset bytes lines : Nat) (line : UInt32) (units : List Segment) :
    placed (offset + bytes) (line + UInt32.ofNat lines) units =
      (placed offset line units).map (Result.moved bytes lines) := by
  induction units generalizing offset line with
  | nil => rfl
  | cons unit units ih =>
    have bytes' : offset + bytes + Utf8.size unit.text = offset + Utf8.size unit.text + bytes := by
      omega
    have lines' : line + UInt32.ofNat lines + feeds unit.text =
        line + feeds unit.text + UInt32.ofNat lines := by
      rw [UInt32.add_assoc, UInt32.add_comm (UInt32.ofNat lines), ← UInt32.add_assoc]
    rw [placed, placed, bytes', lines', unit.result?_moved, ih, List.map_append,
      Option.toList_map]

/-- The units of a text that stands behind another one deliver what a scan of it alone delivers,
moved on. -/
theorem placed_behind (before text : List Char) :
    placed (Utf8.size before) (1 + feeds before) (segments text) =
      (scan (String.ofList text)).map (Result.moved (Utf8.size before) (before.count '\n')) := by
  rw [scan_eq_placed, String.toList_ofList, ← placed_moved, Nat.zero_add]
  rfl

/-- Texts that are cut apart are scanned apart. -/
theorem scan_append_of_cut {front back : List Char}
    (cut : segments (front ++ back) = segments front ++ segments back) :
    scan (String.ofList (front ++ back)) = scan (String.ofList front) ++
      (scan (String.ofList back)).map (Result.moved (Utf8.size front) (front.count '\n')) := by
  rw [scan_eq_placed, String.toList_ofList, cut, placed_append, joined_segments, Nat.zero_add,
    placed_behind, scan_eq_placed (String.ofList front), String.toList_ofList]

private theorem Segment.line_of_result? {unit : Segment}
    (found : unit.result? offset line = some result) : result.line = line := by
  obtain ⟨shape, text⟩ := unit
  cases shape with
  | blank | lineComment | blockComment => simp [result?] at found
  | word =>
    simp only [result?] at found
    split at found <;> exact Option.some.inj found ▸ rfl
  | stray =>
    cases text with
    | nil => simp [result?] at found
    | cons c text => exact Option.some.inj found ▸ rfl
  | _ => exact Option.some.inj found ▸ rfl

/-- A result has the line that some beginning of the text ends on. -/
private theorem exists_line_of_mem_placed (member : result ∈ placed offset line units) :
    ∃ read, read <+: Segment.joined units ∧ result.line = line + feeds read := by
  obtain ⟨front, unit, back, rfl, found⟩ := mem_placed_iff.mp member
  refine ⟨Segment.joined front ++ unit.text, by simp, ?_⟩
  rw [unit.line_of_result? found, feeds_append, UInt32.add_assoc]

theorem Result.toNat_line_moved {before text : List Char}
    (member : result ∈ scan (String.ofList text))
    (bounded : (before ++ text).count '\n' < 4294967295) (bytes : Nat) :
    (result.moved bytes (before.count '\n')).line.toNat =
      result.line.toNat + before.count '\n' := by
  rw [scan_eq_placed, String.toList_ofList] at member
  obtain ⟨read, start, same⟩ := exists_line_of_mem_placed member
  rw [joined_segments] at start
  have fewer : read.count '\n' ≤ text.count '\n' := start.sublist.count_le '\n'
  rw [List.count_append] at bounded
  rw [line_moved, same, UInt32.toNat_add, UInt32.toNat_ofNat', toNat_line (by omega)]
  omega

end Lox
