import Lox.Proofs.Closed
import Lox.Proofs.Lookahead
import Lox.Proofs.Moved
import Lox.Proofs.Spacing

namespace Lox

/-- No other text that is closed may go on over a line's end. -/
theorem Shape.Admits.shape_of_feed (admits : Shape.Admits shape text) (feed : '\n' ∈ text) :
    shape = .blank ∨ shape = .blockComment ∨ shape = .string ∨ shape = .openComment ∨
      shape = .openString := by
  cases admits with
  | blank | blockComment | string | openComment | openString => simp
  | lineComment noFeed => simp [noFeed] at feed
  | whole nonempty numeric => exact absurd (numeric _ feed) (by decide)
  | fractional nonempty numeric nonempty' numeric' =>
    rcases List.mem_append.mp feed with whole | behind
    · exact absurd (numeric _ whole) (by decide)
    · rcases List.mem_cons.mp behind with point | decimal
      · simp at point
      · exact absurd (numeric' _ decimal) (by decide)
  | word start parts =>
    rcases List.mem_cons.mp feed with rfl | part
    · exact absurd start (by decide)
    · exact absurd (parts _ part) (by decide)
  | mark member =>
    have none : ∀ entry ∈ markTexts, '\n' ∉ entry.1 := by decide
    exact absurd feed (none _ member)

namespace Segment

theorem IsUnit.shape_of_feed {unit : Segment} (isUnit : unit.IsUnit) (feed : '\n' ∈ unit.text) :
    unit.shape = .blank ∨ unit.shape = .blockComment ∨ unit.shape = .string ∨
      unit.shape = .openComment ∨ unit.shape = .openString := by
  rcases isUnit with admits | ⟨c, stray, rfl⟩
  · exact admits.shape_of_feed feed
  · exact absurd (List.mem_singleton.mp feed).symm stray.ne_feed

/-- A closed unit with a line feed in it looks at nothing that comes behind it. -/
private theorem IsUnit.begins_of_feed {unit : Segment} (isUnit : unit.IsUnit)
    (closed : ¬ unit.IsOpen) (feed : '\n' ∈ unit.text) (rest : List Char) : unit.Begins rest := by
  rw [IsOpen, not_or] at closed
  obtain ⟨notComment, notString⟩ := closed
  refine ⟨isUnit, ?_, ?_⟩
  · rcases isUnit.shape_of_feed feed with shape | shape | shape | shape | shape
    · simp [Reaches, shape]
    · simp [Reaches, shape]
    · simp [Reaches, shape]
    · exact absurd shape notComment
    · exact absurd shape notString
  · rcases isUnit.shape_of_feed feed with shape | shape | shape | shape | shape <;>
      simp [Stops, shape]

end Segment

/-- A text that ends with a line feed and leaves no unit open is cut off from what is written behind
it: even a unit that goes over the line feed ends with it. -/
theorem segments_append_of_feed (front back : List Char)
    (closed : ∀ unit ∈ segments (front ++ ['\n']), ¬ unit.IsOpen) :
    segments (front ++ ['\n'] ++ back) = segments (front ++ ['\n']) ++ segments back := by
  generalize ends : front ++ ['\n'] = text at closed ⊢
  induction text using units_induction generalizing front with
  | nil => simp at ends
  | unit unit rest begins ih =>
    rw [segments_begins begins] at closed
    have here := closed unit (by simp)
    rcases List.eq_nil_or_concat rest with rfl | ⟨before, last, rfl⟩
    · rw [List.append_nil] at ends ⊢
      have feed : '\n' ∈ unit.text := by simp [← ends]
      have alone := begins.isUnit.begins_of_feed here feed
      rw [segments_begins (alone back), segments_alone (alone []), List.singleton_append]
    · rw [List.concat_eq_append] at ends begins ih closed ⊢
      rw [← List.append_assoc] at ends
      obtain ⟨-, feed⟩ := List.append_inj' ends rfl
      obtain rfl : '\n' = last := by simpa using feed
      have settled : ¬ unit.AwaitsDigit (before ++ ['\n']) := by
        rintro ⟨-, -, point⟩
        have digit := congrArg List.getLast? point
        simp at digit
      have begins' := begins.append (by simp) settled back
      have later := ih before rfl fun other member => closed other (by simp [member])
      rw [List.append_assoc, segments_begins begins', later, segments_begins begins,
        List.cons_append]

/-- What is pulled last leaves the scanner on the last line. -/
private theorem Scanner.line_drain (source : String) :
    (ofSource source).drain.2.line = 1 + feeds source.toList := by
  rw [drain_eq]
  rfl

/-- A line feed between two sources turns into nothing but a place: the results are those of the
first, if that leaves nothing open, and then those of the second, each with its line moved on by the
line feeds before it and its offset by the bytes. The scanner ends on the last line. -/
theorem scan_append_feed (front back : String) (closed : IsClosed front)
    (bounded : (front ++ "\n" ++ back).toList.count '\n' < 4294967295) :
    let bytes := Utf8.size front.toList + 1
    let lines := front.toList.count '\n' + 1
    scan (front ++ "\n" ++ back) = scan front ++ (scan back).map (Result.moved bytes lines) ∧
      (∀ result ∈ scan back,
        (result.moved bytes lines).line.toNat = result.line.toNat + lines) ∧
      (Scanner.ofSource (front ++ "\n" ++ back)).drain.2.line.toNat =
        1 + (front ++ "\n" ++ back).toList.count '\n' := by
  intro bytes lines
  have text : (front ++ "\n" ++ back).toList = front.toList ++ ['\n'] ++ back.toList := by simp
  have size : Utf8.size (front.toList ++ ['\n']) = bytes := by
    rw [Utf8.size_append]
    rfl
  have count : (front.toList ++ ['\n']).count '\n' = lines := by simp [lines]
  refine ⟨?_, ?_, ?_⟩
  · have cut := segments_append_feed front.toList back.toList closed.not_isOpen
    have feed : Trivia ['\n'] := .blank (by simp) .nil
    have skipped := feed.placed_append (Utf8.size front.toList) (1 + feeds front.toList) back.toList
    rw [UInt32.add_assoc, ← feeds_append, ← Utf8.size_append,
      placed_behind (front.toList ++ ['\n']), size, count, String.ofList_toList] at skipped
    rw [scan_eq_placed, text, List.append_assoc, List.singleton_append, cut, placed_append,
      joined_segments, ← scan_eq_placed, Nat.zero_add]
    exact congrArg (scan front ++ ·) skipped
  · intro result member
    rw [text] at bounded
    have moved := Result.toNat_line_moved (by rwa [String.ofList_toList]) bounded bytes
    rwa [count] at moved
  · rw [Scanner.line_drain, toNat_line bounded]

/-- A digit behind the line feed does not go on with the number and the point in front of it. -/
theorem scan_append_feed_behind_point :
    let front := "é\n1."
    let back := "5 @"
    IsClosed front ∧ (front ++ "\n" ++ back).toList.count '\n' < 4294967295 ∧
      scan (front ++ "\n" ++ back) = scan front ++
        [.token ⟨.number, "5", .number ⟨0x4014000000000000⟩, 3⟩,
          .error ⟨3, .unexpectedCharacter '@' 8⟩] ∧
      (Scanner.ofSource (front ++ "\n" ++ back)).drain.2.line.toNat = 3 := by
  intro front back
  have closed : IsClosed front := by decide +kernel
  have bounded : (front ++ "\n" ++ back).toList.count '\n' < 4294967295 := by decide +kernel
  have moved : (scan back).map
      (Result.moved (Utf8.size front.toList + 1) (front.toList.count '\n' + 1)) =
        [.token ⟨.number, "5", .number ⟨0x4014000000000000⟩, 3⟩,
          .error ⟨3, .unexpectedCharacter '@' 8⟩] := by decide +kernel
  have total : (front ++ "\n" ++ back).toList.count '\n' = 2 := by decide +kernel
  obtain ⟨results, -, last⟩ := scan_append_feed front back closed bounded
  rw [moved] at results
  rw [total] at last
  exact ⟨closed, bounded, results, last⟩

end Lox
