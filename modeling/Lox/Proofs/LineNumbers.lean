import Lox.Proofs.Resumption

namespace Lox

/-- The line of a result by the line feeds of its source, `rest` of which is left behind the result.
A token and a stray character stand in front of that rest. What is never closed leaves none. -/
def Result.IsCounted (source rest : List Char) : Result → Prop
  | .token ⟨_, lexeme, _, line⟩ => ∃ before, source = before ++ lexeme.toList ++ rest ∧
      line.toNat = 1 + (before ++ lexeme.toList).count '\n'
  | .error ⟨line, .unexpectedCharacter c offset⟩ => ∃ before, source = before ++ c :: rest ∧
      offset = Utf8.size before ∧ line.toNat = 1 + before.count '\n'
  | .error ⟨line, .unterminatedString⟩ | .error ⟨line, .unterminatedComment⟩ =>
      rest = [] ∧ line.toNat = 1 + source.count '\n'
  | .error ⟨_, .invalidNumber _⟩ => False

private theorem Delivers.line_eq (delivers : Delivers unit offset line result) :
    result.line = line := by
  cases delivers <;> rfl

/-- What a unit delivers on the line that it ends on is counted. -/
private theorem Delivers.isCounted (delivers : Delivers unit (Utf8.size before) line result)
    (begins : unit.Begins rest)
    (counted : line.toNat = 1 + (before ++ unit.text).count '\n') :
    result.IsCounted (before ++ unit.text ++ rest) rest := by
  cases delivers with
  | openString text | openComment text =>
    obtain rfl : rest = [] := begins.reaches
    exact ⟨rfl, by rw [List.append_nil, counted]⟩
  | stray c =>
    have other := begins.isUnit.isStray.ne_feed
    refine ⟨before, by simp, rfl, ?_⟩
    simpa [List.count_append, List.count_cons, other] using counted
  | _ => exact ⟨before, by simp, by simpa using counted⟩

namespace Scanner

/-- A pull delivers the first result that is left, if there is one. -/
theorem next_eq_head? (scanner : Scanner) : scanner.next.1 = scanner.pending.head? := by
  obtain ⟨results, -, last⟩ := scanner.next_spec
  cases pulled : scanner.next.1 with
  | some result =>
    rw [pulled] at results
    rw [results]
    rfl
  | none =>
    rw [pulled, last pulled, pending_spent] at results
    rw [results]
    rfl

theorem next_after (source : String) (pulls : Nat) :
    ((ofSource source).after pulls).next.1 = (scan source)[pulls]? := by
  rw [next_eq_head?, pending_after, List.head?_drop, scan, drain_eq]

private theorem StandsBehind.line_toNat {scanner : Scanner}
    (stands : scanner.StandsBehind text before) (bounded : text.count '\n' < 4294967295) :
    scanner.line.toNat = 1 + before.count '\n' := by
  have fewer : before.count '\n' ≤ text.count '\n' := by
    rw [stands.whole, List.count_append]
    exact Nat.le_add_right _ _
  rw [stands.line, toNat_line (by omega)]

theorem StandsBehind.spent {scanner : Scanner} (stands : scanner.StandsBehind text before) :
    scanner.spent.StandsBehind text text := by
  have moved := stands.advance (List.append_nil _).symm
  rwa [← stands.whole] at moved

/-- Each pull delivers the next result of the scan. Before it the scanner stands on the line that the
line feeds behind it tell. After it the scanner stands right behind the result and on its line, which
is the one that the line feeds before its end tell. Where nothing is left, the scanner stands on the
last line of the source. -/
theorem lines_count_feeds (source : String) (bounded : source.toList.count '\n' < 4294967295)
    (pulls : Nat) :
    ((ofSource source).after pulls).next.1 = (scan source)[pulls]? ∧
      let scanner := (ofSource source).after pulls
      (∃ before, source.toList = before ++ scanner.rest ∧ scanner.offset = Utf8.size before ∧
        scanner.line.toNat = 1 + before.count '\n') ∧
      (∀ result, scanner.next.1 = some result → scanner.next.2.line = result.line ∧
        result.IsCounted source.toList scanner.next.2.rest) ∧
      (scanner.next.1 = none → scanner.next.2.rest = [] ∧
        scanner.next.2.line.toNat = 1 + source.toList.count '\n') := by
  refine ⟨next_after source pulls, ?_⟩
  intro scanner
  obtain ⟨before, stands⟩ := (standsBehind_ofSource source).after pulls
  refine ⟨⟨_, stands.whole, stands.offset, stands.line_toNat bounded⟩, ?_, ?_⟩
  · intro result pulled
    obtain ⟨passed, unit, begins, delivers, stands'⟩ := stands.next_some pulled
    refine ⟨delivers.line_eq.symm, ?_⟩
    rw [stands'.whole]
    exact delivers.isCounted begins (stands'.line_toNat bounded)
  · intro nothing
    obtain ⟨-, -, last⟩ := scanner.next_spec
    rw [last nothing]
    exact ⟨rfl, stands.spent.line_toNat bounded⟩

/-- A comment and a string go on over the end of a line, and the stray character behind them stands
before the last line feed. -/
theorem lines_count_feeds_over_lines :
    let source := "/*\n*/\"é\n\"@\n"
    let scanner := (ofSource source).after 1
    let error : LexicalError := ⟨3, .unexpectedCharacter '@' 10⟩
    source.toList.count '\n' < 4294967295 ∧ scanner = ⟨"@\n".toList, 10, 3⟩ ∧
      (∃ before, source.toList = before ++ "@\n".toList ∧ 10 = Utf8.size before ∧
        3 = 1 + before.count '\n') ∧
      (scan source)[1]? = some (.error error) ∧ scanner.next.2 = ⟨['\n'], 11, 3⟩ ∧
      (Result.error error).IsCounted source.toList ['\n'] ∧
      scanner.next.2.next.2.line.toNat = 1 + source.toList.count '\n' := by
  intro source scanner error
  have bounded : source.toList.count '\n' < 4294967295 := by decide +kernel
  have stands : scanner = ⟨"@\n".toList, 10, 3⟩ := by decide +kernel
  have pulled : scanner.next = (some (.error error), ⟨['\n'], 11, 3⟩) := by decide +kernel
  have ended : (ofSource source).after 2 = ⟨['\n'], 11, 3⟩ := by decide +kernel
  obtain ⟨results, counted, delivered, -⟩ := lines_count_feeds source bounded 1
  obtain ⟨-, -, -, last⟩ := lines_count_feeds source bounded 2
  have counted' := (delivered _ (congrArg Prod.fst pulled)).2
  change ∃ before, source.toList = before ++ scanner.rest ∧ scanner.offset = Utf8.size before ∧
    scanner.line.toNat = 1 + before.count '\n' at counted
  change scanner.next.1 = _ at results
  change (Result.error error).IsCounted source.toList scanner.next.2.rest at counted'
  rw [pulled] at results counted'
  rw [stands] at counted
  refine ⟨bounded, stands, counted, results.symm, by rw [pulled], counted', ?_⟩
  rw [pulled, ← ended]
  exact (last (by rw [ended]; decide +kernel)).2

end Scanner

end Lox
