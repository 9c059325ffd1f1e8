import Lox.Proofs.ScannedToken
import Mathlib.Data.List.Forall2

namespace Lox

/-- Texts without results: blanks, closed block comments, and line comments with their line
feeds. -/
inductive Trivia : List Char → Prop where
  | nil : Trivia []
  | blank (member : c ∈ [' ', '\t', '\r', '\n']) (trivia : Trivia text) : Trivia (c :: text)
  | lineComment (noFeed : '\n' ∉ body) (trivia : Trivia text) :
      Trivia ('/' :: '/' :: (body ++ '\n' :: text))
  | blockComment (noEnd : ¬ ['*', '/'] <:+: body ++ ['*']) (trivia : Trivia text) :
      Trivia ('/' :: '*' :: (body ++ '*' :: '/' :: text))

/-- What may stand between two pieces. -/
structure Separator (gap : List Char) : Prop where
  trivia : Trivia gap
  blank : ∃ c ∈ gap.head?, c ∈ [' ', '\t', '\r', '\n']

open Segment (joined Begins)

/-- Trivia is cut into blanks and comments, whatever stands behind it. -/
theorem Trivia.segments_append (trivia : Trivia gap) :
    ∃ units, (∀ unit ∈ units, Segment.IsTrivia unit) ∧ joined units = gap ∧
      ∀ rest, segments (gap ++ rest) = units ++ segments rest := by
  induction trivia with
  | nil => exact ⟨[], by simp, rfl, fun _ => rfl⟩
  | @blank c text member trivia ih =>
    obtain ⟨units, each, whole, cut⟩ := ih
    refine ⟨⟨.blank, [c]⟩ :: units, ?_, by simp [whole], ?_⟩
    · exact List.forall_mem_cons.mpr ⟨.inl rfl, each⟩
    · intro rest
      have begins : Begins ⟨.blank, [c]⟩ (text ++ rest) := ⟨.inl (.blank member), trivial, trivial⟩
      simpa [cut] using segments_begins begins
  | @lineComment body text noFeed trivia ih =>
    obtain ⟨units, each, whole, cut⟩ := ih
    refine ⟨⟨.lineComment, '/' :: '/' :: body⟩ :: ⟨.blank, ['\n']⟩ :: units, ?_, by simp [whole],
      ?_⟩
    · exact List.forall_mem_cons.mpr ⟨.inr (.inl rfl), List.forall_mem_cons.mpr ⟨.inl rfl, each⟩⟩
    · intro rest
      have comment : Begins ⟨.lineComment, '/' :: '/' :: body⟩ ('\n' :: (text ++ rest)) :=
        ⟨.inl (.lineComment noFeed), .inr rfl, trivial⟩
      have feed : Begins ⟨.blank, ['\n']⟩ (text ++ rest) :=
        ⟨.inl (.blank (by simp)), trivial, trivial⟩
      have first := segments_begins comment
      have second := segments_begins feed
      simp only [List.cons_append, List.nil_append, List.append_assoc] at first second ⊢
      rw [first, second, cut]
  | @blockComment body text noEnd trivia ih =>
    obtain ⟨units, each, whole, cut⟩ := ih
    refine ⟨⟨.blockComment, '/' :: '*' :: (body ++ ['*', '/'])⟩ :: units, ?_, by simp [whole], ?_⟩
    · exact List.forall_mem_cons.mpr ⟨.inr (.inr rfl), each⟩
    · intro rest
      have comment : Begins ⟨.blockComment, '/' :: '*' :: (body ++ ['*', '/'])⟩ (text ++ rest) :=
        ⟨.inl (.blockComment noEnd), trivial, trivial⟩
      simpa [cut] using segments_begins comment

theorem Trivia.placed_append (trivia : Trivia gap) (offset : Nat) (line : UInt32)
    (rest : List Char) : placed offset line (segments (gap ++ rest)) =
      placed (offset + Utf8.size gap) (line + feeds gap) (segments rest) := by
  obtain ⟨units, each, whole, cut⟩ := trivia.segments_append
  rw [cut, Lox.placed_append, placed_trivia each, whole, List.nil_append]

/-- What a text is put together from. -/
inductive Piece where
  | token (token : Token)
  | stray (c : Char)
deriving DecidableEq, Repr

namespace Piece

/-- Some scan delivers the piece. -/
def IsScanned : Piece → Prop
  | token t => t.IsScanned
  | stray c => ∃ source line offset, Result.error ⟨line, .unexpectedCharacter c offset⟩ ∈ scan source

def text : Piece → List Char
  | token t => t.lexeme.toList
  | stray c => [c]

def unit : Piece → Segment
  | token t => t.unit
  | stray c => ⟨.stray, [c]⟩

/-- The piece is what a result reports that begins behind `before`: a token of the same content, or
the stray character with its offset. The line is that of the piece's end. -/
def Shows (piece : Piece) (before : List Char) (result : Result) : Prop :=
  result.line.toNat = 1 + (before ++ piece.text).count '\n' ∧
    match piece with
    | token t => ∃ t', result = .token t' ∧ t'.content = t.content
    | stray c => ∃ line, result = .error ⟨line, .unexpectedCharacter c (Utf8.size before)⟩

/-- What a scan delivers for a piece. -/
def result (piece : Piece) (offset : Nat) (line : UInt32) : Result :=
  match piece with
  | token t => .token { t with line := line }
  | stray c => .error ⟨line, .unexpectedCharacter c offset⟩

private theorem text_unit (piece : Piece) : piece.unit.text = piece.text := by cases piece <;> rfl

theorem unit_reaches (piece : Piece) (rest : List Char) : piece.unit.Reaches rest := by
  cases piece with
  | token t => exact t.unit_reaches rest
  | stray c => exact trivial

theorem IsScanned.isUnit {piece : Piece} (scanned : piece.IsScanned) : piece.unit.IsUnit := by
  cases piece with
  | token t => exact Token.IsScanned.isUnit scanned
  | stray c =>
    obtain ⟨source, line, offset, member⟩ := scanned
    obtain ⟨unit, -, isUnit, _, _, delivers⟩ := exists_unit_of_mem_scan member
    cases delivers
    exact isUnit

theorem IsScanned.result? {piece : Piece} (scanned : piece.IsScanned) (offset : Nat)
    (line : UInt32) : piece.unit.result? offset line = some (piece.result offset line) := by
  cases piece with
  | token t => exact Token.IsScanned.result? scanned offset line
  | stray c => rfl

private theorem shows_result (piece : Piece) (before : List Char)
    (bounded : (before ++ piece.text).count '\n' < 4294967295) :
    piece.Shows before
      (piece.result (Utf8.size before) (1 + feeds (before ++ piece.text))) := by
  have line := toNat_line bounded
  cases piece with
  | token t => exact ⟨line, _, rfl, rfl⟩
  | stray c => exact ⟨line, _, rfl⟩

end Piece

/-- No unit goes on with a blank or with a closing parenthesis. -/
theorem Segment.stops_of_head {unit : Segment}
    (apart : ∀ c ∈ rest.head?, c ∈ [' ', '\t', '\r', '\n', ')']) : unit.Stops rest := by
  have notPart : ∀ c ∈ [' ', '\t', '\r', '\n', ')'], ¬ isWordPart c ∧ ¬ c.isDigit := by
    simp [isWordPart]
  simp only [Stops]
  split
  · refine ⟨fun c head => (notPart c (apart c head)).2, .inr ?_⟩
    rintro c more rfl
    exact absurd (apart '.' rfl) (by decide)
  · exact fun c head => (notPart c (apart c head)).1
  · rename_i kind _
    have notExtender : ∀ c ∈ [' ', '\t', '\r', '\n', ')'], c ∉ extenders kind := by
      cases kind <;> simp [extenders]
    exact fun c head => notExtender c (apart c head)
  · trivial

/-- What is written: the pieces and the gaps behind them. -/
def written (items : List (Piece × List Char)) : List Char :=
  items.flatMap fun item => item.1.text ++ item.2

/-- There is a separator behind each piece but the last, and nothing behind the last. -/
def IsSpaced : List (Piece × List Char) → Prop
  | [] => True
  | [item] => item.2 = []
  | item :: next :: items => Separator item.2 ∧ IsSpaced (next :: items)

/-- The pieces, each with the text that stands before it. -/
def places (before : List Char) : List (Piece × List Char) → List (List Char × Piece)
  | [] => []
  | item :: items => (before, item.1) :: places (before ++ item.1.text ++ item.2) items

theorem IsSpaced.behind (spaced : IsSpaced (item :: items)) :
    Trivia item.2 ∧ (∀ c ∈ (item.2 ++ written items).head?, c ∈ [' ', '\t', '\r', '\n']) ∧
      IsSpaced items := by
  cases items with
  | nil =>
    have empty : item.2 = [] := spaced
    refine ⟨empty ▸ .nil, ?_, trivial⟩
    simp [empty, written]
  | cons next items =>
    obtain ⟨separator, spaced⟩ := spaced
    obtain ⟨d, head, blank⟩ := separator.blank
    refine ⟨separator.trivia, ?_, spaced⟩
    intro c head'
    rw [List.head?_append, Option.mem_def.mp head] at head'
    exact Option.some.inj head' ▸ blank

private theorem placed_spaced (items : List (Piece × List Char))
    (scanned : ∀ item ∈ items, item.1.IsScanned) (spaced : IsSpaced items) (before : List Char)
    (bounded : (before ++ written items).count '\n' < 4294967295) :
    List.Forall₂ (fun place result => place.2.Shows place.1 result) (places before items)
      (placed (Utf8.size before) (1 + feeds before) (segments (written items))) := by
  -- The text before gives the offset and the line on which the next piece begins.
  induction items generalizing before with
  | nil =>
    rw [written, List.flatMap_nil, segments_nil]
    exact .nil
  | cons item items ih =>
    obtain ⟨trivia, blank, spaced'⟩ := spaced.behind
    have here := scanned item (by simp)
    have begins : item.1.unit.Begins (item.2 ++ written items) :=
      ⟨here.isUnit, item.1.unit_reaches _, Segment.stops_of_head fun c head =>
        List.mem_append_left [')'] (blank c head)⟩
    have cut := segments_begins begins
    rw [Piece.text_unit] at cut
    have text : before ++ written (item :: items) =
        before ++ item.1.text ++ item.2 ++ written items := by
      simp [written]
    have later := ih (fun other member => scanned other (by simp [member])) spaced'
      (before ++ item.1.text ++ item.2) (text ▸ bounded)
    have total : written (item :: items) = item.1.text ++ (item.2 ++ written items) := by
      simp [written]
    rw [total, cut, placed, here.result?, Piece.text_unit, trivia.placed_append]
    refine .cons ?_ ?_
    · have fewer : (before ++ item.1.text).count '\n' < 4294967295 := by
        rw [text, List.append_assoc _ item.2, List.count_append] at bounded
        omega
      have shown := item.1.shows_result before fewer
      rwa [feeds_append, ← UInt32.add_assoc] at shown
    · simpa [UInt32.add_assoc, Nat.add_assoc] using later

/-- A text that is put together from trivia, lexemes and stray characters with separators between
them is read as these, each with its content, its line and, if stray, its offset. -/
theorem scan_spaced_pieces (leading : List Char) (trivia : Trivia leading)
    (items : List (Piece × List Char)) (scanned : ∀ item ∈ items, item.1.IsScanned)
    (spaced : IsSpaced items) (bounded : (leading ++ written items).count '\n' < 4294967295) :
    List.Forall₂ (fun place result => place.2.Shows place.1 result) (places leading items)
      (scan (String.ofList (leading ++ written items))) := by
  have cut := trivia.placed_append 0 1 (written items)
  rw [scan_eq_placed, String.toList_ofList, cut, Nat.zero_add]
  exact placed_spaced items scanned spaced leading bounded

/-- A comment with a quote in it, a string over two lines, a slash with a comment behind it, and a
stray character of two bytes. -/
theorem scan_spaced_pieces_over_lines :
    let leading := "/*\"*/".toList
    let items : List (Piece × List Char) :=
      [(.token ⟨.string, "\"//\n\"", .string "//\n", 2⟩, " ".toList),
        (.token ⟨.slash, "/", .none, 1⟩, "\n//\"\n".toList), (.stray 'é', [])]
    Trivia leading ∧ (∀ item ∈ items, item.1.IsScanned) ∧ IsSpaced items ∧
      (leading ++ written items).count '\n' < 4294967295 ∧
      List.Forall₂ (fun place result => place.2.Shows place.1 result) (places leading items)
        (scan (String.ofList (leading ++ written items))) := by
  intro leading items
  have trivia : Trivia leading := by
    have noEnd : ¬ ['*', '/'] <:+: ['"'] ++ ['*'] := by decide
    exact .blockComment noEnd .nil
  have scanned : ∀ item ∈ items, item.1.IsScanned := by
    have stray : scan "é" = [.error ⟨1, .unexpectedCharacter 'é' 0⟩] := by decide +kernel
    simp only [items, List.forall_mem_cons]
    exact ⟨Token.IsScanned.of_scan_lexeme (by decide +kernel),
      Token.IsScanned.of_scan_lexeme (by decide +kernel), ⟨"é", 1, 0, by simp [stray]⟩, by simp⟩
  have spaced : IsSpaced items := by
    have comment : Trivia "\n//\"\n".toList := by
      have noFeed : '\n' ∉ ['"'] := by decide
      exact .blank (by decide) (.lineComment noFeed .nil)
    exact ⟨⟨.blank (by decide) .nil, ' ', rfl, by decide⟩, ⟨comment, '\n', rfl, by decide⟩, rfl⟩
  have bounded : (leading ++ written items).count '\n' < 4294967295 := by decide +kernel
  exact ⟨trivia, scanned, spaced, bounded,
    scan_spaced_pieces leading trivia items scanned spaced bounded⟩

end Lox
