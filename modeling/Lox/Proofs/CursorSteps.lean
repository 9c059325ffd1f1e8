import Lox.Proofs.CursorReading
import Lox.Proofs.Resumption

/-!
What a cursor does in the bytes of a text, one motion at a time. It keeps step with the scanner of
the text: it stands before the unit that is next, or it has read a beginning of that unit, and it
has read the unit when it goes on to the next one or delivers. Single bytes end what is cut out of
the text, and these are characters of their own.
-/

namespace Lox

open Utf8 (encode IsBoundary)
open Segment (Begins)

namespace Scanner

variable {scanner : Scanner} {unit : Segment} {rest : List Char}

/-- Where the next unit is a blank or a comment, a pull goes on behind it. -/
private theorem next_trivia (begins : unit.Begins rest) (same : scanner.rest = unit.text ++ rest)
    (trivia : unit.IsTrivia) : scanner.next = (scanner.advance unit.text rest).next := by
  obtain ⟨ahead, offset, line⟩ := scanner
  cases ahead with
  | nil => exact absurd (List.append_eq_nil_iff.mp same.symm).1 begins.isUnit.text_ne_nil
  | cons first tail =>
    have nothing := trivia.result?_eq_none offset
    rw [next]
    simp only [begins.split_eq same, nothing]

/-- Where the next unit delivers a result, a pull ends behind it. -/
private theorem next_delivers (begins : unit.Begins rest) (same : scanner.rest = unit.text ++ rest)
    (delivers : Delivers unit scanner.offset (scanner.line + feeds unit.text) result) :
    scanner.next = (some result, scanner.advance unit.text rest) := by
  obtain ⟨ahead, offset, line⟩ := scanner
  cases ahead with
  | nil => exact absurd (List.append_eq_nil_iff.mp same.symm).1 begins.isUnit.text_ne_nil
  | cons first tail =>
    have found : unit.result? offset (Scanner.advance ⟨first :: tail, offset, line⟩ unit.text
        rest).line = some result := begins.isUnit.result?_eq_some_iff.mpr delivers
    rw [next]
    simp only [begins.split_eq same, found]

end Scanner

namespace Cursor

/-- The lines that end in what has been read. -/
def lineFeeds (read : List UInt8) : UInt32 := UInt32.ofNat (read.count '\n'.toUInt8)

theorem lineFeeds_append (read more : List UInt8) :
    lineFeeds (read ++ more) = lineFeeds read + lineFeeds more := by
  simp [lineFeeds, List.count_append, UInt32.ofNat_add]

theorem lineFeeds_singleton (byte : UInt8) :
    lineFeeds [byte] = if latin byte = '\n' then 1 else 0 := by
  have feed : latin byte = '\n' ↔ byte = '\n'.toUInt8 := latin_eq_iff (by decide)
  simp only [feed]
  by_cases same : byte = '\n'.toUInt8
  · rw [if_pos same, same]
    rfl
  · rw [if_neg same, lineFeeds, List.count_eq_zero.mpr (by simpa using Ne.symm same)]
    rfl

private theorem lineFeeds_encode (text : List Char) : lineFeeds (encode text) = feeds text := by
  rw [lineFeeds, Utf8.count_encode (by decide), feeds]

/-- The cursor when some bytes of the next unit have been read. -/
def reading (scanner : Scanner) (read : List UInt8) : Cursor where
  start := scanner.offset
  current := scanner.offset + read.length
  line := scanner.line + lineFeeds read

theorem reading_nil (scanner : Scanner) :
    reading scanner [] = ⟨scanner.offset, scanner.offset, scanner.line⟩ := by
  simp [reading, lineFeeds]

theorem reading_append (scanner : Scanner) (read more : List UInt8) :
    reading scanner (read ++ more) = ⟨(reading scanner read).start,
      (reading scanner read).current + more.length,
      (reading scanner read).line + lineFeeds more⟩ := by
  simp [reading, lineFeeds_append, Nat.add_assoc, UInt32.add_assoc]

theorem reading_snoc (scanner : Scanner) (read : List UInt8) (other : latin byte ≠ '\n') :
    reading scanner (read ++ [byte]) = ⟨(reading scanner read).start,
      (reading scanner read).current + 1, (reading scanner read).line⟩ := by
  rw [reading_append, lineFeeds_singleton, if_neg other, UInt32.add_zero, List.length_singleton]

/-- An end of a comment that is yet to come begins behind what has been read of the comment. -/
def NoEnd (body ahead : List UInt8) : Prop :=
  ∀ front back, body ++ ahead = front ++ encode ['*', '/'] ++ back → body.length ≤ front.length

/-- What a loop has read of a unit, and what lies ahead of it. -/
inductive Within : Point → List UInt8 → List UInt8 → Prop where
  | lineComment (noFeed : '\n'.toUInt8 ∉ body) :
      Within .lineComment (encode ['/', '/'] ++ body) ahead
  | blockComment (noEnd : NoEnd body ahead) :
      Within .blockComment (encode ['/', '*'] ++ body) ahead
  | string (noQuote : '"'.toUInt8 ∉ body) : Within .string (encode ['"'] ++ body) ahead
  | whole (nonempty : digits ≠ []) (numeric : ∀ c ∈ digits, c.isDigit) :
      Within .whole (encode digits) ahead
  | decimals (nonempty : digits ≠ []) (numeric : ∀ c ∈ digits, c.isDigit)
      (numeric' : ∀ c ∈ decimals, c.isDigit) (some : decimals ≠ [] ∨ (seen ahead).isDigit) :
      Within .decimals (encode (digits ++ '.' :: decimals)) ahead
  | word (start : isWordStart c) (parts : ∀ d ∈ body, isWordPart d) :
      Within .word (encode (c :: body)) ahead

/-- A cursor stands where the scanner does, or it has read a beginning of the unit that is next. -/
inductive Stands (text : List Char) (scanner : Scanner) : Point → Cursor → Prop where
  | head {begin : Nat} (behind : scanner.StandsBehind text before)
      (begun : IsBoundary text begin) (le : begin ≤ scanner.offset) :
      Stands text scanner .head ⟨begin, scanner.offset, scanner.line⟩
  | dispatch (behind : scanner.StandsBehind text before)
      (whole : encode scanner.rest = byte :: ahead) :
      Stands text scanner (.dispatch (latin byte))
        ⟨scanner.offset, scanner.offset + 1, scanner.line⟩
  | within {read ahead : List UInt8} (behind : scanner.StandsBehind text before)
      (whole : encode scanner.rest = read ++ ahead) (within : Within point read ahead) :
      Stands text scanner point (reading scanner read)

/-- A motion keeps step with the scanner: either the pull goes on and is to end as before, or it ends
with what the scanner delivers. -/
def Motion.KeepsStep (text : List Char) (scanner : Scanner) : Motion → Prop
  | .goesOn point cursor =>
    ∃ ahead : Scanner, ahead.next = scanner.next ∧ Stands text ahead point cursor
  | .delivers result cursor =>
    ∃ ahead, scanner.next = (result, ahead) ∧ Stands text ahead .head cursor

/-- There is no fault, and what is done instead keeps step with the scanner. -/
def Succeeds (text : List Char) (scanner : Scanner) (found : Except Fault Motion) : Prop :=
  ∃ motion, found = .ok motion ∧ motion.KeepsStep text scanner

section Steps

variable {text before rest : List Char} {scanner : Scanner} {read ahead more body : List UInt8}
  {point : Point}

/-- What a cursor has ahead that has read some bytes of the next unit. -/
private theorem drop_reading (behind : scanner.StandsBehind text before)
    (whole : encode scanner.rest = read ++ ahead) :
    (encode text).drop (reading scanner read).current = ahead := by
  rw [reading, behind.whole, Utf8.encode_append, whole, behind.offset, ← Utf8.length_encode,
    ← List.length_append, ← List.append_assoc, List.drop_left]

/-- A line feed that is ahead is counted in the text, so that there is a number for its line. -/
private theorem line_lt (behind : scanner.StandsBehind text before)
    (bounded : text.count '\n' < 4294967295)
    (whole : encode scanner.rest = read ++ '\n'.toUInt8 :: more) :
    (reading scanner read).line.toNat < 4294967295 := by
  -- Counted over the whole text, this line feed comes on top of those behind it.
  have total := congrArg (List.count '\n'.toUInt8) (congrArg encode behind.whole)
  rw [Utf8.count_encode (by decide), Utf8.encode_append, whole] at total
  simp only [List.count_append, List.count_cons_self, Utf8.count_encode (c := '\n') (by decide)]
    at total
  rw [reading, behind.line, feeds, lineFeeds, UInt32.add_assoc, ← UInt32.ofNat_add,
    UInt32.toNat_add, UInt32.toNat_ofNat', UInt32.toNat_one]
  omega

private theorem succeeds_pass (behind : scanner.StandsBehind text before)
    (whole : encode scanner.rest = read ++ byte :: more) (other : latin byte ≠ '\n')
    (within : Within point (read ++ [byte]) more) :
    Succeeds text scanner (pass (encode text) point (reading scanner read)) := by
  have longer : encode scanner.rest = read ++ [byte] ++ more := by simp [whole]
  refine ⟨_, pass_eq (drop_reading behind whole), scanner, rfl, ?_⟩
  rw [← reading_snoc scanner read other]
  exact .within behind longer within

private theorem succeeds_passCounting (behind : scanner.StandsBehind text before)
    (bounded : text.count '\n' < 4294967295)
    (whole : encode scanner.rest = read ++ byte :: more)
    (within : Within point (read ++ [byte]) more) :
    Succeeds text scanner (passCounting (encode text) point (reading scanner read)) := by
  have longer : encode scanner.rest = read ++ [byte] ++ more := by simp [whole]
  have counted : latin byte = '\n' → (reading scanner read).line.toNat < 4294967295 := by
    intro feed
    rw [(latin_eq_iff (by decide)).mp feed] at whole
    exact line_lt behind bounded whole
  refine ⟨.goesOn point (reading scanner (read ++ [byte])), ?_, scanner, rfl,
    .within behind longer within⟩
  rw [passCounting, nextChar_eq (drop_reading behind whole), reading_append, lineFeeds_singleton]
  exact bind_eq_ok.mpr ⟨_, rfl, bind_eq_ok.mpr ⟨_, countLine_eq counted, rfl⟩⟩

variable {shape : Shape} {front : List Char}

private theorem stands_behind (behind : scanner.StandsBehind text before)
    (same : scanner.rest = front ++ rest) :
    Stands text (scanner.advance front rest) .head (reading scanner (encode front)) := by
  have begun : IsBoundary text scanner.offset := ⟨before, _, behind.whole, behind.offset⟩
  have stands := Stands.head (behind.advance same) begun (Nat.le_add_right _ _)
  rwa [reading, Utf8.length_encode, lineFeeds_encode]

/-- Behind a blank or a comment the pull goes on. -/
private theorem succeeds_trivia (behind : scanner.StandsBehind text before)
    (begins : Begins ⟨shape, front⟩ rest) (same : scanner.rest = front ++ rest)
    (trivia : Segment.IsTrivia ⟨shape, front⟩) :
    Succeeds text scanner (.ok (.goesOn .head (reading scanner (encode front)))) :=
  ⟨_, rfl, scanner.advance front rest, (Scanner.next_trivia begins same trivia).symm,
    stands_behind behind same⟩

/-- Behind any other unit it ends. -/
private theorem succeeds_result (behind : scanner.StandsBehind text before)
    (begins : Begins ⟨shape, front⟩ rest) (same : scanner.rest = front ++ rest)
    (delivers : Delivers ⟨shape, front⟩ scanner.offset (scanner.line + feeds front) result) :
    Succeeds text scanner (.ok (.delivers (some result) (reading scanner (encode front)))) :=
  ⟨_, rfl, scanner.advance front rest, Scanner.next_delivers begins same delivers,
    stands_behind behind same⟩

private theorem succeeds_fail (behind : scanner.StandsBehind text before)
    (begins : Begins ⟨shape, front⟩ rest) (same : scanner.rest = front ++ rest)
    (delivers : Delivers ⟨shape, front⟩ scanner.offset (scanner.line + feeds front)
      (.error ⟨scanner.line + feeds front, cause⟩)) :
    Succeeds text scanner (fail silent cause (reading scanner (encode front))) := by
  have delivered := succeeds_result behind begins same delivers
  rwa [← lineFeeds_encode] at delivered

private theorem lexeme_eq (behind : scanner.StandsBehind text before)
    (same : scanner.rest = front ++ rest) :
    lexeme (encode text) (reading scanner (encode front)) = .ok front := by
  have found := slice_eq before front rest
  rw [List.append_assoc, ← same, ← behind.whole] at found
  rw [lexeme, reading, Utf8.length_encode, behind.offset, ← Utf8.size_append]
  exact found

private theorem succeeds_token (behind : scanner.StandsBehind text before)
    (begins : Begins ⟨shape, front⟩ rest) (same : scanner.rest = front ++ rest)
    (delivers : Delivers ⟨shape, front⟩ scanner.offset (scanner.line + feeds front)
      (.token ⟨kind, String.ofList front, literal, scanner.line + feeds front⟩)) :
    Succeeds text scanner
      (token silent (encode text) kind literal (reading scanner (encode front))) := by
  have delivered := succeeds_result behind begins same delivers
  rw [token, lexeme_eq behind same]
  rwa [← lineFeeds_encode] at delivered

/-- A loop ends before a single byte or at the end of the text, between two characters. -/
theorem exists_body {opening : List Char}
    (whole : encode scanner.rest = encode opening ++ body ++ ahead)
    (stops : ahead = [] ∨ ∃ byte ∈ ahead.head?, byte.toNat < 0x80) :
    ∃ inner rest, scanner.rest = opening ++ inner ++ rest ∧ body = encode inner ∧
      ahead = encode rest := by
  rw [List.append_assoc] at whole
  obtain ⟨tail, same, whole⟩ := Utf8.exists_behind whole
  obtain ⟨inner, rest, rfl, body', ahead'⟩ := Utf8.exists_front whole.symm stops
  exact ⟨inner, rest, by rw [same, List.append_assoc], body', ahead'⟩

private theorem isEnd_reading (behind : scanner.StandsBehind text before)
    (whole : encode scanner.rest = read ++ ahead) :
    (reading scanner read).isEnd (encode text) = true ↔ ahead = [] := by
  rw [isEnd_iff, drop_reading behind whole]

private theorem lineComment_ends (behind : scanner.StandsBehind text before)
    (whole : encode scanner.rest = encode ['/', '/'] ++ body ++ ahead)
    (noFeed : '\n'.toUInt8 ∉ body) (stops : ahead = [] ∨ ahead.head? = some '\n'.toUInt8) :
    Succeeds text scanner
      (.ok (.goesOn .head (reading scanner (encode ['/', '/'] ++ body)))) := by
  obtain ⟨inner, rest, same, rfl, rfl⟩ :=
    exists_body whole (stops.imp_right fun head => ⟨_, head, by decide⟩)
  rw [Utf8.mem_encode_iff (by decide)] at noFeed
  rw [Utf8.encode_eq_nil_iff, Utf8.head?_encode_eq_some_iff (by decide)] at stops
  have begins : Begins ⟨.lineComment, '/' :: '/' :: inner⟩ rest :=
    ⟨.inl (.lineComment noFeed), stops, trivial⟩
  rw [← Utf8.encode_append]
  exact succeeds_trivia behind begins same (.inr (.inl rfl))

private theorem succeeds_lineComment (behind : scanner.StandsBehind text before)
    (whole : encode scanner.rest = encode ['/', '/'] ++ body ++ ahead)
    (noFeed : '\n'.toUInt8 ∉ body) : Succeeds text scanner
      (step (encode text) .lineComment (reading scanner (encode ['/', '/'] ++ body))) := by
  rw [step, move, peekChar_eq, drop_reading behind whole, lift_ok_bind]
  simp only [isEnd_reading behind whole]
  cases ahead with
  | nil =>
    rw [if_neg (by simp)]
    exact lineComment_ends behind whole noFeed (.inl rfl)
  | cons byte more =>
    by_cases feed : latin byte = '\n'
    · rw [if_neg fun inside => inside.1 feed]
      obtain rfl := (latin_eq_iff (by decide)).mp feed
      exact lineComment_ends behind whole noFeed (.inr rfl)
    · rw [if_pos ⟨feed, by simp⟩]
      refine succeeds_pass behind whole feed ?_
      rw [List.append_assoc]
      exact .lineComment (not_mem_snoc (by decide) noFeed feed)

theorem noEnd_nil (ahead : List UInt8) : NoEnd [] ahead := fun _ _ _ => Nat.zero_le _

private theorem NoEnd.snoc (noEnd : NoEnd body (byte :: more))
    (other : ¬ (seen (byte :: more) = '*' ∧ seen more = '/')) : NoEnd (body ++ [byte]) more := by
  intro front back split
  rw [List.append_assoc, List.append_assoc] at split
  -- It begins behind the body, and not with the byte that was read: a look has shown another one.
  have far := noEnd front back (by rw [List.append_assoc]; exact split)
  rw [List.length_append, List.length_singleton]
  refine Nat.lt_of_le_of_ne far fun length => other ?_
  have here : byte :: more = '*'.toUInt8 :: '/'.toUInt8 :: back :=
    (List.append_inj split length).2
  obtain ⟨rfl, rfl⟩ := List.cons.inj here
  exact ⟨rfl, rfl⟩

/-- No end of a comment stands in what has been read of it and what goes on with it. -/
private theorem NoEnd.not_infix {inner : List Char} (next : List Char) (few : Utf8.size next ≤ 1)
    (noEnd : NoEnd (encode inner) (encode next ++ more)) : ¬ ['*', '/'] <:+: inner ++ next := by
  rintro ⟨front, back, found⟩
  have split : encode inner ++ (encode next ++ more) =
      encode front ++ encode ['*', '/'] ++ (encode back ++ more) := by
    rw [← List.append_assoc, ← Utf8.encode_append, ← found, Utf8.encode_append,
      Utf8.encode_append, List.append_assoc (encode front ++ encode ['*', '/'])]
  have first := noEnd _ _ split
  have size := congrArg Utf8.size found
  have two : Utf8.size ['*', '/'] = 2 := rfl
  rw [Utf8.length_encode, Utf8.length_encode] at first
  simp only [Utf8.size_append] at size
  omega

private theorem blockComment_ends (behind : scanner.StandsBehind text before)
    (whole : encode scanner.rest = encode ['/', '*'] ++ body ++ (encode ['*', '/'] ++ more))
    (noEnd : NoEnd body (encode ['*', '/'] ++ more)) :
    Succeeds text scanner (.ok (.goesOn .head
      { reading scanner (encode ['/', '*'] ++ body) with
        current := (reading scanner (encode ['/', '*'] ++ body)).current + 2 })) := by
  obtain ⟨inner, tail, same, rfl, ahead⟩ := exists_body whole (.inr ⟨_, rfl, by decide⟩)
  obtain ⟨rest, rfl, -⟩ := Utf8.exists_behind ahead.symm
  have notInside : ¬ ['*', '/'] <:+: inner ++ ['*'] :=
    NoEnd.not_infix ['*'] (Nat.le_refl 1) noEnd
  have begins : Begins ⟨.blockComment, '/' :: '*' :: (inner ++ ['*', '/'])⟩ rest :=
    ⟨.inl (.blockComment notInside), trivial, trivial⟩
  have finished := succeeds_trivia behind begins (by simpa using same) (.inr (.inr rfl))
  have read : encode ('/' :: '*' :: (inner ++ ['*', '/'])) =
      encode ['/', '*'] ++ encode inner ++ encode ['*', '/'] := by
    rw [← Utf8.encode_append, ← Utf8.encode_append]
    rfl
  have lines : lineFeeds (encode ['*', '/']) = 0 := by decide
  rw [read, reading_append, lines, UInt32.add_zero] at finished
  exact finished

private theorem openComment_ends (behind : scanner.StandsBehind text before)
    (whole : encode scanner.rest = encode ['/', '*'] ++ body ++ []) (noEnd : NoEnd body []) :
    Succeeds text scanner
      (fail silent .unterminatedComment (reading scanner (encode ['/', '*'] ++ body))) := by
  obtain ⟨inner, rest, same, rfl, nothing⟩ := exists_body whole (.inl rfl)
  obtain rfl : rest = [] := Utf8.encode_eq_nil_iff.mp nothing.symm
  have notInside : ¬ ['*', '/'] <:+: inner ++ [] :=
    NoEnd.not_infix [] (Nat.zero_le 1) noEnd
  rw [List.append_nil] at notInside
  have begins : Begins ⟨.openComment, '/' :: '*' :: inner⟩ [] :=
    ⟨.inl (.openComment notInside), rfl, trivial⟩
  rw [← Utf8.encode_append]
  exact succeeds_fail behind begins (by simpa using same) (.openComment _)

private theorem succeeds_blockComment (behind : scanner.StandsBehind text before)
    (bounded : text.count '\n' < 4294967295)
    (whole : encode scanner.rest = encode ['/', '*'] ++ body ++ ahead)
    (noEnd : NoEnd body ahead) : Succeeds text scanner
      (step (encode text) .blockComment (reading scanner (encode ['/', '*'] ++ body))) := by
  rw [step, move, peekChar_eq, peekNextChar_eq, lift_ok_bind, lift_ok_bind, ← List.drop_drop,
    drop_reading behind whole]
  simp only [isEnd_reading behind whole]
  by_cases ends : seen ahead = '*' ∧ seen (ahead.drop 1) = '/'
  · rw [if_pos ends]
    obtain ⟨star, slash⟩ := ends
    obtain ⟨more, rfl⟩ := List.head?_eq_some_iff.mp
      ((seen_eq_iff (by decide) (by decide)).mp star)
    obtain ⟨more, rfl⟩ := List.head?_eq_some_iff.mp
      ((seen_eq_iff (by decide) (by decide)).mp slash)
    exact blockComment_ends behind whole noEnd
  · rw [if_neg ends]
    cases ahead with
    | nil =>
      rw [if_pos rfl]
      exact openComment_ends behind whole noEnd
    | cons byte more =>
      rw [if_neg (by simp)]
      refine succeeds_passCounting behind bounded whole ?_
      rw [List.append_assoc]
      exact .blockComment (noEnd.snoc ends)

/-- The text between the quotes of a string is cut out. -/
private theorem slice_inside (behind : scanner.StandsBehind text before) {inner : List Char}
    (same : scanner.rest = '"' :: (inner ++ ['"']) ++ rest) :
    slice (encode text) ((reading scanner (encode ('"' :: (inner ++ ['"'])))).start + 1)
      ((reading scanner (encode ('"' :: (inner ++ ['"'])))).current - 1) = .ok inner := by
  have one : '"'.utf8Size = 1 := by decide
  have whole : before ++ ['"'] ++ inner ++ '"' :: rest = text := by
    rw [behind.whole, same]
    simp
  have start : Utf8.size (before ++ ['"']) = scanner.offset + 1 := by
    rw [Utf8.size_append, Utf8.size_cons, one, Utf8.size_nil, behind.offset]
  have stop : Utf8.size (before ++ ['"'] ++ inner) =
      (reading scanner (encode ('"' :: (inner ++ ['"'])))).current - 1 := by
    rw [Utf8.size_append, start]
    simp only [reading, Utf8.length_encode, Utf8.size_append, Utf8.size_cons, Utf8.size_nil, one]
    omega
  have cut := slice_eq (before ++ ['"']) inner ('"' :: rest)
  rwa [whole, start, stop] at cut

private theorem string_ends (behind : scanner.StandsBehind text before)
    (whole : encode scanner.rest = encode ['"'] ++ body ++ '"'.toUInt8 :: more)
    (noQuote : '"'.toUInt8 ∉ body) : Succeeds text scanner (do
      let (_, cursor) ← nextChar (encode text) (reading scanner (encode ['"'] ++ body))
      let inner ← slice (encode text) (cursor.start + 1) (cursor.current - 1)
      token silent (encode text) .string (.string (String.ofList inner)) cursor) := by
  obtain ⟨inner, tail, same, rfl, ahead⟩ := exists_body whole (.inr ⟨_, rfl, by decide⟩)
  have tail' : encode tail = encode ['"'] ++ more := ahead.symm
  obtain ⟨rest, rfl, -⟩ := Utf8.exists_behind tail'
  have same' : scanner.rest = '"' :: (inner ++ ['"']) ++ rest := by simpa using same
  have read : encode ('"' :: (inner ++ ['"'])) =
      encode ['"'] ++ encode inner ++ ['"'.toUInt8] := by
    rw [← Utf8.encode_append]
    exact Utf8.encode_append (['"'] ++ inner) ['"']
  have quote : latin '"'.toUInt8 ≠ '\n' := by decide
  rw [Utf8.mem_encode_iff (by decide)] at noQuote
  have begins : Begins ⟨.string, '"' :: (inner ++ ['"'])⟩ rest :=
    ⟨.inl (.string noQuote), trivial, trivial⟩
  rw [nextChar_eq (drop_reading behind whole), ok_bind, ← reading_snoc scanner _ quote, ← read]
  simp only [slice_inside behind same', ok_bind]
  exact succeeds_token behind begins same' (.string inner)

private theorem succeeds_string (behind : scanner.StandsBehind text before)
    (bounded : text.count '\n' < 4294967295)
    (whole : encode scanner.rest = encode ['"'] ++ body ++ ahead)
    (noQuote : '"'.toUInt8 ∉ body) : Succeeds text scanner
      (step (encode text) .string (reading scanner (encode ['"'] ++ body))) := by
  rw [step, move, peekChar_eq, drop_reading behind whole, lift_ok_bind]
  simp only [isEnd_reading behind whole]
  cases ahead with
  | nil =>
    rw [if_neg (by simp), if_pos rfl]
    obtain ⟨inner, rest, same, rfl, nothing⟩ := exists_body whole (.inl rfl)
    obtain rfl : rest = [] := Utf8.encode_eq_nil_iff.mp nothing.symm
    rw [Utf8.mem_encode_iff (by decide)] at noQuote
    have begins : Begins ⟨.openString, '"' :: inner⟩ [] :=
      ⟨.inl (.openString noQuote), rfl, trivial⟩
    rw [← Utf8.encode_append]
    exact succeeds_fail behind begins (by simpa using same) (.openString _)
  | cons byte more =>
    by_cases quote : latin byte = '"'
    · rw [if_neg fun inside => inside.1 quote, if_neg (by simp)]
      obtain rfl := (latin_eq_iff (by decide)).mp quote
      exact string_ends behind whole noQuote
    · rw [if_pos ⟨quote, by simp⟩]
      refine succeeds_passCounting behind bounded whole ?_
      rw [List.append_assoc]
      exact .string (not_mem_snoc (by decide) noQuote quote)

/-- A run is read on. -/
private theorem succeeds_run {p : Char → Bool} (single : IsSingle p)
    (behind : scanner.StandsBehind text before)
    (whole : encode scanner.rest = encode front ++ ahead) (found : p (seen ahead))
    (within : ∀ c more, p c → Within point (encode (front ++ [c])) more) :
    Succeeds text scanner (pass (encode text) point (reading scanner (encode front))) := by
  obtain ⟨byte, more, rfl, small, member⟩ := exists_seen single found
  have other : latin byte ≠ '\n' := by
    intro same
    rw [same, single.feed] at member
    cases member
  refine succeeds_pass behind whole other ?_
  rw [← encode_snoc small]
  exact within _ _ member

private theorem succeeds_number (behind : scanner.StandsBehind text before) {numeral : List Char}
    (begins : Begins ⟨.number, numeral⟩ rest) (same : scanner.rest = numeral ++ rest)
    (valid : isNumeral numeral) :
    Succeeds text scanner (number silent (encode text) (reading scanner (encode numeral))) := by
  rw [number, lexeme_eq behind same, lift_ok_bind, if_pos valid]
  exact succeeds_token behind begins same (.number numeral)

private theorem succeeds_whole (behind : scanner.StandsBehind text before) {digits : List Char}
    (whole : encode scanner.rest = encode digits ++ ahead) (nonempty : digits ≠ [])
    (numeric : ∀ c ∈ digits, c.isDigit) :
    Succeeds text scanner (step (encode text) .whole (reading scanner (encode digits))) := by
  rw [step, move, peekChar_eq, peekNextChar_eq, lift_ok_bind, lift_ok_bind, ← List.drop_drop,
    drop_reading behind whole]
  by_cases digit : (seen ahead).isDigit
  · rw [if_pos digit]
    refine succeeds_run isSingle_isDigit behind whole digit fun c more digit' => ?_
    exact .whole (by simp)
      (List.forall_mem_append.mpr ⟨numeric, List.forall_mem_singleton.mpr digit'⟩)
  · rw [if_neg digit]
    by_cases point : seen ahead = '.' ∧ (seen (ahead.drop 1)).isDigit
    · rw [if_pos point]
      obtain ⟨dot, next⟩ := point
      obtain ⟨more, rfl⟩ := List.head?_eq_some_iff.mp
        ((seen_eq_iff (by decide) (by decide)).mp dot)
      refine succeeds_pass behind whole (by decide) ?_
      have longer : encode digits ++ ['.'.toUInt8] = encode (digits ++ '.' :: []) :=
        (Utf8.encode_append digits ['.']).symm
      rw [longer]
      exact .decimals nonempty numeric (by simp) (.inr next)
    · rw [if_neg point]
      obtain ⟨rest, same, rfl⟩ := Utf8.exists_behind whole
      have stops : Segment.NumberStops digits rest := by
        refine ⟨not_of_seen isSingle_isDigit digit, .inr ?_⟩
        rintro c more rfl next
        exact point ⟨rfl, (satisfies_seen isSingle_isDigit (c :: more)).trans next⟩
      have begins : Begins ⟨.number, digits⟩ rest :=
        ⟨.inl (.whole nonempty numeric), trivial, stops⟩
      exact succeeds_number behind begins same (isNumeral_whole nonempty numeric)

private theorem succeeds_decimals (behind : scanner.StandsBehind text before)
    {digits decimals : List Char}
    (whole : encode scanner.rest = encode (digits ++ '.' :: decimals) ++ ahead)
    (nonempty : digits ≠ []) (numeric : ∀ c ∈ digits, c.isDigit)
    (numeric' : ∀ c ∈ decimals, c.isDigit) (some : decimals ≠ [] ∨ (seen ahead).isDigit) :
    Succeeds text scanner
      (step (encode text) .decimals (reading scanner (encode (digits ++ '.' :: decimals)))) := by
  rw [step, move, peekChar_eq, lift_ok_bind, drop_reading behind whole]
  by_cases digit : (seen ahead).isDigit
  · rw [if_pos digit]
    refine succeeds_run isSingle_isDigit behind whole digit fun c more digit' => ?_
    rw [List.append_assoc, List.cons_append]
    exact .decimals nonempty numeric
      (List.forall_mem_append.mpr ⟨numeric', List.forall_mem_singleton.mpr digit'⟩)
      (.inl (by simp))
  · rw [if_neg digit]
    have nonempty' := some.resolve_right digit
    obtain ⟨rest, same, rfl⟩ := Utf8.exists_behind whole
    have begins : Begins ⟨.number, digits ++ '.' :: decimals⟩ rest :=
      ⟨.inl (.fractional nonempty numeric nonempty' numeric'), trivial,
        not_of_seen isSingle_isDigit digit, .inl (by simp)⟩
    exact succeeds_number behind begins same
      (isNumeral_fractional nonempty numeric nonempty' numeric')

private theorem succeeds_word (behind : scanner.StandsBehind text before) {c : Char}
    {body : List Char}
    (whole : encode scanner.rest = encode (c :: body) ++ ahead) (start : isWordStart c)
    (parts : ∀ d ∈ body, isWordPart d) :
    Succeeds text scanner (step (encode text) .word (reading scanner (encode (c :: body)))) := by
  rw [step, move, peekChar_eq, lift_ok_bind, drop_reading behind whole]
  by_cases part : isWordPart (seen ahead)
  · rw [if_pos part]
    refine succeeds_run isSingle_isWordPart behind whole part fun d more part' => ?_
    exact .word start (List.forall_mem_append.mpr ⟨parts, List.forall_mem_singleton.mpr part'⟩)
  · rw [if_neg part]
    obtain ⟨rest, same, rfl⟩ := Utf8.exists_behind whole
    have parts' : ∀ d ∈ body, d.isAlphanum ∨ d = '_' := by
      intro d member
      simpa [isWordPart] using parts d member
    have begins : Begins ⟨.word, c :: body⟩ rest :=
      ⟨.inl (.word (by simpa [isWordStart] using start) parts'), trivial,
        not_of_seen isSingle_isWordPart part⟩
    rw [word, lexeme_eq behind same, lift_ok_bind]
    cases found : TokenKind.keyword? (String.ofList (c :: body)) with
    | some keyword =>
      exact succeeds_token behind begins same
        (.keyword (TokenKind.keyword?_eq_some_iff.mp found))
    | none =>
      exact succeeds_token behind begins same
        (.identifier (TokenKind.keyword?_eq_none_iff.mp found))

variable {c : Char}

/-- The cursor behind the first character of a unit. -/
private theorem reading_first (scanner : Scanner) (ascii : c.toNat < 0x80) :
    reading scanner (encode [c]) =
      ⟨scanner.offset, scanner.offset + 1, scanner.line + if c = '\n' then 1 else 0⟩ := by
  have single : encode [c] = [] ++ [c.toUInt8] := Utf8.encode_cons_ascii ascii []
  rw [single, reading_append, reading_nil, lineFeeds_singleton, latin_toUInt8 ascii]
  rfl

private theorem matchNext_reading (behind : scanner.StandsBehind text before)
    (same : scanner.rest = front ++ rest) (ascii : c.toNat < 0x80) (present : c ≠ '\x00')
    (other : c ≠ '\n') :
    matchNext (encode text) c (reading scanner (encode front)) =
      .ok (if rest.head? = some c then some (reading scanner (encode (front ++ [c]))) else none) := by
  have whole : encode scanner.rest = encode front ++ encode rest := by
    rw [same, Utf8.encode_append]
  have feed : latin c.toUInt8 ≠ '\n' := by rwa [latin_toUInt8 ascii]
  rw [matchNext_eq present, drop_reading behind whole]
  simp only [seen_eq_iff ascii present, Utf8.head?_encode_eq_some_iff ascii]
  rw [← reading_snoc scanner _ feed, Utf8.encode_append, Utf8.encode_cons_ascii ascii]
  rfl

private theorem succeeds_mark (behind : scanner.StandsBehind text before) {lexeme : List Char}
    (member : (lexeme, kind) ∈ markTexts) (same : scanner.rest = lexeme ++ rest)
    (stops : ∀ c ∈ rest.head?, c ∉ Segment.extenders kind) :
    Succeeds text scanner
      (token silent (encode text) kind .none (reading scanner (encode lexeme))) := by
  have begins : Begins ⟨.mark kind, lexeme⟩ rest := ⟨.inl (.mark member), trivial, stops⟩
  exact succeeds_token behind begins same (.mark kind lexeme)

private theorem succeeds_stray (behind : scanner.StandsBehind text before)
    (same : scanner.rest = c :: rest) (isStray : IsStray c) (d : Char) :
    Succeeds text scanner
      (stray silent (encode text) d ⟨scanner.offset, scanner.offset + 1, scanner.line⟩) := by
  have cut := slice_eq before (c :: rest) []
  rw [List.append_nil, ← same, ← behind.whole, ← Utf8.length_encode text, ← behind.offset] at cut
  have head : scanner.rest.head?.getD d = c := by
    rw [same]
    rfl
  have begins : Begins ⟨.stray, [c]⟩ rest := ⟨.inr ⟨c, isStray, rfl⟩, trivial, trivial⟩
  have finished := succeeds_result behind begins same (.stray c)
  have noFeed : feeds [c] = 0 := by
    rw [feeds, List.count_eq_zero.mpr (by simpa using isStray.ne_feed.symm)]
    rfl
  rw [reading, lineFeeds_encode, noFeed, Utf8.length_encode, UInt32.add_zero, Utf8.size_cons,
    Utf8.size_nil, Nat.add_zero] at finished
  rw [stray]
  simp only [cut, lift_ok_bind, head]
  exact finished

/-- The loops begin with nothing behind what opens the unit. -/
private theorem succeeds_open (behind : scanner.StandsBehind text before) {opening : List Char}
    (same : scanner.rest = opening ++ rest) (within : Within point (encode opening) (encode rest)) :
    Succeeds text scanner (.ok (.goesOn point (reading scanner (encode opening)))) := by
  have whole : encode scanner.rest = encode opening ++ encode rest := by
    rw [same, Utf8.encode_append]
  exact ⟨_, rfl, scanner, rfl, .within behind whole within⟩

private theorem succeeds_slash (behind : scanner.StandsBehind text before)
    (same : scanner.rest = ['/'] ++ rest) :
    Succeeds text scanner (slash silent (encode text) (reading scanner (encode ['/']))) := by
  rw [slash, matchNext_reading behind same (by decide) (by decide) (by decide), lift_ok_bind]
  by_cases line : rest.head? = some '/'
  · rw [if_pos line]
    obtain ⟨comment, rfl⟩ := List.head?_eq_some_iff.mp line
    exact succeeds_open behind same (.lineComment List.not_mem_nil)
  · rw [if_neg line]
    simp only [matchNext_reading behind same (c := '*') (by decide) (by decide) (by decide),
      lift_ok_bind]
    by_cases block : rest.head? = some '*'
    · rw [if_pos block]
      obtain ⟨comment, rfl⟩ := List.head?_eq_some_iff.mp block
      exact succeeds_open behind same (.blockComment (noEnd_nil _))
    · rw [if_neg block]
      refine succeeds_mark behind (by simp [markTexts]) same fun d head extended => ?_
      have next : rest.head? = some d := head
      simp only [Segment.extenders, List.mem_cons, List.not_mem_nil, or_false] at extended
      rcases extended with rfl | rfl
      · exact line next
      · exact block next

private theorem extenders_of_loneMark? (found : loneMark? c = some kind) :
    Segment.extenders kind = [] := by
  unfold loneMark? at found
  split at found <;> cases found <;> rfl

private theorem succeeds_extensible (behind : scanner.StandsBehind text before)
    (same : scanner.rest = [c] ++ rest) (found : extensibleMark? c = some (kind, extended)) :
    Succeeds text scanner (do
      match ← matchNext (encode text) '=' (reading scanner (encode [c])) with
      | some cursor => token silent (encode text) extended .none cursor
      | none => token silent (encode text) kind .none (reading scanner (encode [c]))) := by
  obtain ⟨plainText, extendedText⟩ := Segment.extensibleMark?_mem found
  rw [matchNext_reading behind same (by decide) (by decide) (by decide), ok_bind]
  by_cases equal : rest.head? = some '='
  · rw [if_pos equal]
    obtain ⟨more, rfl⟩ := List.head?_eq_some_iff.mp equal
    refine succeeds_mark behind extendedText (by simpa using same) ?_
    rw [Segment.extenders_pair _ extendedText (by simp)]
    simp
  · rw [if_neg equal]
    have notSlash : c ≠ '/' := by
      rintro rfl
      simp [extensibleMark?] at found
    refine succeeds_mark behind plainText same fun d head member => ?_
    obtain rfl : d = '=' := Segment.extenders_single _ plainText (by simpa using notSlash) d member
    exact equal head

private theorem succeeds_blank (behind : scanner.StandsBehind text before)
    (bounded : text.count '\n' < 4294967295) (same : scanner.rest = [c] ++ rest)
    (ascii : c.toNat < 0x80) (blank : isBlank c) : Succeeds text scanner (do
      let cursor ← countLine c ⟨scanner.offset, scanner.offset + 1, scanner.line⟩
      return .goesOn .head cursor) := by
  have begins : Begins ⟨.blank, [c]⟩ rest :=
    ⟨.inl (.blank (isBlank_iff.mp blank)), trivial, trivial⟩
  have finished := succeeds_trivia behind begins same (.inl rfl)
  have counted : c = '\n' → scanner.line.toNat < 4294967295 := by
    rintro rfl
    have whole : encode scanner.rest = [] ++ '\n'.toUInt8 :: encode rest := by
      rw [same]
      rfl
    have line := line_lt behind bounded whole
    rwa [reading_nil] at line
  rw [countLine_eq counted, ok_bind, ← reading_first scanner ascii]
  exact finished

/-- Single bytes below 0x80 are dispatched as the characters that they are. -/
private theorem succeeds_dispatch (behind : scanner.StandsBehind text before)
    (bounded : text.count '\n' < 4294967295) (same : scanner.rest = [c] ++ rest)
    (ascii : c.toNat < 0x80) : Succeeds text scanner
      (dispatch silent (encode text) c ⟨scanner.offset, scanner.offset + 1, scanner.line⟩) := by
  rw [dispatch]
  by_cases blank : isBlank c
  · rw [if_pos blank]
    exact succeeds_blank behind bounded same ascii blank
  · rw [if_neg blank]
    have other : c ≠ '\n' := by
      rintro rfl
      exact blank rfl
    have first := reading_first scanner ascii
    rw [if_neg other, UInt32.add_zero] at first
    cases lone : loneMark? c with
    | some kind =>
      rw [← first]
      refine succeeds_mark behind (Segment.loneMark?_mem lone) same ?_
      rw [extenders_of_loneMark? lone]
      simp
    | none =>
      cases extensible : extensibleMark? c with
      | some kinds =>
        rw [← first]
        exact succeeds_extensible behind same extensible
      | none =>
        dsimp only
        by_cases slash : c = '/'
        · subst slash
          rw [if_pos rfl, ← first]
          exact succeeds_slash behind same
        · rw [if_neg slash]
          by_cases quote : c = '"'
          · subst quote
            rw [if_pos rfl, ← first]
            exact succeeds_open behind same (.string List.not_mem_nil)
          · rw [if_neg quote]
            by_cases digit : c.isDigit
            · rw [if_pos digit, ← first]
              exact succeeds_open behind same (.whole (by simp) (by simpa using digit))
            · rw [if_neg digit]
              by_cases start : isWordStart c
              · rw [if_pos start, ← first]
                exact succeeds_open behind same (.word start (by simp))
              · rw [if_neg start]
                have nothing : BeginsNothing c := ⟨Bool.eq_false_iff.mpr blank, lone,
                  extensible, slash, quote, Bool.eq_false_iff.mpr digit,
                  Bool.eq_false_iff.mpr start⟩
                exact succeeds_stray behind same nothing.isStray c

/-- What the rules for units do not know is stray. -/
private theorem dispatch_eq_stray (nothing : BeginsNothing c) (bytes : List UInt8)
    (cursor : Cursor) : dispatch silent bytes c cursor = stray silent bytes c cursor := by
  simp [dispatch, nothing.blank, nothing.lone, nothing.extensible, nothing.slash, nothing.quote,
    nothing.digit, nothing.start]

private theorem succeeds_head {begin : Nat} (behind : scanner.StandsBehind text before)
    (begun : IsBoundary text begin) (le : begin ≤ scanner.offset) :
    Succeeds text scanner
      (step (encode text) .head ⟨begin, scanner.offset, scanner.line⟩) := by
  have here := drop_reading behind (List.nil_append (encode scanner.rest)).symm
  rw [reading_nil] at here
  cases ahead : scanner.rest with
  | nil =>
    have done : isEnd (encode text) ⟨begin, scanner.offset, scanner.line⟩ = true := by
      rw [isEnd_iff, here, ahead]
      rfl
    have nothing : scanner.next = (none, scanner) := by
      obtain ⟨rest, offset, line⟩ := scanner
      obtain rfl : rest = [] := ahead
      rw [Scanner.next]
    rw [step, move, if_pos done]
    exact ⟨_, rfl, scanner, nothing, .head behind begun le⟩
  | cons c rest =>
    obtain ⟨byte, more, bytes, -⟩ := Utf8.firstPiece_encodeChar c []
    have first : encode scanner.rest = byte :: (more ++ encode rest) := by
      rw [ahead, Utf8.encode_cons, bytes]
      rfl
    have notDone : ¬ isEnd (encode text) ⟨begin, scanner.offset, scanner.line⟩ = true := by
      rw [isEnd_iff, here, first]
      simp
    rw [step, move, if_neg notDone, nextChar_eq (here.trans first), lift_ok_bind]
    exact ⟨_, rfl, scanner, rfl, .dispatch behind first⟩

/-- The first byte of a longer character is dispatched as a stray one. -/
private theorem succeeds_first (behind : scanner.StandsBehind text before)
    (bounded : text.count '\n' < 4294967295) (whole : encode scanner.rest = byte :: ahead) :
    Succeeds text scanner (step (encode text) (.dispatch (latin byte))
      ⟨scanner.offset, scanner.offset + 1, scanner.line⟩) := by
  rw [step, move]
  by_cases ascii : byte.toNat < 0x80
  · obtain ⟨rest, same, -⟩ := exists_first whole ascii
    exact succeeds_dispatch behind bounded same (by rwa [toNat_latin])
  · rw [dispatch_eq_stray (.of_le (by rw [toNat_latin]; omega))]
    cases rest : scanner.rest with
    | nil => simp [rest, encode] at whole
    | cons c rest' =>
      have large : 0x80 ≤ c.toNat := by
        refine Nat.not_lt.mp fun small => ascii ?_
        rw [rest, Utf8.encode_cons_ascii small] at whole
        rw [← (List.cons.inj whole).1, Utf8.toNat_toUInt8 small]
        exact small
      exact succeeds_stray behind rest (BeginsNothing.of_le large).isStray _

/-- One motion: whatever a cursor is doing that keeps step with the scanner, it succeeds in the next
motion and keeps step on. -/
theorem Stands.succeeds (bounded : text.count '\n' < 4294967295)
    (stands : Stands text scanner point cursor) :
    Succeeds text scanner (step (encode text) point cursor) := by
  cases stands with
  | head behind begun le => exact succeeds_head behind begun le
  | dispatch behind whole => exact succeeds_first behind bounded whole
  | within behind whole within =>
    cases within with
    | lineComment noFeed => exact succeeds_lineComment behind whole noFeed
    | blockComment noEnd => exact succeeds_blockComment behind bounded whole noEnd
    | string noQuote => exact succeeds_string behind bounded whole noQuote
    | whole nonempty numeric => exact succeeds_whole behind whole nonempty numeric
    | decimals nonempty numeric numeric' some =>
      exact succeeds_decimals behind whole nonempty numeric numeric' some
    | word start parts => exact succeeds_word behind whole start parts

end Steps

end Cursor

end Lox
