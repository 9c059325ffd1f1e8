import Lox.Proofs.Boundaries
import Lox.Proofs.Concatenation

/-!
Line endings. A carriage return in front of each line feed is read over like a blank: the results are
those that there are without them, only that strings keep their carriage returns and that a stray
character stands further on by the carriage returns before it.
-/

namespace Lox

/-- The text with a carriage return put in front of each line feed. -/
def withReturns (text : List Char) : List Char :=
  text.flatMap fun c => if c = '\n' then ['\r', '\n'] else [c]

@[simp] theorem withReturns_nil : withReturns [] = [] := rfl

@[simp] theorem withReturns_feed (text : List Char) :
    withReturns ('\n' :: text) = '\r' :: '\n' :: withReturns text := rfl

theorem withReturns_cons {c : Char} (other : c ≠ '\n') (text : List Char) :
    withReturns (c :: text) = c :: withReturns text := by
  simp [withReturns, other]

@[simp] theorem withReturns_append (text text' : List Char) :
    withReturns (text ++ text') = withReturns text ++ withReturns text' := List.flatMap_append

theorem withReturns_of_not_mem {text : List Char} (absent : '\n' ∉ text) :
    withReturns text = text := by
  induction text with
  | nil => rfl
  | cons c text ih =>
    rw [List.mem_cons, not_or] at absent
    rw [withReturns_cons (Ne.symm absent.1), ih absent.2]

private theorem mem_withReturns_iff {c : Char} (other : c ≠ '\r') {text : List Char} :
    c ∈ withReturns text ↔ c ∈ text := by
  induction text with
  | nil => rfl
  | cons d text ih =>
    by_cases feed : d = '\n'
    · subst feed
      simp [other, ih]
    · simp [withReturns_cons feed, ih]

private theorem count_feed_withReturns (text : List Char) :
    (withReturns text).count '\n' = text.count '\n' := by
  induction text with
  | nil => rfl
  | cons c text ih =>
    by_cases feed : c = '\n'
    · subst feed
      simp [ih]
    · rw [withReturns_cons feed, List.count_cons_of_ne feed, List.count_cons_of_ne feed, ih]

@[simp] theorem feeds_withReturns (text : List Char) : feeds (withReturns text) = feeds text := by
  rw [feeds, count_feed_withReturns, feeds]

private theorem size_withReturns (text : List Char) :
    Utf8.size (withReturns text) = Utf8.size text + text.count '\n' := by
  induction text with
  | nil => rfl
  | cons c text ih =>
    by_cases feed : c = '\n'
    · subst feed
      have one : '\r'.utf8Size = 1 := by decide
      rw [withReturns_feed, Utf8.size_cons, Utf8.size_cons, Utf8.size_cons, ih, one,
        List.count_cons_self]
      omega
    · rw [withReturns_cons feed, Utf8.size_cons, Utf8.size_cons, ih, List.count_cons_of_ne feed]
      omega

/-- The next character is the same one, or a carriage return in place of a line feed. -/
private theorem forall_head?_withReturns {P : Char → Prop} (carriage : P '\r') {text : List Char}
    (each : ∀ c ∈ text.head?, P c) : ∀ c ∈ (withReturns text).head?, P c := by
  cases text with
  | nil => simp
  | cons d text =>
    by_cases feed : d = '\n'
    · subst feed
      simpa using carriage
    · rw [withReturns_cons feed]
      exact each

/-- No end of a comment comes about. -/
private theorem not_infix_end_withReturns {text : List Char} (noEnd : ¬ ['*', '/'] <:+: text) :
    ¬ ['*', '/'] <:+: withReturns text := by
  induction text with
  | nil => exact noEnd
  | cons c text ih =>
    rw [isInfix_pair_cons, not_or] at noEnd
    by_cases feed : c = '\n'
    · subst feed
      rw [withReturns_feed, isInfix_pair_cons, isInfix_pair_cons]
      simpa using ih noEnd.2
    · rw [withReturns_cons feed, isInfix_pair_cons, not_or]
      refine ⟨?_, ih noEnd.2⟩
      rintro ⟨rfl, head⟩
      have notSlash : ∀ c ∈ text.head?, c ≠ '/' := by
        rintro c head' rfl
        exact noEnd.1 ⟨rfl, head'⟩
      exact forall_head?_withReturns (by decide) notSlash '/' head rfl

/-- A text that goes on over a line's end keeps its shape, unless it is nothing but that end. -/
theorem Shape.Admits.returned (admits : Shape.Admits shape text) (feed : '\n' ∈ text)
    (notBlank : shape ≠ .blank) : Shape.Admits shape (withReturns text) := by
  rcases admits.shape_of_feed feed with rfl | rfl | rfl | rfl | rfl
  · exact absurd rfl notBlank
  · cases admits with
    | @blockComment body noEnd =>
      have noEnd' := not_infix_end_withReturns noEnd
      rw [withReturns_append] at noEnd'
      simpa [withReturns_cons] using Shape.Admits.blockComment noEnd'
  · cases admits with
    | @string body noQuote =>
      have noQuote' : '"' ∉ withReturns body := by rwa [mem_withReturns_iff (by decide)]
      simpa [withReturns_cons] using Shape.Admits.string noQuote'
  · cases admits with
    | @openComment body noEnd =>
      have noEnd' := not_infix_end_withReturns noEnd
      simpa [withReturns_cons] using Shape.Admits.openComment noEnd'
  · cases admits with
    | @openString body noQuote =>
      have noQuote' : '"' ∉ withReturns body := by rwa [mem_withReturns_iff (by decide)]
      simpa [withReturns_cons] using Shape.Admits.openString noQuote'

namespace Segment

/-- The unit with a carriage return put in front of each line feed. -/
def returned (unit : Segment) : Segment := ⟨unit.shape, withReturns unit.text⟩

private theorem returned_of_not_mem {unit : Segment} (absent : '\n' ∉ unit.text) :
    unit.returned = unit := by
  rw [returned, withReturns_of_not_mem absent]

/-- A carriage return goes on with no unit. -/
theorem Stops.returned {unit : Segment} (stops : unit.Stops rest) :
    unit.Stops (withReturns rest) := by
  obtain ⟨shape, text⟩ := unit
  cases shape with
  | number =>
    obtain ⟨noDigit, noPoint⟩ := stops
    refine ⟨forall_head?_withReturns (by decide) noDigit, noPoint.imp_right ?_⟩
    intro noPoint c more same
    cases rest with
    | nil => simp at same
    | cons d rest =>
      by_cases feed : d = '\n'
      · subst feed
        simp at same
      · rw [withReturns_cons feed] at same
        obtain ⟨rfl, same'⟩ := List.cons.inj same
        have noDigit' : ∀ c ∈ rest.head?, ¬ c.isDigit := by
          intro c head
          obtain ⟨more, rfl⟩ := List.head?_eq_some_iff.mp head
          exact noPoint c more rfl
        exact forall_head?_withReturns (by decide) noDigit' c (by rw [same']; rfl)
  | word => exact forall_head?_withReturns (by decide) stops
  | mark kind =>
    have noExtender : '\r' ∉ extenders kind := by cases kind <;> decide
    exact forall_head?_withReturns noExtender stops
  | _ => trivial

/-- What is not itself the end of a line begins as before. A line comment does not: it takes the
carriage return in. -/
theorem Begins.returned {unit : Segment} (begins : unit.Begins rest)
    (notFeed : unit.shape = .blank → '\n' ∉ unit.text) (notComment : unit.shape ≠ .lineComment) :
    unit.returned.Begins (withReturns rest) := by
  have reaches : unit.returned.Reaches (withReturns rest) := by
    have reaches := begins.reaches
    obtain ⟨shape, text⟩ := unit
    cases shape with
    | lineComment => exact absurd rfl notComment
    | openComment | openString =>
      obtain rfl : rest = [] := reaches
      exact rfl
    | _ => trivial
  by_cases feed : '\n' ∈ unit.text
  · refine ⟨?_, reaches, ?_⟩
    · rcases begins.isUnit with admits | ⟨c, stray, rfl⟩
      · exact .inl (admits.returned feed fun blank => notFeed blank feed)
      · exact absurd (List.mem_singleton.mp feed).symm stray.ne_feed
    · have same : unit.returned.shape = unit.shape := rfl
      rcases begins.isUnit.shape_of_feed feed with shape | shape | shape | shape | shape <;>
        simp [Stops, same, shape]
  · rw [returned_of_not_mem feed] at reaches ⊢
    exact ⟨begins.isUnit, reaches, begins.stops.returned⟩

end Segment

/-- How many line feeds stand before a byte of the source. -/
def feedsBefore (source : List Char) (offset : Nat) : Nat :=
  ((Utf8.encode source).take offset).count '\n'.toUInt8

private theorem feedsBefore_size (before behind : List Char) :
    feedsBefore (before ++ behind) (Utf8.size before) = before.count '\n' := by
  rw [feedsBefore, Utf8.take_encode, Utf8.count_encode (by decide)]

/-- Only the text of a string may hold line feeds. -/
def Literal.returned : Literal → Literal
  | .string text => .string (String.ofList (withReturns text.toList))
  | literal => literal

/-- A result of a source as it is with a carriage return in front of each line feed of the source.
The line and all else that is not named stay. -/
def Result.returned (source : List Char) : Result → Result
  | .token t => .token { t with
      lexeme := String.ofList (withReturns t.lexeme.toList)
      literal := t.literal.returned }
  | .error ⟨line, .unexpectedCharacter c offset⟩ =>
      .error ⟨line, .unexpectedCharacter c (offset + feedsBefore source offset)⟩
  | .error e => .error e

theorem Delivers.returned (delivers : Delivers unit (Utf8.size before) line result)
    (isUnit : unit.IsUnit) (behind : List Char) :
    Delivers unit.returned (Utf8.size (withReturns before)) line
      (result.returned (before ++ behind)) := by
  have unmoved (others : unit.shape ∉ [.blank, .blockComment, .string, .openComment, .openString]) :
      withReturns unit.text = unit.text := by
    apply withReturns_of_not_mem
    intro feed
    exact others (by simpa using isUnit.shape_of_feed feed)
  have delivers' := delivers
  cases delivers with
  | string body =>
    simpa [Segment.returned, Result.returned, Literal.returned, withReturns_cons] using
      Delivers.string (withReturns body)
  | number | keyword | identifier | mark =>
    have same := unmoved (by simp)
    have elsewhere := delivers'.moved (Utf8.size (withReturns before)) line
    simpa [Segment.returned, Result.returned, Literal.returned, same] using elsewhere
  | openString text => exact .openString _
  | openComment text => exact .openComment _
  | stray c =>
    have same := unmoved (by simp)
    rw [Segment.returned, same, size_withReturns, ← feedsBefore_size before behind]
    exact .stray c

private theorem Segment.result?_returned {unit : Segment} (isUnit : unit.IsUnit)
    (isUnit' : unit.returned.IsUnit) (before behind : List Char) (line : UInt32) :
    unit.returned.result? (Utf8.size (withReturns before)) line =
      (unit.result? (Utf8.size before) line).map (Result.returned (before ++ behind)) := by
  cases found : unit.result? (Utf8.size before) line with
  | none =>
    have trivia : unit.returned.IsTrivia := (isUnit.isTrivia_iff _ _).mpr found
    exact trivia.result?_eq_none _ _
  | some result =>
    have delivers := isUnit.result?_eq_some_iff.mp found
    exact isUnit'.result?_eq_some_iff.mpr (delivers.returned isUnit behind)

private theorem Segment.IsUnit.eq_feed {text : List Char} (isUnit : IsUnit ⟨.blank, text⟩)
    (feed : '\n' ∈ text) : text = ['\n'] := by
  rcases isUnit with admits | ⟨c, -, same⟩
  · cases admits with
    | blank member => rw [List.mem_singleton.mp feed]
  · cases same

/-- A line's end is read over with its carriage return. -/
private theorem placed_feed (offset : Nat) (line : UInt32) (rest : List Char) :
    placed offset line (segments (withReturns ('\n' :: rest))) =
      placed (offset + Utf8.size (withReturns ['\n'])) (line + feeds ['\n'])
        (segments (withReturns rest)) := by
  have trivia : Trivia ['\r', '\n'] := .blank (by simp) (.blank (by simp) .nil)
  exact trivia.placed_append offset line (withReturns rest)

/-- A line comment takes the carriage return of its line's end in. -/
private theorem Segment.Begins.append_return {text : List Char}
    (begins : Begins ⟨.lineComment, text⟩ ('\n' :: rest)) (more : List Char) :
    Begins ⟨.lineComment, text ++ ['\r']⟩ ('\n' :: more) := by
  rcases begins.isUnit with admits | ⟨c, -, same⟩
  · cases admits with
    | @lineComment body noFeed =>
      have noFeed' : '\n' ∉ body ++ ['\r'] := by simp [noFeed]
      exact ⟨.inl (.lineComment noFeed'), .inr rfl, trivial⟩
  · cases same

/-- What a line comment takes in of its line's end is read over just as well. -/
private theorem placed_lineComment {text : List Char}
    (begins : Segment.Begins ⟨.lineComment, text⟩ rest) (offset : Nat) (line : UInt32) :
    placed offset line (segments (withReturns (text ++ rest))) =
      placed (offset + Utf8.size (withReturns text)) (line + feeds text)
        (segments (withReturns rest)) := by
  have noFeed : '\n' ∉ text := by
    intro feed
    simpa using begins.isUnit.shape_of_feed feed
  rw [withReturns_append, withReturns_of_not_mem noFeed]
  rcases begins.reaches with rfl | head
  · rw [withReturns_nil, segments_begins begins, placed]
    rfl
  · obtain ⟨more, rfl⟩ := List.head?_eq_some_iff.mp head
    have carriage : Trivia ['\r'] := .blank (by simp) .nil
    have passed := carriage.placed_append (offset + Utf8.size text) (line + feeds text)
      ('\n' :: withReturns more)
    have longer := segments_begins (begins.append_return (withReturns more))
    rw [List.append_assoc] at longer
    rw [withReturns_feed, ← List.singleton_append, longer, passed, placed, Utf8.size_append,
      feeds_append, Nat.add_assoc, UInt32.add_assoc]
    rfl

/-- The results of a text behind another one are those that it has without carriage returns. -/
private theorem placed_withReturns (before text : List Char) :
    placed (Utf8.size (withReturns before)) (1 + feeds before) (segments (withReturns text)) =
      (placed (Utf8.size before) (1 + feeds before) (segments text)).map
        (Result.returned (before ++ text)) := by
  induction text using units_induction generalizing before with
  | nil => simp [segments_nil, placed]
  | unit unit rest begins ih =>
    have later := ih (before ++ unit.text)
    simp only [withReturns_append, Utf8.size_append, feeds_append, ← UInt32.add_assoc,
      List.append_assoc] at later
    rw [segments_begins begins, placed, List.map_append, ← later]
    by_cases feed : unit.shape = .blank ∧ '\n' ∈ unit.text
    · obtain ⟨shape, text⟩ := unit
      obtain ⟨rfl, member⟩ : shape = .blank ∧ '\n' ∈ text := feed
      obtain rfl := begins.isUnit.eq_feed member
      rw [List.singleton_append, placed_feed]
      rfl
    · by_cases comment : unit.shape = .lineComment
      · obtain ⟨shape, text⟩ := unit
        obtain rfl : shape = .lineComment := comment
        rw [placed_lineComment begins]
        rfl
      · have begins' := begins.returned (fun blank => not_and.mp feed blank) comment
        have cut := segments_begins begins'
        have result := Segment.result?_returned begins.isUnit begins'.isUnit before
          (unit.text ++ rest) (1 + feeds before + feeds unit.text)
        have text : unit.returned.text = withReturns unit.text := rfl
        rw [text, ← withReturns_append] at cut
        rw [cut, placed, text, feeds_withReturns, result, Option.toList_map]

/-- A scan gives the same results, whether lines end with a line feed or with a carriage return and
a line feed, in the same order and on the same lines: a token only has carriage returns where its
text has line feeds, and a stray character has them before it. -/
theorem scan_withReturns (source : String) :
    scan (String.ofList (withReturns source.toList)) =
      (scan source).map (Result.returned source.toList) := by
  rw [scan_eq_placed, scan_eq_placed, String.toList_ofList]
  exact placed_withReturns [] source.toList

/-- The string gets a carriage return, and the stray character stands two further on. -/
example : scan "\"a\r\n\"\r\n@" =
    [.token ⟨.string, "\"a\r\n\"", .string "a\r\n", 2⟩, .error ⟨3, .unexpectedCharacter '@' 7⟩] ∧
    (scan "\"a\n\"\n@").map (Result.returned "\"a\n\"\n@".toList) = scan "\"a\r\n\"\r\n@" := by
  decide +kernel

end Lox
