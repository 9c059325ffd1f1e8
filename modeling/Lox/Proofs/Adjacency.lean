import Lox.Proofs.ScannedToken

namespace Lox

namespace TokenKind

/-- Identifiers and reserved words. -/
def IsWord (kind : TokenKind) : Prop := kind = .identifier ∨ kind ∈ keywords.map Prod.snd

instance : DecidablePred IsWord := fun kind =>
  inferInstanceAs (Decidable (kind = .identifier ∨ kind ∈ keywords.map Prod.snd))

/-- What the first character of a token says about its kind. -/
structure Opens (kind : TokenKind) (c : Char) (body : List Char) : Prop where
  digit : c.isDigit ↔ kind = .number
  part : isWordPart c ↔ kind.IsWord ∨ kind = .number
  equal : c = '=' ↔ kind = .equal ∨ kind = .equalEqual
  slash : c = '/' ↔ kind = .slash
  star : c = '*' ↔ kind = .star
  point : c = '.' ↔ kind = .dot
  alone : kind = .dot → body = []

private theorem opens_mark (member : (c :: body, kind) ∈ markTexts) : Opens kind c body := by
  have each : ∀ entry ∈ markTexts, ∀ c ∈ entry.1.head?,
      (c.isDigit ↔ entry.2 = .number) ∧ (isWordPart c ↔ entry.2.IsWord ∨ entry.2 = .number) ∧
        (c = '=' ↔ entry.2 = .equal ∨ entry.2 = .equalEqual) ∧ (c = '/' ↔ entry.2 = .slash) ∧
        (c = '*' ↔ entry.2 = .star) ∧ (c = '.' ↔ entry.2 = .dot) ∧
        (entry.2 = .dot → entry.1.tail = []) := by
    simp [markTexts, isWordPart, IsWord, keywords]
  obtain ⟨digit, part, equal, slash, star, point, alone⟩ := each _ member c rfl
  exact ⟨digit, part, equal, slash, star, point, alone⟩

private theorem isWordPart_of_isWordStart (start : isWordStart c) : isWordPart c := by
  simp only [isWordStart, isWordPart, Char.isAlphanum, Bool.or_eq_true] at start ⊢
  exact start.imp_left .inl

private theorem isWordPart_of_isDigit (digit : c.isDigit) : isWordPart c := by
  simp [isWordPart, Char.isAlphanum, digit]

/-- The first character of a word or a number is none of a mark's. -/
private theorem ne_of_isWordPart (part : isWordPart c) : c ≠ '=' ∧ c ≠ '/' ∧ c ≠ '*' ∧ c ≠ '.' := by
  refine ⟨?_, ?_, ?_, ?_⟩ <;> rintro rfl <;> revert part <;> decide

private theorem opens_number (digit : c.isDigit) (body : List Char) : Opens .number c body := by
  have part := isWordPart_of_isDigit digit
  obtain ⟨equal, slash, star, point⟩ := ne_of_isWordPart part
  constructor <;> simp [digit, part, equal, slash, star, point]

private theorem opens_word (start : isWordStart c) (word : kind.IsWord) (body : List Char) :
    Opens kind c body := by
  have part := isWordPart_of_isWordStart start
  obtain ⟨equal, slash, star, point⟩ := ne_of_isWordPart part
  have others : ∀ entry ∈ keywords, entry.2 ≠ .number ∧ entry.2 ≠ .equal ∧
      entry.2 ≠ .equalEqual ∧ entry.2 ≠ .slash ∧ entry.2 ≠ .star ∧ entry.2 ≠ .dot := by
    decide
  have other : kind ≠ .number ∧ kind ≠ .equal ∧ kind ≠ .equalEqual ∧ kind ≠ .slash ∧
      kind ≠ .star ∧ kind ≠ .dot := by
    rcases word with rfl | reserved
    · simp
    · obtain ⟨entry, member, rfl⟩ := List.mem_map.mp reserved
      exact others entry member
  have notDigit := isDigit_eq_false_of_isWordStart start
  constructor <;> simp [notDigit, part, equal, slash, star, point, word, other]

private theorem opens_string (body : List Char) : Opens .string '"' body := by
  constructor <;> simp [isWordPart, IsWord, keywords]

end TokenKind

namespace Token

variable {token : Token}

private theorem IsScanned.opens (scanned : token.IsScanned) :
    ∃ c body, token.lexeme.toList = c :: body ∧ token.kind.Opens c body := by
  obtain ⟨source, member⟩ := scanned
  obtain ⟨unit, -, isUnit, offset, line, delivers⟩ := exists_unit_of_mem_scan member
  have nonempty := isUnit.text_ne_nil
  cases delivers with
  | string body => exact ⟨'"', body ++ ['"'], by simp, TokenKind.opens_string _⟩
  | number numeral =>
    obtain ⟨c, body, rfl⟩ := List.exists_cons_of_ne_nil nonempty
    rcases isUnit with admits | ⟨_, -, same⟩
    · exact ⟨c, body, by simp, TokenKind.opens_number (isDigit_of_admits admits) body⟩
    · cases same
  | keyword reserved =>
    rcases isUnit with admits | ⟨_, -, same⟩
    · cases admits with
      | @word c body start parts =>
        exact ⟨c, body, by simp, TokenKind.opens_word (by simpa [isWordStart] using start)
          (.inr (List.mem_map.mpr ⟨_, reserved, rfl⟩)) body⟩
    · cases same
  | identifier free =>
    rcases isUnit with admits | ⟨_, -, same⟩
    · cases admits with
      | @word c body start parts =>
        exact ⟨c, body, by simp, TokenKind.opens_word (by simpa [isWordStart] using start)
          (.inl rfl) body⟩
    · cases same
  | mark kind text =>
    obtain ⟨c, body, rfl⟩ := List.exists_cons_of_ne_nil nonempty
    rcases isUnit with admits | ⟨_, -, same⟩
    · cases admits with
      | mark member => exact ⟨c, body, by simp, TokenKind.opens_mark member⟩
    · cases same

end Token

/-- Two neighbours that would be read as something else. -/
def Sticks (first second : Token) : Prop :=
  (first.kind.IsWord ∧ (second.kind.IsWord ∨ second.kind = .number)) ∨
    (first.kind = .number ∧ second.kind = .number) ∨
    (first.kind ∈ [.bang, .equal, .less, .greater] ∧ second.kind ∈ [.equal, .equalEqual]) ∨
    (first.kind = .slash ∧ second.kind ∈ [.slash, .star])

/-- A whole number, a point and a number, which would be read as one number. -/
def SticksAtPoint (first second third : Token) : Prop :=
  first.kind = .number ∧ '.' ∉ first.lexeme.toList ∧ second.kind = .dot ∧ third.kind = .number

/-- Some neighbours in the list would be read as something else. -/
def Glued (tokens : List Token) : Prop :=
  (∃ first second, [first, second] <:+: tokens ∧ Sticks first second) ∨
    ∃ first second third, [first, second, third] <:+: tokens ∧ SticksAtPoint first second third

/-- The first of the tokens behind it, or the first two, would make something else of a token. -/
def StartsGlued (first : Token) (behind : List Token) : Prop :=
  (∃ second more, behind = second :: more ∧ Sticks first second) ∨
    ∃ second third more, behind = second :: third :: more ∧ SticksAtPoint first second third

theorem glued_cons : Glued (first :: behind) ↔ StartsGlued first behind ∨ Glued behind := by
  simp only [Glued, StartsGlued, List.infix_cons_iff, List.cons_prefix_cons]
  constructor
  · rintro (⟨a, b, ⟨rfl, begins⟩ | later, sticks⟩ | ⟨a, b, c, ⟨rfl, begins⟩ | later, sticks⟩)
    · obtain ⟨more, rfl⟩ := begins
      exact .inl (.inl ⟨b, more, rfl, sticks⟩)
    · exact .inr (.inl ⟨a, b, later, sticks⟩)
    · obtain ⟨more, rfl⟩ := begins
      exact .inl (.inr ⟨b, c, more, rfl, sticks⟩)
    · exact .inr (.inr ⟨a, b, c, later, sticks⟩)
  · rintro ((⟨b, more, rfl, sticks⟩ | ⟨b, c, more, rfl, sticks⟩) |
      (⟨a, b, later, sticks⟩ | ⟨a, b, c, later, sticks⟩))
    · exact .inl ⟨first, b, .inl ⟨rfl, more, rfl⟩, sticks⟩
    · exact .inr ⟨first, b, c, .inl ⟨rfl, more, rfl⟩, sticks⟩
    · exact .inl ⟨a, b, .inr later, sticks⟩
    · exact .inr ⟨a, b, c, .inr later, sticks⟩

instance : DecidableRel Sticks := fun first second =>
  inferInstanceAs (Decidable (
    (first.kind.IsWord ∧ (second.kind.IsWord ∨ second.kind = .number)) ∨
      (first.kind = .number ∧ second.kind = .number) ∨
      (first.kind ∈ [.bang, .equal, .less, .greater] ∧ second.kind ∈ [.equal, .equalEqual]) ∨
      (first.kind = .slash ∧ second.kind ∈ [.slash, .star])))

instance (first second third : Token) : Decidable (SticksAtPoint first second third) :=
  inferInstanceAs (Decidable (first.kind = .number ∧ '.' ∉ first.lexeme.toList ∧
    second.kind = .dot ∧ third.kind = .number))

instance (first : Token) : (behind : List Token) → Decidable (StartsGlued first behind)
  | [] => isFalse (by simp [StartsGlued])
  | [second] => decidable_of_iff (Sticks first second) (by simp [StartsGlued])
  | second :: third :: more =>
    decidable_of_iff (Sticks first second ∨ SticksAtPoint first second third)
      (by simp [StartsGlued, and_assoc])

instance decidableGlued : (tokens : List Token) → Decidable (Glued tokens)
  | [] => isFalse (by simp [Glued])
  | first :: behind =>
    have := decidableGlued behind
    decidable_of_iff (StartsGlued first behind ∨ Glued behind) glued_cons.symm

open Segment (joined extenders NumberStops)

section Next

variable {first : Token} {behind : List Token}

private theorem head_stops_iff {P : Char → Prop} {Q : Token → Prop}
    (agree : ∀ token c body, token.kind.Opens c body → (P c ↔ Q token))
    (each : ∀ token ∈ behind, token.IsScanned) :
    (∀ c ∈ (joined (behind.map Token.unit)).head?, ¬ P c) ↔
      ¬ ∃ second more, behind = second :: more ∧ Q second := by
  cases behind with
  | nil => simp
  | cons second more =>
    obtain ⟨c, body, lexeme, opens⟩ := (each second (by simp)).opens
    have head : (joined ((second :: more).map Token.unit)).head? = some c := by
      simp [Token.unit, lexeme]
    rw [head]
    constructor
    · rintro stops ⟨_, _, same, glued⟩
      cases same
      exact stops c rfl ((agree _ _ _ opens).mpr glued)
    · rintro free _ ⟨⟩ glued
      exact free ⟨second, more, rfl, (agree _ _ _ opens).mp glued⟩

/-- Behind a point that is followed by a digit stands a number. -/
private theorem point_digit_iff (each : ∀ token ∈ behind, token.IsScanned) :
    (∃ c more, joined (behind.map Token.unit) = '.' :: c :: more ∧ c.isDigit) ↔
      ∃ second third more, behind = second :: third :: more ∧ second.kind = .dot ∧
        third.kind = .number := by
  constructor
  · rintro ⟨c, more, same, digit⟩
    cases behind with
    | nil => simp at same
    | cons second rest =>
      obtain ⟨d, body, lexeme, opens⟩ := (each second (by simp)).opens
      simp only [List.map_cons, Segment.joined_cons, Token.unit, lexeme, List.cons_append,
        List.cons.injEq] at same
      have dot := opens.point.mp same.1
      cases rest with
      | nil => simp [opens.alone dot] at same
      | cons third rest =>
        obtain ⟨e, body', lexeme', opens'⟩ := (each third (by simp)).opens
        simp only [opens.alone dot, List.map_cons, Segment.joined_cons, Token.unit, lexeme',
          List.cons_append, List.nil_append, List.cons.injEq] at same
        exact ⟨second, third, rest, rfl, dot, opens'.digit.mp (same.2.1 ▸ digit)⟩
  · rintro ⟨second, third, rest, rfl, dot, number⟩
    obtain ⟨d, body, lexeme, opens⟩ := (each second (by simp)).opens
    obtain ⟨e, body', lexeme', opens'⟩ := (each third (by simp)).opens
    refine ⟨e, body' ++ joined (rest.map Token.unit), ?_, opens'.digit.mpr number⟩
    simp [Token.unit, lexeme, lexeme', opens.alone dot, opens.point.mpr dot]

private theorem stops_word_iff (word : first.kind.IsWord)
    (each : ∀ token ∈ behind, token.IsScanned) :
    (∀ c ∈ (joined (behind.map Token.unit)).head?, ¬ isWordPart c) ↔ ¬ StartsGlued first behind := by
  have other : ∀ kind : TokenKind, kind.IsWord → kind ≠ .number ∧ kind ≠ .slash ∧
      kind ∉ [.bang, .equal, .less, .greater] := by
    intro kind
    cases kind <;> decide
  obtain ⟨notNumber, notSlash, notExtensible⟩ := other _ word
  rw [head_stops_iff (fun _ _ _ opens => opens.part) each]
  simp only [StartsGlued, Sticks, SticksAtPoint, word, notNumber, notSlash, notExtensible,
    true_and, false_and, and_false, or_false, exists_false]

private theorem stops_mark_iff (notWord : ¬ first.kind.IsWord) (notNumber : first.kind ≠ .number)
    (each : ∀ token ∈ behind, token.IsScanned) :
    (∀ c ∈ (joined (behind.map Token.unit)).head?, c ∉ extenders first.kind) ↔
      ¬ StartsGlued first behind := by
  have sorts : ∀ kind : TokenKind,
      (kind = .slash ∧ kind ∉ [.bang, .equal, .less, .greater] ∧ extenders kind = ['/', '*']) ∨
        (kind ≠ .slash ∧ kind ∈ [.bang, .equal, .less, .greater] ∧ extenders kind = ['=']) ∨
        (kind ≠ .slash ∧ kind ∉ [.bang, .equal, .less, .greater] ∧ extenders kind = []) := by
    intro kind
    cases kind <;> decide
  have agree (token : Token) (c : Char) (body : List Char) (opens : token.kind.Opens c body) :
      c ∈ extenders first.kind ↔ Sticks first token := by
    simp only [Sticks, notWord, notNumber, false_and, false_or]
    obtain ⟨slash, extensible, only⟩ | ⟨slash, extensible, only⟩ | ⟨slash, extensible, only⟩ :=
      sorts first.kind
    · rw [only]
      simp [slash, opens.slash, opens.star]
    · simp only [slash, extensible, only]
      simp [opens.equal]
    · simp [slash, extensible, only]
  rw [head_stops_iff agree each]
  simp only [StartsGlued, SticksAtPoint, notNumber, false_and, and_false, or_false, exists_false]

private theorem stops_number_iff (number : first.kind = .number)
    (each : ∀ token ∈ behind, token.IsScanned) :
    NumberStops first.lexeme.toList (joined (behind.map Token.unit)) ↔
      ¬ StartsGlued first behind := by
  have notWord : ¬ TokenKind.number.IsWord := by simp [TokenKind.IsWord, TokenKind.keywords]
  have sticks (second : Token) : Sticks first second ↔ second.kind = .number := by
    simp [Sticks, number, notWord]
  have point : (∀ c more, joined (behind.map Token.unit) = '.' :: c :: more → ¬ c.isDigit) ↔
      ¬ ∃ second third more, behind = second :: third :: more ∧ second.kind = .dot ∧
        third.kind = .number := by
    rw [← point_digit_iff each]
    simp
  rw [NumberStops, head_stops_iff (fun _ _ _ opens => opens.digit) each, point]
  simp only [StartsGlued, sticks, SticksAtPoint, number, true_and, not_or]
  by_cases fractional : '.' ∈ first.lexeme.toList
  · simp [fractional]
  · simp [fractional]

end Next

private theorem TokenKind.shape_cases (kind : TokenKind) :
    (kind = .string ∧ kind.shape = .string) ∨ (kind = .number ∧ kind.shape = .number) ∨
      (kind.IsWord ∧ kind.shape = .word) ∨
      (¬ kind.IsWord ∧ kind ≠ .number ∧ kind.shape = .mark kind) := by
  cases kind <;> decide

/-- A token's unit stops in front of the tokens behind it unless they make something else of it. -/
private theorem stops_iff (first : Token) (each : ∀ token ∈ behind, token.IsScanned) :
    first.unit.Stops (joined (behind.map Token.unit)) ↔ ¬ StartsGlued first behind := by
  obtain ⟨string, shape⟩ | ⟨number, shape⟩ | ⟨word, shape⟩ | ⟨notWord, notNumber, shape⟩ :=
    first.kind.shape_cases
  · have notWord : ¬ TokenKind.string.IsWord := by simp [TokenKind.IsWord, TokenKind.keywords]
    simp only [Segment.Stops, Token.unit, shape]
    simp [StartsGlued, Sticks, SticksAtPoint, string, notWord]
  · simpa only [Segment.Stops, Token.unit, shape] using stops_number_iff number each
  · simpa only [Segment.Stops, Token.unit, shape] using stops_word_iff word each
  · simpa only [Segment.Stops, Token.unit, shape] using stops_mark_iff notWord notNumber each

variable {tokens : List Token}

private theorem begins_iff (scanned : first.IsScanned) (each : ∀ token ∈ behind, token.IsScanned) :
    first.unit.Begins (joined (behind.map Token.unit)) ↔ ¬ StartsGlued first behind := by
  rw [← stops_iff first each]
  exact ⟨fun begins => begins.stops, fun stops => ⟨scanned.isUnit, first.unit_reaches _, stops⟩⟩

/-- The units of tokens are those of their joined lexemes exactly if no neighbours stick. -/
private theorem inOrder_units_iff (each : ∀ token ∈ tokens, token.IsScanned) :
    Segment.InOrder (tokens.map Token.unit) ↔ ¬ Glued tokens := by
  induction tokens with
  | nil => simp [Segment.InOrder.nil, Glued]
  | cons first behind ih =>
    have scanned := each first (by simp)
    have each' : ∀ token ∈ behind, token.IsScanned :=
      fun token member => each token (by simp [member])
    rw [glued_cons, not_or, ← begins_iff scanned each', ← ih each']
    constructor
    · intro inOrder
      cases inOrder with
      | cons begins inOrder => exact ⟨begins, inOrder⟩
    · rintro ⟨begins, inOrder⟩
      exact .cons begins inOrder

/-- The content of a token, and nothing for an error. -/
def Result.content? (result : Result) : Option (TokenKind × String × Literal) :=
  result.token?.map Token.content

private theorem placed_units (each : ∀ token ∈ tokens, token.IsScanned) (offset : Nat)
    (line : UInt32) : (placed offset line (tokens.map Token.unit)).map Result.content? =
      tokens.map fun token => some token.content := by
  induction tokens generalizing offset line with
  | nil => rfl
  | cons token tokens ih =>
    have here := (each token (by simp)).result? offset (line + feeds token.unit.text)
    have later := ih fun other member => each other (by simp [member])
    rw [List.map_cons, placed, here, List.map_append, later]
    rfl

private theorem Result.content?_eq_some (found : content? result = some content) :
    ∃ token, result = .token token ∧ token.content = content := by
  cases result with
  | token token => exact ⟨token, rfl, Option.some.inj found⟩
  | error error => simp [content?, token?] at found

private theorem Token.unit_congr {token token' : Token} (same : token.content = token'.content) :
    token.unit = token'.unit := by
  simp only [content, Prod.mk.injEq] at same
  simp [unit, same.1, same.2.1]

/-- Units that deliver the contents of tokens are the units of those tokens, but for blanks and
comments between them. -/
private theorem filter_units_eq {units : List Segment} (isUnit : ∀ unit ∈ units, unit.IsUnit)
    (contents : (placed offset line units).map Result.content? =
      tokens.map fun token => some token.content) :
    (units.filter fun unit => ¬ unit.IsTrivia) = tokens.map Token.unit := by
  -- Each unit that delivers something uses up a token.
  induction units generalizing tokens offset line with
  | nil =>
    cases tokens with
    | nil => rfl
    | cons token tokens => simp [placed] at contents
  | cons unit units ih =>
    obtain ⟨here, isUnit'⟩ := List.forall_mem_cons.mp isUnit
    rw [placed, List.map_append] at contents
    cases found : unit.result? offset (line + feeds unit.text) with
    | none =>
      have trivia := (here.isTrivia_iff _ _).mpr found
      rw [found] at contents
      simpa [trivia] using ih isUnit' contents
    | some result =>
      have notTrivia := Segment.not_isTrivia_of_result? found
      rw [found] at contents
      cases tokens with
      | nil => simp at contents
      | cons token tokens =>
        obtain ⟨first, later⟩ := List.cons.inj contents
        obtain ⟨delivered, rfl, same⟩ := Result.content?_eq_some first
        have delivers := here.result?_eq_some_iff.mp found
        rw [List.filter_cons_of_pos (by simpa using notTrivia), ih isUnit' later, List.map_cons,
          ← Token.unit_congr same, delivers.unit_eq here]

private theorem length_joined_filter_le (p : Segment → Bool) (units : List Segment) :
    (joined (units.filter p)).length ≤ (joined units).length := by
  induction units with
  | nil => simp
  | cons unit units ih =>
    rw [List.filter_cons]
    split <;> simp only [Segment.joined_cons, List.length_append] <;> omega

/-- No unit can be left out without a loss of text. -/
private theorem filter_eq_self_of_joined {units : List Segment}
    (isUnit : ∀ unit ∈ units, unit.IsUnit)
    (same : joined (units.filter p) = joined units) : units.filter p = units := by
  induction units with
  | nil => rfl
  | cons unit units ih =>
    obtain ⟨here, isUnit'⟩ := List.forall_mem_cons.mp isUnit
    by_cases kept : p unit
    · rw [List.filter_cons_of_pos kept] at same ⊢
      rw [ih isUnit' (List.append_cancel_left same)]
    · rw [List.filter_cons_of_neg kept] at same
      have fewer := length_joined_filter_le p units
      have nonempty := List.length_pos_iff.mpr here.text_ne_nil
      rw [same, Segment.joined_cons, List.length_append] at fewer
      omega

/-- Lexemes of tokens, written without anything between them, are read as these tokens and nothing
else exactly if no neighbours stick. -/
theorem scan_join_iff_not_glued (tokens : List Token)
    (scanned : ∀ token ∈ tokens, token.IsScanned) :
    ((scan (String.join (tokens.map Token.lexeme))).map Result.content? =
      tokens.map fun token => some token.content) ↔ ¬ Glued tokens := by
  have text : (String.join (tokens.map Token.lexeme)).toList = joined (tokens.map Token.unit) := by
    simp [joined, List.flatMap_map, Token.unit]
  rw [← inOrder_units_iff scanned, ← segments_joined_iff, scan_eq_placed, text]
  constructor
  · intro contents
    have isUnit : ∀ unit ∈ segments (joined (tokens.map Token.unit)), unit.IsUnit :=
      fun _ => isUnit_of_mem_segments
    have kept := filter_units_eq isUnit contents
    have whole : joined ((segments (joined (tokens.map Token.unit))).filter fun unit =>
        ¬ unit.IsTrivia) = joined (segments (joined (tokens.map Token.unit))) := by
      rw [kept, joined_segments]
    exact (filter_eq_self_of_joined isUnit whole).symm.trans kept
  · intro same
    rw [same]
    exact placed_units scanned 0 1

/-- Between a fraction and a number a point is read as itself. -/
theorem scan_join_point_behind_fraction :
    let tokens : List Token :=
      [⟨.number, "1.5", .number ⟨0x3FF8000000000000⟩, 1⟩, ⟨.dot, ".", .none, 1⟩,
        ⟨.number, "2", .number ⟨0x4000000000000000⟩, 1⟩]
    (∀ token ∈ tokens, token.IsScanned) ∧ ¬ Glued tokens ∧
      (scan (String.join (tokens.map Token.lexeme))).map Result.content? =
        tokens.map fun token => some token.content := by
  intro tokens
  have scanned : ∀ token ∈ tokens, token.IsScanned := by
    simp only [tokens, List.forall_mem_cons]
    exact ⟨.of_scan_lexeme (by decide +kernel), .of_scan_lexeme (by decide +kernel),
      .of_scan_lexeme (by decide +kernel), by simp⟩
  have apart : ¬ Glued tokens := by decide +kernel
  exact ⟨scanned, apart, (scan_join_iff_not_glued tokens scanned).mpr apart⟩

end Lox
