import Mathlib
import Lox.Proofs.Adjacency
import Lox.Proofs.Sessions

namespace Lox

section Decoding

variable {α β γ : Type}

/-- What stands before the first separator is told, and so is what stands behind it. -/
private theorem append_separator_inj {separator : α} {front front' back back' : List α}
    (absent : separator ∉ front) (absent' : separator ∉ front')
    (same : front ++ separator :: back = front' ++ separator :: back') :
    front = front' ∧ back = back' := by
  induction front generalizing front' with
  | nil =>
    cases front' with
    | nil => exact ⟨rfl, (List.cons.inj same).2⟩
    | cons item front' => exact absurd (by simp [(List.cons.inj same).1]) absent'
  | cons item front ih =>
    cases front' with
    | nil => exact absurd (by simp [(List.cons.inj same).1]) absent
    | cons item' front' =>
      obtain ⟨rfl, rest⟩ := List.cons.inj same
      obtain ⟨rfl, behind⟩ := ih (fun member => absent (by simp [member]))
        (fun member => absent' (by simp [member])) rest
      exact ⟨rfl, behind⟩

/-- The records of the items in question tell a part of their item, whatever is written behind
them, and none is empty. -/
structure IsDecodable (inQuestion : α → Prop) (record : α → List β) (part : α → γ) : Prop where
  decodes : ∀ {item item' rest rest'}, inQuestion item → inQuestion item' →
    record item ++ rest = record item' ++ rest' → part item = part item' ∧ rest = rest'
  nonempty : ∀ {item}, inQuestion item → record item ≠ []

/-- Such records are told apart in a row. -/
private theorem IsDecodable.map_eq {inQuestion : α → Prop} {record : α → List β} {part : α → γ}
    (decodable : IsDecodable inQuestion record part) {items items' : List α}
    (each : ∀ item ∈ items, inQuestion item) (each' : ∀ item ∈ items', inQuestion item)
    (same : items.flatMap record = items'.flatMap record) : items.map part = items'.map part := by
  induction items generalizing items' with
  | nil =>
    cases items' with
    | nil => rfl
    | cons item' items' =>
      rw [List.flatMap_nil, List.flatMap_cons] at same
      exact absurd (List.append_eq_nil_iff.mp same.symm).1
        (decodable.nonempty (each' item' (by simp)))
  | cons item items ih =>
    cases items' with
    | nil =>
      rw [List.flatMap_nil, List.flatMap_cons] at same
      exact absurd (List.append_eq_nil_iff.mp same).1 (decodable.nonempty (each item (by simp)))
    | cons item' items' =>
      rw [List.flatMap_cons, List.flatMap_cons] at same
      obtain ⟨first, rest⟩ :=
        decodable.decodes (each item (by simp)) (each' item' (by simp)) same
      have later := ih (fun other member => each other (by simp [member]))
        (fun other member => each' other (by simp [member])) rest
      rw [List.map_cons, List.map_cons, first, later]

end Decoding

private theorem TokenKind.blank_not_mem_name (kind : TokenKind) : ' ' ∉ kind.name.toList := by
  cases kind <;> decide

private theorem TokenKind.name_injective {kind kind' : TokenKind} (same : kind.name = kind'.name) :
    kind = kind' := by
  have each : ∀ kind ∈ all, ∀ kind' ∈ all, kind.name = kind'.name → kind = kind' := by
    decide +kernel
  have member (kind : TokenKind) : kind ∈ all := by cases kind <;> decide
  exact each kind (member kind) kind' (member kind') same

private theorem not_isDigit_blank : ¬ ' '.isDigit := by decide

private theorem not_isWordPart_blank : isWordPart ' ' = false := by decide

theorem Shape.Admits.exists_body (admits : Shape.Admits .string text) :
    ∃ body, '"' ∉ body ∧ text = '"' :: (body ++ ['"']) := by
  cases admits with
  | string noQuote => exact ⟨_, noQuote, rfl⟩

namespace Token

variable {token token' : Token}

/-- What is written for a token. -/
def record (token : Token) : List Char := (Listing.record (.token token)).text.toList

theorem record_append (token : Token) (rest : List Char) :
    token.record ++ rest = token.kind.name.toList ++ ' ' ::
      (token.lexeme.toList ++ ' ' :: (token.literal.text.toList ++ '\n' :: rest)) := by
  simp [record, Listing.record, text]

/-- A string stands between quotes and has no quote inside, and no other token has a blank. -/
private theorem IsScanned.lexeme_cases (scanned : token.IsScanned) :
    (token.kind = .string ∧
        ∃ body, '"' ∉ body ∧ token.lexeme.toList = '"' :: (body ++ ['"'])) ∨
      (token.kind ≠ .string ∧ ' ' ∉ token.lexeme.toList) := by
  obtain ⟨source, member⟩ := scanned
  obtain ⟨unit, -, isUnit, offset, line, delivers⟩ := exists_unit_of_mem_scan member
  cases delivers with
  | string body =>
    rcases isUnit with admits | ⟨_, -, same⟩
    · obtain ⟨body', noQuote, text⟩ := admits.exists_body
      exact .inl ⟨rfl, body', noQuote, String.toList_ofList.trans text⟩
    · cases same
  | number numeral =>
    have noBlank := isUnit.not_mem_number not_isDigit_blank (by decide)
    exact .inr ⟨by simp, by rwa [String.toList_ofList]⟩
  | keyword reserved =>
    have noBlank := isUnit.not_mem_word not_isWordPart_blank
    have others : ∀ entry ∈ TokenKind.keywords, entry.2 ≠ .string := by decide
    exact .inr ⟨others _ reserved, by rwa [String.toList_ofList]⟩
  | identifier free =>
    have noBlank := isUnit.not_mem_word not_isWordPart_blank
    exact .inr ⟨by simp, by rwa [String.toList_ofList]⟩
  | mark kind text =>
    have others : ∀ entry ∈ markTexts, entry.2 ≠ .string ∧ ' ' ∉ entry.1 := by decide
    rcases isUnit with admits | ⟨_, -, same⟩
    · cases admits with
      | mark member =>
        obtain ⟨other, noBlank⟩ := others _ member
        exact .inr ⟨other, by rwa [String.toList_ofList]⟩
    · cases same

/-- A lexeme is told by its kind and what is written from it on. -/
private theorem IsScanned.lexeme_decodes (scanned : token.IsScanned) (scanned' : token'.IsScanned)
    (kind : token.kind = token'.kind) {rest rest' : List Char}
    (same : token.lexeme.toList ++ ' ' :: rest = token'.lexeme.toList ++ ' ' :: rest') :
    token.lexeme = token'.lexeme ∧ rest = rest' := by
  rcases scanned.lexeme_cases with ⟨string, body, noQuote, lexeme⟩ | ⟨other, noBlank⟩
  · rcases scanned'.lexeme_cases with ⟨-, body', noQuote', lexeme'⟩ | ⟨other', -⟩
    · rw [lexeme, lexeme'] at same
      simp only [List.cons_append, List.append_assoc, List.nil_append, List.cons.injEq,
        true_and] at same
      obtain ⟨rfl, behind⟩ := append_separator_inj noQuote noQuote' same
      exact ⟨String.toList_inj.mp (lexeme.trans lexeme'.symm), (List.cons.inj behind).2⟩
    · exact absurd (kind ▸ string) other'
  · rcases scanned'.lexeme_cases with ⟨string', -⟩ | ⟨-, noBlank'⟩
    · exact absurd (kind.trans string') other
    · obtain ⟨lexeme, behind⟩ := append_separator_inj noBlank noBlank' same
      exact ⟨String.toList_inj.mp lexeme, behind⟩

private theorem IsScanned.content_eq (scanned : token.IsScanned) (scanned' : token'.IsScanned)
    (kind : token.kind = token'.kind) (lexeme : token.lexeme = token'.lexeme) :
    token.content = token'.content := by
  have unit : token.unit = token'.unit := by rw [Token.unit, Token.unit, kind, lexeme]
  have delivered := scanned.result? 0 0
  rw [unit, scanned'.result?] at delivered
  have same := Result.token.inj (Option.some.inj delivered)
  exact (congrArg content same).symm

/-- A record tells its token but for the line. -/
private theorem isDecodable_record : IsDecodable IsScanned record content where
  decodes := by
    intro token token' rest rest' scanned scanned' same
    rw [record_append, record_append] at same
    obtain ⟨name, behindName⟩ := append_separator_inj token.kind.blank_not_mem_name
      token'.kind.blank_not_mem_name same
    have kind := TokenKind.name_injective (String.toList_inj.mp name)
    obtain ⟨lexeme, behindLexeme⟩ := scanned.lexeme_decodes scanned' kind behindName
    have content := scanned.content_eq scanned' kind lexeme
    have literal : token.literal = token'.literal := (Prod.mk.inj (Prod.mk.inj content).2).2
    rw [literal] at behindLexeme
    exact ⟨content, (List.cons.inj (List.append_cancel_left behindLexeme)).2⟩
  nonempty := by
    intro token _ empty
    simp [record, Listing.record] at empty

/-- Tokens of the same contents have the same records. -/
private theorem records_congr {tokens tokens' : List Token}
    (same : tokens.map content = tokens'.map content) :
    tokens.flatMap record = tokens'.flatMap record := by
  have each (tokens : List Token) : tokens.flatMap record =
      (tokens.map content).flatMap fun (kind, lexeme, literal) =>
        (Listing.record (.token ⟨kind, lexeme, literal, 0⟩)).text.toList := by
    rw [List.flatMap_map]
    rfl
  rw [each, each, same]

end Token

namespace LexicalError

/-- The causes that a scan reports. A stray character is none that a line or a blank ends with. -/
inductive Cause.IsReported : Cause → Prop where
  | stray (stray : IsStray c) (offset : Nat) : IsReported (.unexpectedCharacter c offset)
  | string : IsReported .unterminatedString
  | comment : IsReported .unterminatedComment

private theorem isReported_of_mem (member : error ∈ errorsOf source) : error.cause.IsReported := by
  obtain ⟨unit, -, isUnit, offset, line, delivers⟩ :=
    exists_unit_of_mem_scan (mem_errors_iff.mp member)
  cases delivers with
  | openString text => exact .string
  | openComment text => exact .comment
  | stray c => exact .stray isUnit.isStray offset

private theorem Cause.message_unterminatedString :
    message .unterminatedString = "Unterminated string" :=
  rfl

private theorem Cause.message_unterminatedComment :
    message .unterminatedComment = "Unterminated multi-line comment" := rfl

theorem Cause.message_stray_append (c : Char) (offset : Nat) (rest : List Char) :
    (unexpectedCharacter c offset).message.toList ++ rest =
      "Encountered unexpected character ".toList ++
        c :: (" at position ".toList ++ (offset.repr.toList ++ rest)) := by
  rw [message_unexpectedCharacter]
  simp [Char.toString]

/-- A message tells its cause and where it ends. -/
private theorem Cause.IsReported.message_decodes {cause cause' : Cause}
    (reported : cause.IsReported) (reported' : cause'.IsReported) {rest rest' : List Char}
    (same : cause.message.toList ++ '\n' :: rest = cause'.message.toList ++ '\n' :: rest') :
    cause = cause' ∧ rest = rest' := by
  cases reported with
  | @stray c stray offset =>
    rw [message_stray_append] at same
    cases reported' with
    | @stray c' stray' offset' =>
      rw [message_stray_append] at same
      obtain ⟨rfl, position⟩ := List.cons.inj (List.append_cancel_left same)
      have feed : ¬ '\n'.isDigit := by decide
      obtain ⟨digits, behind⟩ := append_separator_inj (not_mem_repr feed offset)
        (not_mem_repr feed offset') (List.append_cancel_left position)
      exact ⟨by rw [Nat.repr_inj.mp (String.toList_inj.mp digits)], behind⟩
    | string =>
      rw [message_unterminatedString] at same
      simp at same
    | comment =>
      rw [message_unterminatedComment] at same
      simp at same
  | string =>
    cases reported' with
    | stray =>
      rw [message_unterminatedString, message_stray_append] at same
      simp at same
    | string => exact ⟨rfl, (List.cons.inj (List.append_cancel_left same)).2⟩
    | comment =>
      rw [message_unterminatedString, message_unterminatedComment] at same
      simp at same
  | comment =>
    cases reported' with
    | stray =>
      rw [message_unterminatedComment, message_stray_append] at same
      simp at same
    | string =>
      rw [message_unterminatedString, message_unterminatedComment] at same
      simp at same
    | comment => exact ⟨rfl, (List.cons.inj (List.append_cancel_left same)).2⟩

/-- A message stays on its line: the stray character is no line feed. -/
private theorem Cause.IsReported.feed_not_mem_message {cause : Cause}
    (reported : cause.IsReported) : '\n' ∉ cause.message.toList := by
  cases reported with
  | @stray c stray offset =>
    have wording : '\n' ∉ "Encountered unexpected character ".toList ∧
        '\n' ∉ " at position ".toList := by decide
    have feed : ¬ '\n'.isDigit := by decide
    have whole := message_stray_append c offset []
    rw [List.append_nil] at whole
    simp only [whole, List.mem_append, List.mem_cons, List.not_mem_nil, or_false, not_or]
    exact ⟨wording.1, stray.ne_feed.symm, wording.2, not_mem_repr feed offset⟩
  | string | comment => decide

/-- What is written for an error. -/
def record (error : LexicalError) : List Char := (Listing.record (.error error)).text.toList

theorem record_append (error : LexicalError) (rest : List Char) :
    error.record ++ rest = "[line ".toList ++ (error.line.toNat.repr.toList ++
      ']' :: (" Error: ".toList ++ (error.cause.message.toList ++ '\n' :: rest))) := by
  simp [record, Listing.record, text]

private theorem isDecodable_record :
    IsDecodable (fun error => error.cause.IsReported) record id where
  decodes := by
    intro error error' rest rest' reported reported' same
    rw [record_append, record_append] at same
    have bracket : ¬ ']'.isDigit := by decide
    obtain ⟨digits, wording⟩ := append_separator_inj (not_mem_repr bracket _)
      (not_mem_repr bracket _) (List.append_cancel_left same)
    obtain ⟨cause, behind⟩ :=
      reported.message_decodes reported' (List.append_cancel_left wording)
    obtain ⟨line, _⟩ := error
    obtain ⟨line', _⟩ := error'
    obtain rfl : line = line' :=
      UInt32.toNat_inj.mp (Nat.repr_inj.mp (String.toList_inj.mp digits))
    obtain rfl := cause
    exact ⟨rfl, behind⟩
  nonempty := by
    intro error _ empty
    simp [record, Listing.record] at empty

private theorem count_feed_record {error : LexicalError} (reported : error.cause.IsReported) :
    error.record.count '\n' = 1 := by
  have wording : "[line ".toList.count '\n' = 0 ∧ " Error: ".toList.count '\n' = 0 := by decide
  have feed : ¬ '\n'.isDigit := by decide
  have line := List.count_eq_zero.mpr (not_mem_repr feed error.line.toNat)
  have message := List.count_eq_zero.mpr reported.feed_not_mem_message
  have whole := error.record_append []
  rw [List.append_nil] at whole
  simp only [whole, List.count_append, List.count_cons, List.count_nil, wording, line, message]
  rfl

end LexicalError

/-- The bytes that a run of a source writes to a stream that has no limit. -/
def streamed (stream : Stream) (source : String) : List UInt8 :=
  (Listing.print ⟨none, none⟩ source).1.bytesTo stream

/-- The tokens of a source, but for their lines. -/
def contentsOf (source : String) : List (TokenKind × String × Literal) :=
  (scan source).filterMap Result.content?

private theorem toList_textTo_out (results : List Result) :
    (textTo .out (Listing.records results)).toList =
      (results.filterMap Result.token?).flatMap Token.record := by
  induction results with
  | nil => rfl
  | cons result results ih =>
    rw [Listing.records_cons, textTo_cons, ih]
    cases result <;> rfl

private theorem toList_textTo_err (results : List Result) :
    (textTo .err (Listing.records results)).toList =
      (results.filterMap Result.error?).flatMap LexicalError.record := by
  induction results with
  | nil => rfl
  | cons result results ih =>
    rw [Listing.records_cons, textTo_cons, ih]
    cases result <;> rfl

private theorem streamed_out (source : String) : streamed .out source =
    Utf8.encode (((scan source).filterMap Result.token?).flatMap Token.record) := by
  rw [streamed, Listing.print, Delivery.bytesTo_deliver_unlimited, toList_textTo_out]

private theorem streamed_err (source : String) : streamed .err source =
    Utf8.encode ((errorsOf source).flatMap LexicalError.record) := by
  rw [streamed, Listing.print, Delivery.bytesTo_deliver_unlimited, toList_textTo_err, errorsOf]

private theorem contentsOf_eq (source : String) :
    contentsOf source = ((scan source).filterMap Result.token?).map Token.content := by
  rw [List.map_filterMap]
  rfl

private theorem streamed_out_eq_iff (source source' : String) :
    streamed .out source = streamed .out source' ↔ contentsOf source = contentsOf source' := by
  have each (source : String) :
      ∀ token ∈ (scan source).filterMap Result.token?, token.IsScanned := by
    intro token member
    obtain ⟨result, found, same⟩ := List.mem_filterMap.mp member
    cases result with
    | token other =>
      obtain rfl : other = token := Option.some.inj same
      exact ⟨source, found⟩
    | error => cases same
  rw [streamed_out, streamed_out, Utf8.encode_inj, contentsOf_eq, contentsOf_eq]
  exact ⟨Token.isDecodable_record.map_eq (each source) (each source'), Token.records_congr⟩

private theorem streamed_err_eq_iff (source source' : String) :
    streamed .err source = streamed .err source' ↔ errorsOf source = errorsOf source' := by
  rw [streamed_err, streamed_err, Utf8.encode_inj]
  constructor
  · intro same
    have decoded := LexicalError.isDecodable_record.map_eq
      (fun _ => LexicalError.isReported_of_mem) (fun _ => LexicalError.isReported_of_mem) same
    rwa [List.map_id, List.map_id] at decoded
  · intro same
    rw [same]

private theorem count_feed_streamed_err (source : String) :
    (streamed .err source).count '\n'.toUInt8 = (errorsOf source).length := by
  rw [streamed_err, Utf8.count_encode (by decide), List.count_flatMap]
  have each : ∀ error ∈ errorsOf source, (List.count '\n' ∘ LexicalError.record) error = 1 :=
    fun _ member => LexicalError.count_feed_record (LexicalError.isReported_of_mem member)
  rw [List.map_congr_left each, List.map_const', List.sum_replicate_nat, Nat.mul_one]

/-- The streams tell what was scanned. Two sources give the same standard output just when they
have the same tokens but for the lines, and the same error output just when they have the same
errors. An error takes one line, whatever character it names. -/
theorem streams_tell_scan (source source' : String) :
    (streamed .out source = streamed .out source' ↔ contentsOf source = contentsOf source') ∧
      (streamed .err source = streamed .err source' ↔ errorsOf source = errorsOf source') ∧
      (streamed .err source).count '\n'.toUInt8 = (errorsOf source).length :=
  ⟨streamed_out_eq_iff source source', streamed_err_eq_iff source source',
    count_feed_streamed_err source⟩

/-- A line is not told of a token, but it is of an error. -/
example : streamed .out "x \"é 1\"" = streamed .out "x // y\n@ \"é 1\"" ∧
    streamed .err "@" ≠ streamed .err "\n@" := by decide +kernel

end Lox
