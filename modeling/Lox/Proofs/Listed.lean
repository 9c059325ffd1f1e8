import Lox.Listing
import Lox.Proofs.Numerals
import Lox.Proofs.ScannedToken
import Lox.Proofs.Utf8

namespace Lox

namespace Delivery

private theorem deliverOnto_unlimited (accepted : List (Stream × List UInt8))
    (writes : List Write) : deliverOnto accepted ⟨none, none⟩ writes =
      ⟨accepted.reverse ++
        writes.map fun write => (write.stream, Utf8.encode write.text.toList), true⟩ := by
  induction writes generalizing accepted with
  | nil => simp [deliverOnto]
  | cons write writes ih =>
    obtain ⟨stream, text⟩ := write
    cases stream <;> simp [deliverOnto, Room.of, Room.fill, ih]

theorem bytesTo_deliver_unlimited (stream : Stream) (writes : List Write) :
    (deliver ⟨none, none⟩ writes).bytesTo stream =
      Utf8.encode (Lox.textTo stream writes).toList := by
  rw [deliver, deliverOnto_unlimited, bytesTo, Lox.textTo, String.toList_join]
  induction writes with
  | nil => rfl
  | cons write writes ih =>
    by_cases same : write.stream = stream
    · simpa [same, Utf8.encode] using ih
    · simpa [same, Utf8.encode] using ih

private theorem textTo_deliver_unlimited (stream : Stream) (writes : List Write) :
    (deliver ⟨none, none⟩ writes).textTo stream = Lox.textTo stream writes := by
  rw [textTo, bytesTo_deliver_unlimited, Utf8.decodeLossy_encode, String.ofList_toList]

end Delivery

/-- What a run of a source writes to a stream that has no limit. -/
def listed (stream : Stream) (source : String) : String :=
  (Listing.print ⟨none, none⟩ source).1.textTo stream

theorem listed_eq (stream : Stream) (source : String) :
    listed stream source = textTo stream (Listing.records (scan source)) :=
  Delivery.textTo_deliver_unlimited stream _

@[simp] theorem Listing.records_cons (result : Result) (results : List Result) :
    records (result :: results) = record result :: records results := rfl

theorem textTo_append (stream : Stream) (writes writes' : List Write) :
    textTo stream (writes ++ writes') = textTo stream writes ++ textTo stream writes' := by
  rw [textTo, List.filter_append, List.map_append, String.join_append]
  rfl

theorem textTo_flatMap {α : Type} (stream : Stream) (items : List α) (writes : α → List Write) :
    textTo stream (items.flatMap writes) =
      String.join (items.map fun item => textTo stream (writes item)) := by
  induction items with
  | nil => rfl
  | cons item items ih =>
    rw [List.flatMap_cons, textTo_append, ih, List.map_cons, String.join_cons]

theorem textTo_records_cons (stream : Stream) (result : Result) (results : List Result) :
    textTo stream (Listing.records (result :: results)) =
      textTo stream [Listing.record result] ++ textTo stream (Listing.records results) :=
  textTo_append stream [Listing.record result] _

theorem textTo_cons (stream : Stream) (write : Write) (writes : List Write) :
    (textTo stream (write :: writes)).toList =
      (if write.stream = stream then write.text.toList else []) ++
        (textTo stream writes).toList := by
  by_cases same : write.stream = stream <;> simp [textTo, String.toList_join, same]

theorem exists_record_line (result : Result) :
    ∃ line, (Listing.record result).text.toList = line ++ ['\n'] := by
  cases result <;> exact ⟨_, String.toList_append⟩

private theorem not_isDigit_slash : ¬ '/'.isDigit := by decide

private theorem not_isWordPart_slash : isWordPart '/' = false := by decide

theorem not_mem_repr {c : Char} (other : ¬ c.isDigit) (n : Nat) : c ∉ n.repr.toList := by
  rw [Nat.toList_repr]
  exact not_mem_toDigits other n

private theorem TokenKind.slash_not_mem_name (kind : TokenKind) : '/' ∉ kind.name.toList := by
  cases kind <;> decide

private theorem LexicalError.slash_not_mem_text {error : LexicalError}
    (message : '/' ∉ error.cause.message.toList) : '/' ∉ error.text.toList := by
  have wording : '/' ∉ "[line ".toList ∧ '/' ∉ "] Error: ".toList := by decide
  have line := not_mem_repr not_isDigit_slash error.line.toNat
  simp only [text, String.toList_append, List.mem_append, not_or]
  exact ⟨⟨⟨wording.1, line⟩, wording.2⟩, message⟩

private theorem LexicalError.count_slash_record {error : LexicalError}
    (message : '/' ∉ error.cause.message.toList) :
    (Listing.record (.error error)).text.toList.count '/' = 0 := by
  have none := List.count_eq_zero.mpr (slash_not_mem_text message)
  rw [Listing.record, String.toList_append, List.count_append, none]
  rfl

theorem LexicalError.Cause.message_unexpectedCharacter (c : Char) (offset : Nat) :
    (unexpectedCharacter c offset).message =
      "Encountered unexpected character " ++ c.toString ++ " at position " ++ offset.repr := rfl

private theorem LexicalError.slash_not_mem_unexpectedCharacter (other : c ≠ '/') (offset : Nat) :
    '/' ∉ (Cause.unexpectedCharacter c offset).message.toList := by
  have wording : '/' ∉ "Encountered unexpected character ".toList ∧
      '/' ∉ " at position ".toList := by decide
  have character : '/' ∉ c.toString.toList := by simpa [Char.toString] using Ne.symm other
  have digits := not_mem_repr not_isDigit_slash offset
  rw [Cause.message_unexpectedCharacter]
  simp only [String.toList_append, List.mem_append, not_or]
  exact ⟨⟨⟨wording.1, character⟩, wording.2⟩, digits⟩

private theorem Token.count_slash_record (token : Token) :
    (Listing.record (.token token)).text.toList.count '/' =
      token.lexeme.toList.count '/' + token.literal.text.toList.count '/' := by
  have name := List.count_eq_zero.mpr token.kind.slash_not_mem_name
  simp [Listing.record, text, List.count_append, name]

namespace Segment.IsUnit

private theorem count_slash_mark {text : List Char} (isUnit : IsUnit ⟨.mark kind, text⟩) :
    text.count '/' ≤ 1 := by
  have few : ∀ entry ∈ markTexts, entry.1.count '/' ≤ 1 := by decide
  rcases isUnit with admits | ⟨c, -, same⟩
  · cases admits with
    | mark member => exact few _ member
  · cases same

private theorem ne_slash_of_stray (isUnit : IsUnit ⟨.stray, [c]⟩) : c ≠ '/' := by
  rintro rfl
  have slash : (['/'], TokenKind.slash) ∈ markTexts := by simp [markTexts]
  exact isUnit.isStray _ _ (.mark slash) rfl

end Segment.IsUnit

/-- The slashes of what a unit is listed as are its own. Only a string can have several of them, and
it is shown once as it stands and once without its quotes. -/
theorem Delivers.few_slashes (delivers : Delivers unit offset line result)
    (isUnit : unit.IsUnit) :
    (Listing.record result).text.toList.count '/' ≤ 1 ∨
      ∃ body, unit.text = '"' :: (body ++ ['"']) ∧ (Listing.record result).text.toList =
        "STRING ".toList ++ '"' :: (body ++ '"' :: ' ' :: (body ++ ['\n'])) := by
  cases delivers with
  | string body =>
    refine .inr ⟨body, rfl, ?_⟩
    simp [Listing.record, Token.text, TokenKind.name, Literal.text]
  | number numeral =>
    have lexeme := List.count_eq_zero.mpr (isUnit.not_mem_number not_isDigit_slash (by decide))
    have value := List.count_eq_zero.mpr
      ((Decimal.ofNumeral numeral).toBinary64.not_mem_text not_isDigit_slash (by decide))
    left
    rw [Token.count_slash_record]
    simp [Literal.text, lexeme, value]
  | keyword reserved =>
    have lexeme := List.count_eq_zero.mpr (isUnit.not_mem_word not_isWordPart_slash)
    left
    rw [Token.count_slash_record]
    simp [Literal.text, lexeme]
  | identifier free =>
    have lexeme := List.count_eq_zero.mpr (isUnit.not_mem_word not_isWordPart_slash)
    left
    rw [Token.count_slash_record]
    simp [Literal.text, lexeme]
  | mark kind text =>
    left
    rw [Token.count_slash_record]
    simpa [Literal.text] using isUnit.count_slash_mark
  | openString text =>
    have message : '/' ∉ "Unterminated string".toList := by decide
    exact .inl (Nat.le_succ_of_le (Nat.le_of_eq (LexicalError.count_slash_record message)))
  | openComment text =>
    have message : '/' ∉ "Unterminated multi-line comment".toList := by decide
    exact .inl (Nat.le_succ_of_le (Nat.le_of_eq (LexicalError.count_slash_record message)))
  | stray c =>
    have message :=
      LexicalError.slash_not_mem_unexpectedCharacter isUnit.ne_slash_of_stray offset
    exact .inl (Nat.le_succ_of_le (Nat.le_of_eq (LexicalError.count_slash_record message)))

end Lox
