import Lox.Cursor.Pull
import Lox.Proofs.Boundaries

namespace Lox

namespace Utf8

/-- What stands behind the bytes of a beginning is the bytes of the rest. -/
theorem exists_behind {text front : List Char} {ahead : List UInt8}
    (same : encode text = encode front ++ ahead) :
    ∃ rest, text = front ++ rest ∧ ahead = encode rest := by
  induction front generalizing text with
  | nil => exact ⟨text, rfl, same.symm⟩
  | cons d front ih =>
    cases text with
    | nil =>
      have empty := List.append_eq_nil_iff.mp same.symm
      exact absurd empty.1 (encode_ne_nil (List.cons_ne_nil d front))
    | cons c text =>
      obtain ⟨byte, more, bytes, piece⟩ := firstPiece_encodeChar c (encode text)
      obtain ⟨byte', more', bytes', piece'⟩ :=
        firstPiece_encodeChar d (encode front ++ ahead)
      rw [encode_cons, encode_cons, bytes, bytes', List.append_assoc, List.cons_append,
        List.cons_append] at same
      obtain ⟨rfl, behind⟩ := List.cons.inj same
      rw [behind, piece'] at piece
      obtain ⟨rfl, -⟩ := Piece.character.inj piece
      obtain ⟨-, rfl⟩ := List.cons.inj (bytes.symm.trans bytes')
      obtain ⟨rest, rfl, rest'⟩ := ih (List.append_cancel_left behind)
      exact ⟨rest, rfl, rest'⟩

/-- A single byte ends a character, and so does the end of the text. -/
theorem exists_front {text : List Char} {read ahead : List UInt8}
    (same : encode text = read ++ ahead)
    (stops : ahead = [] ∨ ∃ byte ∈ ahead.head?, byte.toNat < 0x80) :
    ∃ front rest, text = front ++ rest ∧ read = encode front ∧ ahead = encode rest := by
  have boundary : IsBoundary text read.length := by
    rcases stops with rfl | ⟨byte, head, ascii⟩
    · rw [← List.append_nil read, ← same]
      exact isBoundary_end text
    · have found : (encode text)[read.length]? = some byte := by
        rw [same, List.getElem?_append_right (Nat.le_refl _), Nat.sub_self, ← List.head?_eq_getElem?]
        exact head
      exact (isBoundary_of_ascii found ascii).1
  obtain ⟨front, rest, rfl, length⟩ := boundary
  rw [encode_append] at same
  obtain ⟨front', rest'⟩ := List.append_inj same (by rw [length_encode, length])
  exact ⟨front, rest, rfl, front'.symm, rest'.symm⟩

end Utf8

private theorem toNat_lt_of_isDigit {c : Char} (digit : c.isDigit) : c.toNat < 0x80 := by
  have most : c.toNat ≤ 57 := (Char.isDigit_iff_toNat.mp digit).2
  omega

private theorem toNat_lt_of_isAlpha {c : Char} (letter : c.isAlpha) : c.toNat < 0x80 := by
  rcases (Bool.or_eq_true _ _).mp letter with upper | lower
  · have most : c.toNat ≤ 90 := UInt32.le_iff_toNat_le.mp (of_decide_eq_true upper).2
    omega
  · obtain ⟨-, below⟩ := (Bool.and_eq_true _ _).mp lower
    have most : c.toNat ≤ 122 := UInt32.le_iff_toNat_le.mp (of_decide_eq_true below)
    omega

private theorem toNat_lt_of_isWordStart {c : Char} (start : isWordStart c) : c.toNat < 0x80 := by
  rcases (Bool.or_eq_true _ _).mp start with letter | underscore
  · exact toNat_lt_of_isAlpha letter
  · rw [eq_of_beq underscore]
    decide

private theorem toNat_lt_of_isWordPart {c : Char} (part : isWordPart c) : c.toNat < 0x80 := by
  rcases (Bool.or_eq_true _ _).mp part with alphanum | underscore
  · rcases (Bool.or_eq_true _ _).mp alphanum with letter | digit
    · exact toNat_lt_of_isAlpha letter
    · exact toNat_lt_of_isDigit digit
  · rw [eq_of_beq underscore]
    decide

/-- A class of characters of single bytes, with neither the null character nor the line feed. -/
structure IsSingle (p : Char → Bool) : Prop where
  ascii : ∀ c, p c → c.toNat < 0x80
  null : p '\x00' = false
  feed : p '\n' = false

theorem isSingle_isDigit : IsSingle Char.isDigit :=
  ⟨fun _ => toNat_lt_of_isDigit, by decide, by decide⟩

theorem isSingle_isWordPart : IsSingle isWordPart :=
  ⟨fun _ => toNat_lt_of_isWordPart, by decide, by decide⟩

/-- A character that begins neither a blank, a comment, a string, a number, a word nor a mark. -/
structure BeginsNothing (c : Char) : Prop where
  blank : isBlank c = false
  lone : loneMark? c = none
  extensible : extensibleMark? c = none
  slash : c ≠ '/'
  quote : c ≠ '"'
  digit : c.isDigit = false
  start : isWordStart c = false

theorem BeginsNothing.isStray (nothing : BeginsNothing c) : IsStray c := by
  intro shape text admits head
  cases admits with
  | blank member =>
    obtain rfl := Option.some.inj head
    exact absurd (isBlank_iff.mpr member) (Bool.eq_false_iff.mp nothing.blank)
  | lineComment | blockComment | openComment =>
    exact nothing.slash (Option.some.inj head).symm
  | openString | string => exact nothing.quote (Option.some.inj head).symm
  | whole nonempty numeric =>
    exact Bool.eq_false_iff.mp nothing.digit (numeric c (List.mem_of_mem_head? head))
  | @fractional digits _ nonempty numeric =>
    cases digits with
    | nil => exact absurd rfl nonempty
    | cons d digits =>
      obtain rfl := Option.some.inj head
      exact Bool.eq_false_iff.mp nothing.digit (numeric _ (by simp))
  | word start =>
    obtain rfl := Option.some.inj head
    exact Bool.eq_false_iff.mp nothing.start (by simpa [isWordStart] using start)
  | mark member =>
    obtain ⟨-, -, -, -, ⟨-, slash⟩ | ⟨-, -, lone, -⟩ | ⟨-, -, ⟨-, found, -⟩ | ⟨-, found, -⟩⟩⟩ :=
      Segment.markTexts_forms _ member c head
    · exact nothing.slash slash
    · simp [nothing.lone] at lone
    · simp [nothing.extensible] at found
    · simp [nothing.extensible] at found

theorem BeginsNothing.of_le (large : 0x80 ≤ c.toNat) : BeginsNothing c := by
  have other {d : Char} (small : d.toNat < 0x80) : c ≠ d := by
    rintro rfl
    omega
  have notBlank : ¬ isBlank c := by
    rw [isBlank_iff]
    simp (disch := decide) only [List.mem_cons, List.not_mem_nil, other, or_self, not_false_eq_true]
  have noLone : loneMark? c = none := by
    rw [loneMark?] <;> exact other (by decide)
  have noExtensible : extensibleMark? c = none := by
    rw [extensibleMark?] <;> exact other (by decide)
  exact ⟨Bool.eq_false_iff.mpr notBlank, noLone, noExtensible, other (by decide),
    other (by decide),
    Bool.eq_false_iff.mpr fun digit => by have := toNat_lt_of_isDigit digit; omega,
    Bool.eq_false_iff.mpr fun start => by have := toNat_lt_of_isWordStart start; omega⟩

open Utf8 (encode)

namespace Cursor

theorem ok_bind {α β : Type} (a : α) (next : α → Except Fault β) :
    (Except.ok a >>= next) = next a := rfl

theorem lift_ok_bind {α β : Type} (a : α) (next : α → Except Fault β) :
    (liftM (Except.ok a : Except Fault α) >>= next) = next a := rfl

theorem toNat_latin (byte : UInt8) : (latin byte).toNat = byte.toNat := by
  have small := byte.toNat_lt
  exact Utf8.toNat_charOfNat (by omega)

private theorem toUInt8_latin (byte : UInt8) : (latin byte).toUInt8 = byte := by
  change UInt8.ofNat (latin byte).toNat = byte
  rw [toNat_latin, UInt8.ofNat_toNat]

theorem latin_toUInt8 {c : Char} (ascii : c.toNat < 0x80) : latin c.toUInt8 = c := by
  rw [← Char.toNat_inj, toNat_latin, Utf8.toNat_toUInt8 ascii]

theorem latin_eq_iff {c : Char} (ascii : c.toNat < 0x80) {byte : UInt8} :
    latin byte = c ↔ byte = c.toUInt8 := by
  constructor
  · rintro rfl
    exact (toUInt8_latin byte).symm
  · rintro rfl
    exact latin_toUInt8 ascii

/-- What a look at the next byte shows. -/
def seen (ahead : List UInt8) : Char := (ahead.head?.map latin).getD '\x00'

theorem seen_eq_iff {c : Char} (ascii : c.toNat < 0x80) (present : c ≠ '\x00')
    {ahead : List UInt8} : seen ahead = c ↔ ahead.head? = some c.toUInt8 := by
  cases ahead with
  | nil => simp [seen, Ne.symm present]
  | cons byte ahead => simp [seen, latin_eq_iff ascii]

/-- A look at the next byte tells whether the next character is of the class. -/
theorem satisfies_seen {p : Char → Bool} (single : IsSingle p) (rest : List Char) :
    p (seen (encode rest)) = rest.head?.any p := by
  cases rest with
  | nil => exact single.null
  | cons c rest =>
    by_cases small : c.toNat < 0x80
    · rw [Utf8.encode_cons_ascii small]
      simp [seen, latin_toUInt8 small]
    · obtain ⟨byte, more, bytes, -⟩ := Utf8.firstPiece_encodeChar c []
      have large : ¬ byte.toNat < 0x80 := by
        intro one
        have member : byte ∈ String.utf8EncodeChar c := by simp [bytes]
        have same := Utf8.toNat_of_mem_encodeChar member one
        omega
      have none {d : Char} (large : ¬ d.toNat < 0x80) : p d = false :=
        Bool.eq_false_iff.mpr fun found => large (single.ascii d found)
      rw [Utf8.encode_cons, bytes]
      simp [seen, none small, none (d := latin byte) (by rwa [toNat_latin])]

/-- A run does not go on with the next character. -/
theorem not_of_seen {p : Char → Bool} (single : IsSingle p) {rest : List Char}
    (outside : ¬ p (seen (encode rest))) : ∀ c ∈ rest.head?, ¬ p c := by
  intro c head found
  rw [satisfies_seen single, Option.mem_def.mp head] at outside
  exact outside found

/-- A run goes on with the next byte. -/
theorem exists_seen {p : Char → Bool} (single : IsSingle p) {ahead : List UInt8}
    (found : p (seen ahead)) :
    ∃ byte more, ahead = byte :: more ∧ byte.toNat < 0x80 ∧ p (latin byte) := by
  cases ahead with
  | nil => exact absurd found (Bool.eq_false_iff.mp single.null)
  | cons byte more =>
    have small := single.ascii _ found
    exact ⟨byte, more, rfl, toNat_latin byte ▸ small, found⟩

theorem encode_snoc (ascii : byte.toNat < 0x80) (text : List Char) :
    encode (text ++ [latin byte]) = encode text ++ [byte] := by
  rw [Utf8.encode_append, Utf8.encode_cons_ascii (by rwa [toNat_latin]), toUInt8_latin]
  rfl

theorem not_mem_snoc {c : Char} (ascii : c.toNat < 0x80) {body : List UInt8}
    (absent : c.toUInt8 ∉ body) (other : latin byte ≠ c) : c.toUInt8 ∉ body ++ [byte] := by
  rw [List.mem_append, List.mem_singleton, not_or]
  exact ⟨absent, fun same => other ((latin_eq_iff ascii).mpr same.symm)⟩

/-- The first byte of a text is its first character, if it is below 0x80. -/
theorem exists_first {text : List Char} {ahead : List UInt8} (same : encode text = byte :: ahead)
    (ascii : byte.toNat < 0x80) : ∃ rest, text = latin byte :: rest ∧ ahead = encode rest := by
  have small : (latin byte).toNat < 0x80 := by rwa [toNat_latin]
  have head : (encode text).head? = some (latin byte).toUInt8 := by
    rw [same, toUInt8_latin, List.head?_cons]
  obtain ⟨rest, rfl⟩ := List.head?_eq_some_iff.mp ((Utf8.head?_encode_eq_some_iff small).mp head)
  rw [Utf8.encode_cons_ascii small] at same
  exact ⟨rest, rfl, (List.cons.inj same).2.symm⟩

section Reads

variable {bytes ahead : List UInt8} {cursor : Cursor}

theorem isEnd_iff : cursor.isEnd bytes = true ↔ bytes.drop cursor.current = [] := by
  rw [isEnd, decide_eq_true_iff, List.drop_eq_nil_iff]

private theorem charAt_eq (ahead : bytes.drop index = byte :: more) :
    charAt bytes index = .ok (latin byte) := by
  rw [charAt, ← List.head?_drop, ahead, List.head?_cons]

private theorem charAt_eq_seen (inside : index < bytes.length) :
    charAt bytes index = .ok (seen (bytes.drop index)) := by
  have ahead := List.drop_eq_getElem_cons inside
  rw [charAt_eq ahead, ahead]
  rfl

theorem peekChar_eq : peekChar bytes cursor = .ok (seen (bytes.drop cursor.current)) := by
  rw [peekChar]
  split
  · rename_i done
    rw [isEnd_iff.mp done]
    rfl
  · rename_i more
    rw [isEnd, decide_eq_true_iff, Nat.not_le] at more
    exact charAt_eq_seen more

theorem peekNextChar_eq :
    peekNextChar bytes cursor = .ok (seen (bytes.drop (cursor.current + 1))) := by
  rw [peekNextChar]
  split
  · rename_i done
    rw [List.drop_eq_nil_iff.mpr done]
    rfl
  · rename_i more
    exact charAt_eq_seen (Nat.not_le.mp more)

theorem matchNext_eq (present : c ≠ '\x00') : matchNext bytes c cursor =
    .ok (if seen (bytes.drop cursor.current) = c then
      some { cursor with current := cursor.current + 1 } else none) := by
  rw [matchNext]
  split
  · rename_i done
    have nothing : seen [] ≠ c := Ne.symm present
    rw [isEnd_iff.mp done, if_neg nothing]
  · rename_i more
    rw [isEnd, decide_eq_true_iff, Nat.not_le] at more
    rw [charAt_eq_seen more]
    rfl

theorem nextChar_eq (ahead : bytes.drop cursor.current = byte :: more) :
    nextChar bytes cursor = .ok (latin byte, { cursor with current := cursor.current + 1 }) := by
  rw [nextChar, charAt_eq ahead]
  rfl

theorem pass_eq (ahead : bytes.drop cursor.current = byte :: more) :
    pass bytes point cursor =
      .ok (.goesOn point { cursor with current := cursor.current + 1 }) := by
  rw [pass, nextChar_eq ahead]
  rfl

theorem countLine_eq (bounded : c = '\n' → cursor.line.toNat < 4294967295) :
    countLine c cursor = .ok { cursor with line := cursor.line + if c = '\n' then 1 else 0 } := by
  rw [countLine]
  split
  · rename_i feed
    rw [if_pos (bounded feed)]
  · rw [UInt32.add_zero]

end Reads

/-- A slice between two boundaries is cut out. -/
theorem slice_eq (before inner behind : List Char) :
    slice (encode (before ++ inner ++ behind)) (Utf8.size before) (Utf8.size (before ++ inner)) =
      .ok inner := by
  have ordered : Utf8.size before ≤ Utf8.size (before ++ inner) := by
    rw [Utf8.size_append]
    exact Nat.le_add_right _ _
  have start := Utf8.atBoundary_encode_iff.mpr ⟨before, inner ++ behind, List.append_assoc .., rfl⟩
  have stop := Utf8.atBoundary_encode_iff.mpr ⟨before ++ inner, behind, rfl, rfl⟩
  rw [slice, if_pos ⟨ordered, start, stop⟩, Utf8.take_encode, Utf8.drop_encode,
    Utf8.decode_encode]

/-- The digits that are read are a number. -/
theorem isNumeral_whole (nonempty : digits ≠ []) (numeric : ∀ c ∈ digits, c.isDigit) :
    isNumeral digits = true := by
  have through : digits.dropWhile Char.isDigit = [] := by
    rw [← List.append_nil digits, List.dropWhile_append_of_pos numeric, List.dropWhile_nil]
  rw [isNumeral, through]
  simpa using nonempty

theorem isNumeral_fractional (nonempty : digits ≠ []) (numeric : ∀ c ∈ digits, c.isDigit)
    (nonempty' : decimals ≠ []) (numeric' : ∀ c ∈ decimals, c.isDigit) :
    isNumeral (digits ++ '.' :: decimals) = true := by
  have through : (digits ++ '.' :: decimals).dropWhile Char.isDigit = '.' :: decimals := by
    rw [List.dropWhile_append_of_pos numeric, List.dropWhile_cons_of_neg (by decide)]
  have head : (digits ++ '.' :: decimals).head? ≠ some '.' := by
    cases digits with
    | nil => exact absurd rfl nonempty
    | cons d digits =>
      rw [List.cons_append, List.head?_cons]
      intro same
      have digit := numeric d (by simp)
      rw [Option.some.inj same] at digit
      exact absurd digit (by decide)
  have digits' : decimals.all Char.isDigit = true := List.all_eq_true.mpr numeric'
  simp only [isNumeral, through, head, nonempty', digits', ne_eq, not_false_eq_true, decide_true,
    Bool.and_self]

end Cursor

end Lox
