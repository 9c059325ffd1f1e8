import Lox.Text.Utf8

namespace Lox.Utf8

/-- A byte that goes on with a character, by the six bits that it carries. -/
def continuation (bits : Nat) : UInt8 := UInt8.ofNat (bits % 0x40 + 0x80)

theorem toNat_continuation (bits : Nat) : (continuation bits).toNat = bits % 64 + 128 := by
  rw [continuation, UInt8.toNat_ofNat']
  omega

private theorem follow_continuation {low high : UInt8} (bits owed payload seen : Nat)
    (above : low ≤ continuation bits) (below : continuation bits ≤ high) (bytes : List UInt8) :
    follow (owed + 1) low high payload seen (continuation bits :: bytes) =
      follow owed 0x80 0xBF (64 * payload + bits % 64) (seen + 1) bytes := by
  have carried : (continuation bits).toNat % 64 = bits % 64 := by
    rw [toNat_continuation]
    omega
  rw [follow, if_pos ⟨above, below⟩, carried]

private theorem continuation_bounds (bits : Nat) :
    0x80 ≤ continuation bits ∧ continuation bits ≤ 0xBF := by
  simp only [UInt8.le_iff_toNat_le, toNat_continuation, UInt8.reduceToNat]
  omega

/-- The lead byte of a character of several bytes announces the others, and narrows the first of
them just so far that it lets this character through. -/
private theorem lead?_two {v : Nat} (least : 0x7F < v) (most : v ≤ 0x7FF) :
    lead? (UInt8.ofNat (v / 64 % 0x20 + 0xC0)) = some ⟨1, 0x80, 0xBF, v / 64⟩ := by
  have value : (UInt8.ofNat (v / 64 % 0x20 + 0xC0)).toNat = v / 64 + 0xC0 := by
    rw [UInt8.toNat_ofNat']
    omega
  simp only [lead?, value]
  rw [if_neg (by omega), if_neg (by omega), if_pos (by omega), Nat.add_sub_cancel]

private theorem lead?_three {v : Nat} (least : 0x7FF < v) (most : v ≤ 0xFFFF)
    (valid : v < 0xD800 ∨ 0xDFFF < v) :
    ∃ low high, lead? (UInt8.ofNat (v / 4096 % 0x10 + 0xE0)) = some ⟨2, low, high, v / 4096⟩ ∧
      low ≤ continuation (v / 64) ∧ continuation (v / 64) ≤ high := by
  have value : (UInt8.ofNat (v / 4096 % 0x10 + 0xE0)).toNat = v / 4096 + 0xE0 := by
    rw [UInt8.toNat_ofNat']
    omega
  simp only [lead?, value, UInt8.le_iff_toNat_le, toNat_continuation]
  rw [if_neg (by omega), if_neg (by omega), if_neg (by omega)]
  by_cases overlong : v / 4096 = 0
  · refine ⟨0xA0, 0xBF, by rw [if_pos (by omega), overlong], ?_⟩
    simp only [UInt8.reduceToNat]
    omega
  · by_cases surrogate : v / 4096 = 0xD
    · refine ⟨0x80, 0x9F, by rw [if_neg (by omega), if_pos (by omega), surrogate], ?_⟩
      simp only [UInt8.reduceToNat]
      omega
    · refine ⟨0x80, 0xBF, ?_, ?_⟩
      · rw [if_neg (by omega), if_neg (by omega), if_pos (by omega), Nat.add_sub_cancel]
      · simp only [UInt8.reduceToNat]
        omega

private theorem lead?_four {v : Nat} (least : 0xFFFF < v) (most : v < 0x110000) :
    ∃ low high, lead? (UInt8.ofNat (v / 262144 % 0x08 + 0xF0)) =
        some ⟨3, low, high, v / 262144⟩ ∧
      low ≤ continuation (v / 4096) ∧ continuation (v / 4096) ≤ high := by
  have value : (UInt8.ofNat (v / 262144 % 0x08 + 0xF0)).toNat = v / 262144 + 0xF0 := by
    rw [UInt8.toNat_ofNat']
    omega
  simp only [lead?, value, UInt8.le_iff_toNat_le, toNat_continuation]
  rw [if_neg (by omega), if_neg (by omega), if_neg (by omega), if_neg (by omega),
    if_neg (by omega), if_neg (by omega)]
  by_cases overlong : v / 262144 = 0
  · refine ⟨0x90, 0xBF, by rw [if_pos (by omega), overlong], ?_⟩
    simp only [UInt8.reduceToNat]
    omega
  · by_cases last : v / 262144 = 4
    · refine ⟨0x80, 0x8F, by rw [if_neg (by omega), if_neg (by omega), if_pos (by omega), last],
        ?_⟩
      simp only [UInt8.reduceToNat]
      omega
    · refine ⟨0x80, 0xBF, ?_, ?_⟩
      · rw [if_neg (by omega), if_pos (by omega), Nat.add_sub_cancel]
      · simp only [UInt8.reduceToNat]
        omega

theorem encodeChar_one {c : Char} (most : c.toNat ≤ 0x7F) :
    String.utf8EncodeChar c = [UInt8.ofNat c.toNat] := if_pos most

theorem encodeChar_two {c : Char} (least : 0x7F < c.toNat) (most : c.toNat ≤ 0x7FF) :
    String.utf8EncodeChar c =
      [UInt8.ofNat (c.toNat / 64 % 0x20 + 0xC0), continuation c.toNat] :=
  (if_neg (Nat.not_le.mpr least)).trans (if_pos most)

theorem encodeChar_three {c : Char} (least : 0x7FF < c.toNat) (most : c.toNat ≤ 0xFFFF) :
    String.utf8EncodeChar c = [UInt8.ofNat (c.toNat / 4096 % 0x10 + 0xE0),
      continuation (c.toNat / 64), continuation c.toNat] := by
  have one : ¬ c.toNat ≤ 0x7F := by omega
  have two : ¬ c.toNat ≤ 0x7FF := by omega
  exact (if_neg one).trans ((if_neg two).trans (if_pos most))

theorem encodeChar_four {c : Char} (least : 0xFFFF < c.toNat) :
    String.utf8EncodeChar c = [UInt8.ofNat (c.toNat / 262144 % 0x08 + 0xF0),
      continuation (c.toNat / 4096), continuation (c.toNat / 64), continuation c.toNat] := by
  have one : ¬ c.toNat ≤ 0x7F := by omega
  have two : ¬ c.toNat ≤ 0x7FF := by omega
  have three : ¬ c.toNat ≤ 0xFFFF := by omega
  exact (if_neg one).trans ((if_neg two).trans (if_neg three))

/-- The bytes of a character are read as this character, whatever comes behind them. -/
theorem firstPiece_encodeChar (c : Char) (bytes : List UInt8) :
    ∃ byte more, String.utf8EncodeChar c = byte :: more ∧
      firstPiece byte (more ++ bytes) = .character c more.length := by
  have valid : c.toNat < 0xD800 ∨ (0xDFFF < c.toNat ∧ c.toNat < 0x110000) := c.valid
  have code : Char.ofNat c.toNat = c := Char.ofNat_toNat c
  by_cases one : c.toNat ≤ 0x7F
  · have value : (UInt8.ofNat c.toNat).toNat = c.toNat := by
      rw [UInt8.toNat_ofNat']
      omega
    refine ⟨_, _, encodeChar_one one, ?_⟩
    simp only [firstPiece, lead?, value]
    rw [if_pos (by omega)]
    change follow 0 0x80 0xBF c.toNat 0 bytes = _
    rw [follow, code]
    rfl
  · by_cases two : c.toNat ≤ 0x7FF
    · refine ⟨_, _, encodeChar_two (by omega) two, ?_⟩
      obtain ⟨above, below⟩ := continuation_bounds c.toNat
      rw [firstPiece, lead?_two (by omega) two]
      change follow 1 0x80 0xBF (c.toNat / 64) 0 (continuation c.toNat :: bytes) = _
      rw [follow_continuation _ 0 _ 0 above below, follow, Nat.div_add_mod, code]
      rfl
    · by_cases three : c.toNat ≤ 0xFFFF
      · refine ⟨_, _, encodeChar_three (by omega) three, ?_⟩
        obtain ⟨low, high, lead, above, below⟩ := lead?_three (by omega) three (by omega)
        obtain ⟨above', below'⟩ := continuation_bounds c.toNat
        rw [firstPiece, lead]
        change follow 2 low high (c.toNat / 4096) 0
          (continuation (c.toNat / 64) :: continuation c.toNat :: bytes) = _
        have whole : 64 * (64 * (c.toNat / 4096) + c.toNat / 64 % 64) + c.toNat % 64 = c.toNat := by
          omega
        rw [follow_continuation _ 1 _ 0 above below, follow_continuation _ 0 _ 1 above' below',
          follow, whole, code]
        rfl
      · refine ⟨_, _, encodeChar_four (by omega), ?_⟩
        obtain ⟨low, high, lead, above, below⟩ := lead?_four (v := c.toNat) (by omega) (by omega)
        obtain ⟨above', below'⟩ := continuation_bounds (c.toNat / 64)
        obtain ⟨above'', below''⟩ := continuation_bounds c.toNat
        rw [firstPiece, lead]
        change follow 3 low high (c.toNat / 262144) 0 (continuation (c.toNat / 4096) ::
          continuation (c.toNat / 64) :: continuation c.toNat :: bytes) = _
        have whole : 64 * (64 * (64 * (c.toNat / 262144) + c.toNat / 4096 % 64) +
            c.toNat / 64 % 64) + c.toNat % 64 = c.toNat := by omega
        rw [follow_continuation _ 2 _ 0 above below, follow_continuation _ 1 _ 1 above' below',
          follow_continuation _ 0 _ 2 above'' below'', follow, whole, code]
        rfl

theorem encode_cons (c : Char) (text : List Char) :
    encode (c :: text) = String.utf8EncodeChar c ++ encode text := rfl

theorem encode_append (text text' : List Char) :
    encode (text ++ text') = encode text ++ encode text' := List.flatMap_append

theorem encode_ne_nil {text : List Char} (nonempty : text ≠ []) : encode text ≠ [] := by
  cases text with
  | nil => exact absurd rfl nonempty
  | cons c text =>
    obtain ⟨byte, more, bytes, -⟩ := firstPiece_encodeChar c []
    rw [encode_cons, bytes]
    exact List.cons_ne_nil _ _

theorem encode_eq_nil_iff {text : List Char} : encode text = [] ↔ text = [] := by
  constructor
  · intro empty
    exact Classical.not_not.mp fun nonempty => encode_ne_nil nonempty empty
  · rintro rfl
    rfl

private theorem decodeFrom_encode (valid : Nat) (read text : List Char) :
    decodeFrom valid read (encode text) = .ok (read.reverse ++ text) := by
  induction text generalizing valid read with
  | nil => simp [encode, decodeFrom]
  | cons c text ih =>
    obtain ⟨byte, more, bytes, piece⟩ := firstPiece_encodeChar c (encode text)
    rw [encode_cons, bytes, List.cons_append, decodeFrom, piece]
    simp [ih]

/-- Every text is read back from its bytes. -/
theorem decode_encode (text : List Char) : decode (encode text) = .ok text :=
  decodeFrom_encode 0 [] text

theorem encode_inj {text text' : List Char} : encode text = encode text' ↔ text = text' := by
  constructor
  · intro same
    have read := decode_encode text
    rw [same, decode_encode] at read
    exact (Except.ok.inj read).symm
  · rintro rfl
    rfl

private theorem decodeLossyFrom_encode (read text : List Char) :
    decodeLossyFrom read (encode text) = read.reverse ++ text := by
  induction text generalizing read with
  | nil => simp [encode, decodeLossyFrom]
  | cons c text ih =>
    obtain ⟨byte, more, bytes, piece⟩ := firstPiece_encodeChar c (encode text)
    rw [encode_cons, bytes, List.cons_append, decodeLossyFrom, piece]
    simp [Piece.more, ih]

theorem decodeLossy_encode (text : List Char) : decodeLossy (encode text) = text :=
  decodeLossyFrom_encode [] text

private theorem continuation_eq {bits : Nat} (byte : UInt8) (least : 0x80 ≤ byte.toNat)
    (most : byte.toNat ≤ 0xBF) (same : bits % 64 = byte.toNat % 64) :
    continuation bits = byte := by
  rw [← UInt8.toNat_inj, toNat_continuation]
  omega

theorem toNat_charOfNat {n : Nat} (valid : n < 0xD800 ∨ (0xDFFF < n ∧ n < 0x110000)) :
    (Char.ofNat n).toNat = n := by
  rw [Char.ofNat, dif_pos valid]
  rfl

private theorem follow_zero_eq_character {low high : UInt8} {bytes : List UInt8}
    (found : follow 0 low high payload seen bytes = .character c more)
    (valid : payload < 0xD800 ∨ (0xDFFF < payload ∧ payload < 0x110000)) :
    c.toNat = payload ∧ seen = more := by
  obtain ⟨rfl, rfl⟩ : Char.ofNat payload = c ∧ seen = more := by simpa [follow] using found
  exact ⟨toNat_charOfNat valid, rfl⟩

private theorem follow_eq_character {owed : Nat} {low high : UInt8} {bytes : List UInt8}
    (found : follow (owed + 1) low high payload seen bytes = .character c more) :
    ∃ byte rest, bytes = byte :: rest ∧ low.toNat ≤ byte.toNat ∧ byte.toNat ≤ high.toNat ∧
      follow owed 0x80 0xBF (64 * payload + byte.toNat % 64) (seen + 1) rest =
        .character c more := by
  cases bytes with
  | nil => simp [follow] at found
  | cons byte rest =>
    rw [follow] at found
    split at found
    · rename_i within
      exact ⟨byte, rest, rfl, UInt8.le_iff_toNat_le.mp within.1,
        UInt8.le_iff_toNat_le.mp within.2, found⟩
    · cases found

/-- A lead byte begins the range of the bytes behind it so late, and ends it so early, that there
are no overlong forms, no surrogates and no numbers that are too large. -/
private theorem lead?_cases {byte low high : UInt8}
    (found : lead? byte = some ⟨following, low, high, payload⟩) :
    (following = 0 ∧ payload = byte.toNat ∧ byte.toNat < 0x80) ∨
      (following = 1 ∧ payload = byte.toNat - 0xC0 ∧ 0xC2 ≤ byte.toNat ∧ byte.toNat < 0xE0 ∧
        0x80 ≤ low.toNat ∧ high.toNat ≤ 0xBF) ∨
      (following = 2 ∧ payload = byte.toNat - 0xE0 ∧ 0xE0 ≤ byte.toNat ∧ byte.toNat < 0xF0 ∧
        0x80 ≤ low.toNat ∧ high.toNat ≤ 0xBF ∧
        (payload ≠ 0 ∨ 0xA0 ≤ low.toNat) ∧ (payload ≠ 0xD ∨ high.toNat ≤ 0x9F)) ∨
      (following = 3 ∧ payload = byte.toNat - 0xF0 ∧ 0xF0 ≤ byte.toNat ∧ byte.toNat < 0xF5 ∧
        0x80 ≤ low.toNat ∧ high.toNat ≤ 0xBF ∧
        (payload ≠ 0 ∨ 0x90 ≤ low.toNat) ∧ (payload ≠ 4 ∨ high.toNat ≤ 0x8F)) := by
  simp only [lead?] at found
  repeat' split at found
  all_goals cases found
  all_goals
    simp only [UInt8.reduceToNat, true_and]
    omega

private theorem firstPiece_eq_character {byte : UInt8} {bytes : List UInt8}
    (found : firstPiece byte bytes = .character c more) :
    byte :: bytes = String.utf8EncodeChar c ++ bytes.drop more := by
  have first {bits : Nat} (same : bits = byte.toNat) : UInt8.ofNat bits = byte := by
    rw [same, UInt8.ofNat_toNat]
  rw [firstPiece] at found
  split at found
  · rename_i announced lead
    obtain ⟨following, low, high, payload⟩ := announced
    dsimp only at found
    rcases lead?_cases lead with ⟨rfl, value, most⟩ | ⟨rfl, value, least, most, least', most'⟩ |
      ⟨rfl, value, least, most, least', most', overlong, surrogate⟩ |
      ⟨rfl, value, least, most, least', most', overlong, last⟩
    · obtain ⟨code, rfl⟩ := follow_zero_eq_character found (by omega)
      rw [encodeChar_one (by omega), first (by omega)]
      rfl
    · obtain ⟨b₁, rest, rfl, least₁, most₁, found⟩ := follow_eq_character found
      obtain ⟨code, rfl⟩ := follow_zero_eq_character found (by omega)
      rw [encodeChar_two (by omega) (by omega), first (by omega),
        continuation_eq b₁ (by omega) (by omega) (by omega)]
      rfl
    · obtain ⟨b₁, rest, rfl, least₁, most₁, found⟩ := follow_eq_character found
      obtain ⟨b₂, rest, rfl, least₂, most₂, found⟩ := follow_eq_character found
      obtain ⟨code, rfl⟩ := follow_zero_eq_character found (by omega)
      rw [encodeChar_three (by omega) (by omega), first (by omega),
        continuation_eq b₁ (by omega) (by omega) (by omega),
        continuation_eq b₂ least₂ most₂ (by omega)]
      rfl
    · obtain ⟨b₁, rest, rfl, least₁, most₁, found⟩ := follow_eq_character found
      obtain ⟨b₂, rest, rfl, least₂, most₂, found⟩ := follow_eq_character found
      obtain ⟨b₃, rest, rfl, least₃, most₃, found⟩ := follow_eq_character found
      obtain ⟨code, rfl⟩ := follow_zero_eq_character found (by omega)
      rw [encodeChar_four (by omega), first (by omega),
        continuation_eq b₁ (by omega) (by omega) (by omega),
        continuation_eq b₂ least₂ most₂ (by omega), continuation_eq b₃ least₃ most₃ (by omega)]
      rfl
  · cases found

private theorem eq_encode_of_decodeFrom {valid : Nat} {read : List Char} {bytes : List UInt8}
    (decoded : decodeFrom valid read bytes = .ok text) :
    ∃ more, text = read.reverse ++ more ∧ bytes = encode more := by
  fun_induction decodeFrom valid read bytes with
  | case1 valid read =>
    cases decoded
    exact ⟨[], (List.append_nil _).symm, rfl⟩
  | case2 valid read byte bytes c more piece ih =>
    obtain ⟨behind, same, rest⟩ := ih decoded
    refine ⟨c :: behind, by simp [same], ?_⟩
    rw [firstPiece_eq_character piece, rest, encode_cons]
  | case3 | case4 => cases decoded

/-- The well-formed byte sequences are the encoded texts, and each is the encoding of the text that
is read from it. -/
theorem decode_eq_ok_iff {bytes : List UInt8} : decode bytes = .ok text ↔ bytes = encode text := by
  constructor
  · intro decoded
    obtain ⟨more, same, whole⟩ := eq_encode_of_decodeFrom decoded
    rw [whole, same, List.reverse_nil, List.nil_append]
  · rintro rfl
    exact decode_encode text

/-- A byte below 0x80 is a character of its own. -/
theorem toNat_of_mem_encodeChar {c : Char} {byte : UInt8} (member : byte ∈ String.utf8EncodeChar c)
    (ascii : byte.toNat < 0x80) : c.toNat = byte.toNat := by
  have large {bits : Nat} (above : 0x80 ≤ bits % 0x100) : byte ≠ UInt8.ofNat bits := by
    rintro rfl
    rw [UInt8.toNat_ofNat'] at ascii
    omega
  by_cases one : c.toNat ≤ 0x7F
  · rw [encodeChar_one one] at member
    obtain rfl := List.mem_singleton.mp member
    rw [UInt8.toNat_ofNat']
    omega
  -- The bytes of a longer character all have their highest bit set.
  · exfalso
    by_cases two : c.toNat ≤ 0x7FF
    · rw [encodeChar_two (by omega) two] at member
      simp (disch := omega) only [continuation, List.mem_cons, List.not_mem_nil, large, or_self]
        at member
    · by_cases three : c.toNat ≤ 0xFFFF
      · rw [encodeChar_three (by omega) three] at member
        simp (disch := omega) only [continuation, List.mem_cons, List.not_mem_nil, large, or_self]
          at member
      · rw [encodeChar_four (by omega)] at member
        simp (disch := omega) only [continuation, List.mem_cons, List.not_mem_nil, large, or_self]
          at member

section Ascii

variable {c : Char}

theorem toNat_toUInt8 (ascii : c.toNat < 0x80) : c.toUInt8.toNat = c.toNat := by
  change (UInt8.ofNat c.toNat).toNat = c.toNat
  rw [UInt8.toNat_ofNat']
  omega

theorem encode_cons_ascii (ascii : c.toNat < 0x80) (text : List Char) :
    encode (c :: text) = c.toUInt8 :: encode text := by
  rw [encode_cons, encodeChar_one (by omega)]
  rfl

private theorem mem_encodeChar_iff (ascii : c.toNat < 0x80) {d : Char} :
    c.toUInt8 ∈ String.utf8EncodeChar d ↔ d = c := by
  have value := toNat_toUInt8 ascii
  constructor
  · intro member
    have same := toNat_of_mem_encodeChar member (by omega)
    exact Char.toNat_inj.mp (same.trans value)
  · rintro rfl
    rw [encodeChar_one (by omega)]
    exact List.mem_singleton_self _

theorem mem_encode_iff (ascii : c.toNat < 0x80) {text : List Char} :
    c.toUInt8 ∈ encode text ↔ c ∈ text := by
  simp only [encode, List.mem_flatMap, mem_encodeChar_iff ascii, exists_eq_right]

/-- A single byte occurs among the bytes as often as its character in the text. -/
theorem count_encode (ascii : c.toNat < 0x80) (text : List Char) :
    (encode text).count c.toUInt8 = text.count c := by
  induction text with
  | nil => rfl
  | cons d text ih =>
    rw [encode_cons, List.count_append, ih, List.count_cons]
    by_cases same : d = c
    · subst same
      rw [encodeChar_one (by omega), Nat.add_comm, if_pos (beq_self_eq_true d)]
      exact congrArg _ List.count_singleton_self
    · have absent : c.toUInt8 ∉ String.utf8EncodeChar d := by rwa [mem_encodeChar_iff ascii]
      simp [List.count_eq_zero.mpr absent, same]

theorem head?_encode_eq_some_iff (ascii : c.toNat < 0x80) {text : List Char} :
    (encode text).head? = some c.toUInt8 ↔ text.head? = some c := by
  cases text with
  | nil => simp [encode]
  | cons d text =>
    constructor
    · intro head
      obtain ⟨byte, more, bytes, -⟩ := firstPiece_encodeChar d []
      have first : byte = c.toUInt8 := by simpa [encode_cons, bytes] using head
      have same : d = c := (mem_encodeChar_iff ascii).mp (by simp [bytes, first])
      rw [same, List.head?_cons]
    · intro head
      obtain rfl : d = c := by simpa using head
      rw [encode_cons_ascii ascii, List.head?_cons]

end Ascii

end Lox.Utf8
