import Lox.Proofs.Placement
import Lox.Proofs.Utf8

namespace Lox.Utf8

@[simp] theorem length_encode (text : List Char) : (encode text).length = size text := by
  induction text with
  | nil => rfl
  | cons c text ih => rw [encode_cons, List.length_append, String.length_utf8EncodeChar, ih,
      size_cons]

theorem take_encode (before behind : List Char) :
    (encode (before ++ behind)).take (size before) = encode before := by
  rw [encode_append, ← length_encode, List.take_left]

theorem drop_encode (before behind : List Char) :
    (encode (before ++ behind)).drop (size before) = encode behind := by
  rw [encode_append, ← length_encode, List.drop_left]

/-- So many bytes stand before some character of the text, or before its end. -/
def IsBoundary (text : List Char) (index : Nat) : Prop :=
  ∃ before behind, text = before ++ behind ∧ index = size before

theorem isBoundary_zero (text : List Char) : IsBoundary text 0 := ⟨[], text, rfl, rfl⟩

theorem isBoundary_end (text : List Char) : IsBoundary text (encode text).length :=
  ⟨text, [], (List.append_nil _).symm, length_encode text⟩

/-- A byte below 0x80 is a character of the text. -/
private theorem exists_of_ascii {text : List Char} (found : (encode text)[index]? = some byte)
    (ascii : byte.toNat < 0x80) :
    ∃ before c behind, text = before ++ c :: behind ∧ index = size before ∧
      c.toNat = byte.toNat := by
  induction text generalizing index with
  | nil => simp [encode] at found
  | cons c text ih =>
    rw [encode_cons, List.getElem?_append] at found
    split at found
    · rename_i inside
      have same := toNat_of_mem_encodeChar (List.mem_of_getElem? found) ascii
      rw [encodeChar_one (by omega), List.length_singleton] at inside
      obtain rfl : index = 0 := by omega
      exact ⟨[], c, text, rfl, rfl, same⟩
    · rename_i behind
      rw [Nat.not_lt] at behind
      obtain ⟨before, d, behind', rfl, place, same⟩ := ih found
      rw [String.length_utf8EncodeChar] at behind place
      exact ⟨c :: before, d, behind', rfl, by rw [size_cons]; omega, same⟩

private theorem size_ascii {c : Char} (ascii : c.toNat < 0x80) : c.utf8Size = 1 := by
  rw [← String.length_utf8EncodeChar, encodeChar_one (by omega), List.length_singleton]

/-- There is a boundary on either side of a byte below 0x80. -/
theorem isBoundary_of_ascii {text : List Char} (found : (encode text)[index]? = some byte)
    (ascii : byte.toNat < 0x80) : IsBoundary text index ∧ IsBoundary text (index + 1) := by
  obtain ⟨before, c, behind, rfl, rfl, same⟩ := exists_of_ascii found ascii
  refine ⟨⟨before, c :: behind, rfl, rfl⟩, before ++ [c], behind, by simp, ?_⟩
  rw [size_append, size_cons, size_ascii (by omega), size_nil]

/-- The first byte of a character goes on with none, and all others do. -/
private theorem encodeChar_bytes (c : Char) : ∃ lead more, String.utf8EncodeChar c = lead :: more ∧
    isContinuation lead = false ∧ ∀ byte ∈ more, isContinuation byte := by
  have goesOn (bits : Nat) : isContinuation (continuation bits) = true := by
    rw [isContinuation, toNat_continuation, Bool.and_eq_true, decide_eq_true_iff,
      decide_eq_true_iff]
    omega
  have leads {bits : Nat} (outside : bits % 0x100 < 0x80 ∨ 0xC0 ≤ bits % 0x100) :
      isContinuation (UInt8.ofNat bits) = false := by
    rw [isContinuation, UInt8.toNat_ofNat', Bool.and_eq_false_iff, decide_eq_false_iff_not,
      decide_eq_false_iff_not]
    omega
  by_cases one : c.toNat ≤ 0x7F
  · exact ⟨_, _, encodeChar_one one, leads (by omega), by simp⟩
  · by_cases two : c.toNat ≤ 0x7FF
    · exact ⟨_, _, encodeChar_two (by omega) two, leads (by omega), by simp [goesOn]⟩
    · by_cases three : c.toNat ≤ 0xFFFF
      · exact ⟨_, _, encodeChar_three (by omega) three, leads (by omega), by simp [goesOn]⟩
      · exact ⟨_, _, encodeChar_four (by omega), leads (by omega), by simp [goesOn]⟩

theorem atBoundary_append (bytes bytes' : List UInt8) (index : Nat) :
    atBoundary (bytes ++ bytes') (bytes.length + index) = atBoundary bytes' index := by
  rw [atBoundary, List.getElem?_append_right (Nat.le_add_right _ _), Nat.add_sub_cancel_left,
    atBoundary, List.length_append]
  cases bytes'[index]? with
  | some byte => rfl
  | none => exact decide_eq_decide.mpr Nat.add_left_cancel_iff

theorem isBoundary_cons {c : Char} {text : List Char} :
    IsBoundary (c :: text) index ↔
      index = 0 ∨ ∃ later, index = c.utf8Size + later ∧ IsBoundary text later := by
  constructor
  · rintro ⟨before, behind, whole, rfl⟩
    cases before with
    | nil => exact .inl rfl
    | cons d before =>
      obtain ⟨rfl, rfl⟩ := List.cons.inj whole
      exact .inr ⟨size before, size_cons c before, before, behind, rfl, rfl⟩
  · rintro (rfl | ⟨_, rfl, before, behind, rfl, rfl⟩)
    · exact isBoundary_zero _
    · exact ⟨c :: before, behind, rfl, (size_cons c before).symm⟩

/-- The bytes tell the boundaries of their text. -/
theorem atBoundary_encode_iff {text : List Char} :
    atBoundary (encode text) index = true ↔ IsBoundary text index := by
  induction text generalizing index with
  | nil =>
    have only : IsBoundary [] index ↔ index = 0 := by simp [IsBoundary]
    simp [atBoundary, encode, only]
  | cons c text ih =>
    obtain ⟨lead, more, bytes, leads, goesOn⟩ := encodeChar_bytes c
    have length : (lead :: more).length = c.utf8Size := by
      rw [← bytes, String.length_utf8EncodeChar]
    rw [isBoundary_cons, encode_cons]
    by_cases past : c.utf8Size ≤ index
    · obtain ⟨later, rfl⟩ := Nat.exists_eq_add_of_le past
      have positive := c.utf8Size_pos
      rw [← length, ← bytes, atBoundary_append, ih, bytes]
      simp
    · rw [bytes]
      cases index with
      | zero => simp [atBoundary, leads]
      | succ index =>
        -- Inside the character each byte goes on with it.
        have inside : index < more.length := by
          rw [List.length_cons] at length
          omega
        have within := goesOn _ (List.getElem_mem inside)
        have notBoundary : ¬ ∃ later, index + 1 = c.utf8Size + later ∧ IsBoundary text later := by
          rintro ⟨later, same, -⟩
          omega
        have next : (lead :: more ++ encode text)[index + 1]? = some more[index] := by
          rw [List.cons_append, List.getElem?_cons_succ, List.getElem?_append_left inside,
            List.getElem?_eq_getElem inside]
        simp only [atBoundary, next, within, notBoundary]
        simp

end Lox.Utf8
