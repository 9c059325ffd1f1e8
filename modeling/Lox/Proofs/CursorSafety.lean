import Mathlib.Control.Monad.Basic
import Lox.Proofs.CursorSteps

namespace Lox

open Utf8 (encode IsBoundary)

namespace Cursor

section Runs

variable {text : List Char} {scanner : Scanner} {point : Point} {cursor : Cursor}

/-- A cursor stays within the text, and its ends are ends of characters where a unit is next. -/
structure IsInside (text : List Char) (point : Point) (cursor : Cursor) : Prop where
  ordered : cursor.start ≤ cursor.current
  within : cursor.current ≤ (encode text).length
  between : point = .head → IsBoundary text cursor.start ∧ IsBoundary text cursor.current

private theorem Stands.isInside (stands : Stands text scanner point cursor) :
    IsInside text point cursor := by
  have place {before : List Char} (behind : scanner.StandsBehind text before) :
      (encode text).length = scanner.offset + (encode scanner.rest).length := by
    rw [behind.whole, Utf8.encode_append, List.length_append, behind.offset, Utf8.length_encode]
  cases stands with
  | head behind begun le =>
    refine ⟨le, ?_, fun _ => ⟨begun, _, _, behind.whole, behind.offset⟩⟩
    rw [place behind]
    exact Nat.le_add_right _ _
  | dispatch behind whole =>
    refine ⟨Nat.le_add_right _ _, ?_, nofun⟩
    rw [place behind, whole, List.length_cons]
    exact Nat.add_le_add_left (Nat.le_add_left _ _) _
  | within behind whole within =>
    refine ⟨Nat.le_add_right _ _, ?_, ?_⟩
    · rw [place behind, whole, List.length_append, ← Nat.add_assoc]
      exact Nat.le_add_right _ _
    · rintro rfl
      cases within

theorem stands_initial (source : String) :
    Stands source.toList (Scanner.ofSource source) .head initial :=
  .head (Scanner.standsBehind_ofSource source) (Utf8.isBoundary_zero _) (Nat.le_refl 0)

/-- Wherever a cursor comes to, there is a scanner that it keeps step with. -/
theorem Reached.stands {source : String} (bounded : source.toList.count '\n' < 4294967295)
    (reached : Reached (encode source.toList) point cursor) :
    ∃ scanner, Stands source.toList scanner point cursor := by
  induction reached with
  | initial => exact ⟨_, stands_initial source⟩
  | goesOn _ found ih | pulled _ found ih =>
    obtain ⟨scanner, stands⟩ := ih
    obtain ⟨motion, same, keeps⟩ := stands.succeeds bounded
    obtain rfl := Except.ok.inj (same.symm.trans found)
    obtain ⟨ahead, -, stands'⟩ := keeps
    exact ⟨ahead, stands'⟩

/-- A cursor goes on to the end of its pull, and there it stands where the scanner does. -/
theorem Stands.run_eq (bounded : text.count '\n' < 4294967295)
    (stands : Stands text scanner point cursor) :
    ∃ cursor', run (encode text) point cursor = .ok (scanner.next.1, cursor') ∧
      Stands text scanner.next.2 .head cursor' := by
  fun_induction run (encode text) point cursor generalizing scanner with
  | case1 point cursor point' cursor' found ih =>
    obtain ⟨motion, same, keeps⟩ := stands.succeeds bounded
    obtain rfl := Except.ok.inj (same.symm.trans found)
    obtain ⟨ahead, next, stands'⟩ := keeps
    rw [← next]
    exact ih stands'
  | case2 point cursor result cursor' found =>
    obtain ⟨motion, same, keeps⟩ := stands.succeeds bounded
    obtain rfl := Except.ok.inj (same.symm.trans found)
    obtain ⟨ahead, next, stands'⟩ := keeps
    rw [next]
    exact ⟨cursor', rfl, stands'⟩
  | case3 point cursor fault found =>
    obtain ⟨motion, same, -⟩ := stands.succeeds bounded
    rw [same] at found
    cases found

private theorem reached_of_run {bytes : List UInt8} (reached : Reached bytes point cursor)
    (ended : run bytes point cursor = .ok (result, cursor')) : Reached bytes .head cursor' := by
  fun_induction run bytes point cursor with
  | case1 point cursor point' cursor'' found ih => exact ih (.goesOn reached found) ended
  | case2 point cursor result' cursor'' found =>
    obtain ⟨rfl, rfl⟩ := Prod.mk.inj (Except.ok.inj ended)
    exact .pulled reached found
  | case3 => cases ended

/-- After some pulls a cursor stands where the scanner does after as many. -/
private theorem Stands.after_eq (bounded : text.count '\n' < 4294967295)
    (stands : Stands text scanner .head cursor) (reached : Reached (encode text) .head cursor)
    (pulls : Nat) :
    ∃ cursor', after (encode text) cursor pulls = .ok cursor' ∧
      Reached (encode text) .head cursor' ∧ Stands text (scanner.after pulls) .head cursor' := by
  induction pulls generalizing scanner cursor with
  | zero => exact ⟨cursor, rfl, reached, stands⟩
  | succ pulls ih =>
    obtain ⟨cursor', ended, stands'⟩ := stands.run_eq bounded
    obtain ⟨last, found, reached', stands''⟩ := ih stands' (reached_of_run reached ended)
    refine ⟨last, ?_, reached', stands''⟩
    rw [after, pull, ended, ok_bind]
    exact found

/-- A cursor that keeps step with a scanner delivers all that the scanner has left. -/
theorem Stands.drains (bounded : text.count '\n' < 4294967295)
    (stands : Stands text scanner .head cursor) :
    Drains (encode text) cursor scanner.pending := by
  generalize left : scanner.pending = results
  induction results generalizing scanner cursor with
  | nil =>
    obtain ⟨cursor', pulled, -⟩ := stands.run_eq bounded
    obtain ⟨results, -, -⟩ := scanner.next_spec
    rw [left] at results
    have nothing : scanner.next.1 = none := Option.toList_eq_nil_iff.mp
      (List.append_eq_nil_iff.mp results.symm).1
    rw [nothing] at pulled
    exact .ended pulled
  | cons result later ih =>
    obtain ⟨cursor', pulled, stands'⟩ := stands.run_eq bounded
    obtain ⟨results, -, ended⟩ := scanner.next_spec
    rw [left] at results
    cases delivered : scanner.next.1 with
    | none =>
      rw [delivered, ended delivered, Scanner.pending_spent] at results
      cases results
    | some found =>
      rw [delivered] at results pulled
      obtain ⟨rfl, rest⟩ := List.cons.inj results
      exact .delivers pulled (ih stands' rest.symm)

theorem Drains.unique {bytes : List UInt8} (drains : Drains bytes cursor results)
    (drains' : Drains bytes cursor results') : results = results' := by
  induction drains generalizing results' with
  | ended pulled =>
    cases drains' with
    | ended => rfl
    | delivers pulled' => cases pulled.symm.trans pulled'
  | delivers pulled _ ih =>
    cases drains' with
    | ended pulled' => cases pulled.symm.trans pulled'
    | delivers pulled' drains' =>
      obtain ⟨same, rfl⟩ := Prod.mk.inj (Except.ok.inj (pulled.symm.trans pulled'))
      rw [Option.some.inj same, ih drains']

/-- A whole run over the bytes of a text delivers what a scan of the text does. -/
theorem drains_iff (source : String) (bounded : source.toList.count '\n' < 4294967295) :
    Drains (encode source.toList) initial results ↔ results = scan source := by
  have drains := (stands_initial source).drains bounded
  have all : (Scanner.ofSource source).pending = scan source := (scan_eq_placed source).symm
  rw [all] at drains
  constructor
  · intro drains'
    exact drains'.unique drains
  · rintro rfl
    exact drains

/-- In the bytes of a text no cursor fails, however often it is pulled: it stays between the byte
that its unit begins with and the end, both its ends are ends of characters where a unit is next,
and it finds every byte that it reads and both ends of every slice that it cuts out. A pull delivers
what the scanner delivers and leaves the cursor where the scanner then stands. -/
theorem pulls_never_fail (source : String) (bounded : source.toList.count '\n' < 4294967295) :
    (∀ point cursor, Reached (encode source.toList) point cursor →
      IsInside source.toList point cursor ∧
        ∃ motion, step (encode source.toList) point cursor = .ok motion) ∧
    ∀ pulls, let scanner := (Scanner.ofSource source).after pulls
      ∃ cursor cursor', after (encode source.toList) initial pulls = .ok cursor ∧
        Reached (encode source.toList) .head cursor ∧
        cursor.current = scanner.offset ∧ cursor.line = scanner.line ∧
        pull (encode source.toList) cursor = .ok (scanner.next.1, cursor') := by
  refine ⟨fun point cursor reached => ?_, fun pulls => ?_⟩
  · obtain ⟨scanner, stands⟩ := reached.stands bounded
    obtain ⟨motion, same, -⟩ := stands.succeeds bounded
    exact ⟨stands.isInside, motion, same⟩
  · obtain ⟨cursor, found, reached, stands⟩ :=
      (stands_initial source).after_eq bounded .initial pulls
    obtain ⟨cursor', pulled, -⟩ := stands.run_eq bounded
    refine ⟨cursor, cursor', found, reached, ?_, ?_, pulled⟩
    · cases stands with
      | head => rfl
      | within behind whole within => cases within
    · cases stands with
      | head => rfl
      | within behind whole within => cases within

/-- In the bytes of a string a cursor comes to the second byte of a character. It goes on, and the
next pull goes over a whole character of three bytes. -/
theorem pulls_never_fail_inside_character :
    let source := "\"é\" €"
    let bytes := encode source.toList
    source.toList.count '\n' < 4294967295 ∧ Reached bytes .string ⟨0, 2, 1⟩ ∧
      ¬ IsBoundary source.toList 2 ∧
      IsInside source.toList .string ⟨0, 2, 1⟩ ∧
      (∃ motion, step bytes .string ⟨0, 2, 1⟩ = .ok motion) ∧
      ∃ cursor cursor', after bytes initial 1 = .ok cursor ∧ Reached bytes .head cursor ∧
        cursor.current = 4 ∧ cursor.line = 1 ∧
        pull bytes cursor = .ok (some (.error ⟨1, .unexpectedCharacter '€' 5⟩), cursor') := by
  intro source bytes
  have bounded : source.toList.count '\n' < 4294967295 := by decide +kernel
  have quote : step bytes .head initial = .ok (.goesOn (.dispatch '"') ⟨0, 1, 1⟩) := by
    decide +kernel
  have opened : step bytes (.dispatch '"') ⟨0, 1, 1⟩ = .ok (.goesOn .string ⟨0, 1, 1⟩) := by
    decide +kernel
  have half : step bytes .string ⟨0, 1, 1⟩ = .ok (.goesOn .string ⟨0, 2, 1⟩) := by
    decide +kernel
  have reached : Reached bytes .string ⟨0, 2, 1⟩ :=
    .goesOn (.goesOn (.goesOn .initial quote) opened) half
  have inside : ¬ IsBoundary source.toList 2 := by
    rw [← Utf8.atBoundary_encode_iff]
    decide +kernel
  have scanner : (Scanner.ofSource source).after 1 = ⟨" €".toList, 4, 1⟩ := by decide +kernel
  have delivered : (Scanner.mk " €".toList 4 1).next.1 =
      some (.error ⟨1, .unexpectedCharacter '€' 5⟩) := by decide +kernel
  obtain ⟨states, pulls⟩ := pulls_never_fail source bounded
  obtain ⟨within, succeeds⟩ := states _ _ reached
  have pulled := pulls 1
  rw [scanner] at pulled
  dsimp only at pulled
  rw [delivered] at pulled
  exact ⟨bounded, reached, inside, within, succeeds, pulled⟩

end Runs

end Cursor

end Lox
