import Lox.Cursor.Recorder
import Lox.Proofs.CursorSafety

namespace Lox

open Utf8 (encode)
open Recorder (Follows)

namespace Cursor

theorem run_eq (bytes : List UInt8) (point : Point) (cursor : Cursor) :
    run bytes point cursor = step bytes point cursor >>= fun
      | .goesOn point' cursor' => run bytes point' cursor'
      | .delivers result cursor' => .ok (result, cursor') := by
  fun_cases run bytes point cursor with
  | case1 point' cursor' found => rw [found]; rfl
  | case2 result cursor' found => rw [found]; rfl
  | case3 fault found => rw [found]; rfl

/-- A pull leaves one record where it delivers a result, and else none. -/
theorem recordRun_follows (bytes : List UInt8) (point : Point) (cursor : Cursor) :
    Follows (recordRun bytes point cursor) (run bytes point cursor)
      fun pulled => pulled.1.toList.map Log.Event.ofResult := by
  intro log
  fun_induction recordRun bytes point cursor log with
  | case1 point cursor log point' cursor' log' found ih =>
    obtain ⟨moved, rfl⟩ := (recordStep_follows bytes point cursor).eq_ok found
    rw [ih, run_eq bytes point, moved, Motion.events, List.append_nil]
    rfl
  | case2 point cursor log result cursor' log' found =>
    obtain ⟨moved, rfl⟩ := (recordStep_follows bytes point cursor).eq_ok found
    rw [run_eq, moved]
    rfl
  | case3 point cursor log fault found =>
    have followed := recordStep_follows bytes point cursor log
    rw [found] at followed
    cases moved : step bytes point cursor with
    | ok motion =>
      rw [moved] at followed
      cases followed
    | error fault' =>
      rw [moved] at followed
      obtain rfl := Except.error.inj followed
      rw [run_eq, moved]
      rfl

end Cursor

/-- Results that are consumed one by one, each behind its record. -/
def recounted (results : List Result) : List (Log.Event ⊕ Result) :=
  results.flatMap fun result => [.inl (Log.Event.ofResult result), .inr result]

theorem records_recounted (results : List Result) :
    (recounted results).filterMap Sum.getLeft? = results.map Log.Event.ofResult := by
  induction results with
  | nil => rfl
  | cons result results ih => exact congrArg (Log.Event.ofResult result :: ·) ih

namespace Cursor

variable {text : List Char} {scanner : Scanner} {cursor : Cursor}

/-- In the bytes of a text a consumer gets the scanner's results, each right behind its record. -/
theorem Stands.consume_eq (bounded : text.count '\n' < 4294967295)
    (stands : Stands text scanner .head cursor) (wanted : Nat) :
    ∃ cursor', consume (encode text) cursor wanted =
      .ok (recounted (scanner.pending.take wanted), cursor') := by
  -- A pull of the consumer is one of the scanner, and they go on from the same place.
  induction wanted generalizing scanner cursor with
  | zero => exact ⟨cursor, rfl⟩
  | succ wanted ih =>
    obtain ⟨cursor', pulled, stands'⟩ := stands.run_eq bounded
    obtain ⟨last, later⟩ := ih stands'
    have recorded := recordRun_follows (encode text) .head cursor []
    rw [pulled] at recorded
    obtain ⟨results, -, ended⟩ := scanner.next_spec
    rw [consume, recordPull, recorded, results]
    cases delivered : scanner.next.1 with
    | none =>
      refine ⟨cursor', ?_⟩
      rw [ended delivered, Scanner.pending_spent]
      rfl
    | some result =>
      refine ⟨last, ?_⟩
      simp only [Except.map, ok_bind, later]
      rfl

end Cursor

end Lox
