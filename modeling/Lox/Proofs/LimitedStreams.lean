import Lox.Proofs.Sessions

/-!
Streams with limited room. What is written to both streams is one row of bytes, each with its
stream. Limited streams take the longest beginning of that row in which neither stream has more
than its limit, however the row is cut into writes.
-/

namespace Lox

/-- The bytes of a write, each with its stream. -/
def Write.bytes (write : Write) : List (Stream × UInt8) :=
  (Utf8.encode write.text.toList).map (write.stream, ·)

/-- The bytes of some writes, in order. -/
def rowOf (writes : List Write) : List (Stream × UInt8) := writes.flatMap Write.bytes

/-- The bytes that a delivery has brought to the streams, in order. -/
def Delivery.bytes (delivery : Delivery) : List (Stream × UInt8) :=
  delivery.accepted.flatMap fun (stream, bytes) => bytes.map (stream, ·)

/-- How many of the bytes go to a stream. -/
def load (stream : Stream) (bytes : List (Stream × UInt8)) : Nat :=
  bytes.countP (·.1 = stream)

@[simp] theorem load_nil (stream : Stream) : load stream [] = 0 := rfl

@[simp] theorem load_append (stream : Stream) (bytes bytes' : List (Stream × UInt8)) :
    load stream (bytes ++ bytes') = load stream bytes + load stream bytes' :=
  List.countP_append

@[simp] theorem load_map (stream stream' : Stream) (bytes : List UInt8) :
    load stream (bytes.map (stream', ·)) = if stream' = stream then bytes.length else 0 := by
  rw [load, List.countP_map]
  by_cases same : stream' = stream
  · simp [same, Function.comp_def]
  · simp [same, Function.comp_def]

@[simp] theorem rowOf_nil : rowOf [] = [] := rfl

@[simp] theorem rowOf_cons (write : Write) (writes : List Write) :
    rowOf (write :: writes) = write.bytes ++ rowOf writes := rfl

@[simp] theorem rowOf_append (writes writes' : List Write) :
    rowOf (writes ++ writes') = rowOf writes ++ rowOf writes' := List.flatMap_append

private theorem Delivery.bytesTo_eq (delivery : Delivery) (stream : Stream) :
    delivery.bytesTo stream = (delivery.bytes.filter (·.1 = stream)).map Prod.snd := by
  rw [bytesTo, bytes]
  induction delivery.accepted with
  | nil => rfl
  | cons block blocks ih =>
    by_cases same : block.1 = stream
    · simp [same, ih, List.filter_map, Function.comp_def]
    · simp [same, ih, List.filter_map, Function.comp_def]

private theorem Delivery.length_bytesTo (delivery : Delivery) (stream : Stream) :
    (delivery.bytesTo stream).length = load stream delivery.bytes := by
  rw [bytesTo_eq, List.length_map, load, List.countP_eq_length_filter]

namespace Room

/-- Neither stream has more bytes than its limit. -/
def Fits (room : Room) (bytes : List (Stream × UInt8)) : Prop :=
  ∀ stream limit, room.of stream = some limit → load stream bytes ≤ limit

/-- Of all beginnings of a row of bytes that fit, the longest. -/
structure Takes (room : Room) (whole taken : List (Stream × UInt8)) : Prop where
  begins : taken <+: whole
  fits : room.Fits taken
  longest : ∀ other, other <+: whole → room.Fits other → other <+: taken

variable {room : Room} {whole taken : List (Stream × UInt8)}

theorem Fits.of_append {bytes more : List (Stream × UInt8)} (fits : room.Fits (bytes ++ more)) :
    room.Fits bytes := by
  intro stream limit bound
  have most := fits stream limit bound
  rw [load_append] at most
  exact Nat.le_trans (Nat.le_add_right _ _) most

/-- There is only one longest beginning. -/
theorem Takes.unique (takes : room.Takes whole taken) (takes' : room.Takes whole taken') :
    taken = taken' := by
  have shorter := takes'.longest taken takes.begins takes.fits
  have longer := takes.longest taken' takes'.begins takes'.fits
  exact shorter.eq_of_length_le longer.length_le

/-- All is taken just when all fits. -/
private theorem Takes.eq_iff (takes : room.Takes whole taken) :
    taken = whole ↔ room.Fits whole := by
  constructor
  · rintro rfl
    exact takes.fits
  · intro fits
    have all := takes.longest whole List.prefix_rfl fits
    exact takes.begins.eq_of_length_le all.length_le

/-- The room that is left behind a write. -/
def behind (room : Room) (write : Write) : Room :=
  room.fill (Utf8.encode write.text.toList).length write.stream

private theorem of_fill (room : Room) (bytes : Nat) (stream stream' : Stream) :
    (room.fill bytes stream).of stream' =
      if stream = stream' then (room.of stream').map (· - bytes) else room.of stream' := by
  cases stream <;> cases stream' <;> rfl

/-- A write that fits takes from the room what it brings. -/
private theorem of_behind_iff {write : Write} (few : room.Fits write.bytes) (stream : Stream)
    (left : Nat) : (room.behind write).of stream = some left ↔
      room.of stream = some (load stream write.bytes + left) := by
  have most := few stream
  rw [Write.bytes, load_map] at most ⊢
  by_cases same : write.stream = stream
  · have filled : (room.behind write).of stream =
        (room.of stream).map (· - (Utf8.encode write.text.toList).length) := by
      rw [behind, of_fill, if_pos same]
    rw [if_pos same] at most ⊢
    rw [filled, Option.map_eq_some_iff]
    constructor
    · rintro ⟨limit, bound, rfl⟩
      rw [bound, Nat.add_sub_cancel' (most limit bound)]
    · intro bound
      exact ⟨_, bound, Nat.add_sub_cancel_left _ _⟩
  · have kept : (room.behind write).of stream = room.of stream := by
      rw [behind, of_fill, if_neg same]
    rw [if_neg same, Nat.zero_add, kept]

private theorem fits_behind_iff {write : Write} (few : room.Fits write.bytes)
    (more : List (Stream × UInt8)) :
    (room.behind write).Fits more ↔ room.Fits (write.bytes ++ more) := by
  constructor
  · intro fits stream limit bound
    obtain ⟨left, rfl⟩ := Nat.exists_eq_add_of_le (few stream limit bound)
    rw [load_append]
    apply Nat.add_le_add_left
    exact fits stream left ((of_behind_iff few stream left).mpr bound)
  · intro fits stream left bound
    have most := fits stream _ ((of_behind_iff few stream left).mp bound)
    rw [load_append] at most
    exact Nat.le_of_add_le_add_left most

/-- A write that fits is taken, and behind it what the room that is left takes. -/
theorem Takes.write {write : Write} (few : room.Fits write.bytes)
    (takes : (room.behind write).Takes whole taken) :
    room.Takes (write.bytes ++ whole) (write.bytes ++ taken) where
  begins := (List.prefix_append_right_inj _).mpr takes.begins
  fits := (fits_behind_iff few _).mp takes.fits
  longest := by
    intro other begins fits
    rcases List.prefix_or_prefix_of_prefix begins (List.prefix_append write.bytes whole) with
      inside | ⟨more, rfl⟩
    · exact inside.trans (List.prefix_append _ _)
    · apply (List.prefix_append_right_inj _).mpr
      apply takes.longest
      · exact (List.prefix_append_right_inj _).mp begins
      · exact (fits_behind_iff few more).mpr fits

/-- Of a write that does not fit, the part that fits is taken, and nothing behind it. -/
theorem Takes.cut {write : Write} (bound : room.of write.stream = some limit)
    (many : limit < (Utf8.encode write.text.toList).length)
    (more : List (Stream × UInt8)) :
    room.Takes (write.bytes ++ more)
      (((Utf8.encode write.text.toList).take limit).map (write.stream, ·)) where
  begins := by
    apply List.IsPrefix.trans _ (List.prefix_append _ _)
    exact (List.take_prefix _ _).map _
  fits := by
    intro stream limit' bound'
    rw [load_map]
    by_cases same : write.stream = stream
    · subst same
      obtain rfl : limit = limit' := Option.some.inj (bound.symm.trans bound')
      rw [if_pos rfl]
      exact List.length_take_le _ _
    · rw [if_neg same]
      exact Nat.zero_le _
  longest := by
    intro other begins fits
    have inside : other <+: write.bytes := by
      rcases List.prefix_or_prefix_of_prefix begins (List.prefix_append write.bytes more) with
        inside | ⟨behind, rfl⟩
      · exact inside
      · have most := fits.of_append write.stream limit bound
        rw [Write.bytes, load_map, if_pos rfl] at most
        exact absurd many (Nat.not_lt.mpr most)
    obtain ⟨part, start, rfl⟩ := List.prefix_map_iff.mp inside
    have most := fits write.stream limit bound
    rw [load_map, if_pos rfl] at most
    apply List.IsPrefix.map
    exact (List.prefix_take_iff.mpr ⟨start, most⟩)

end Room

namespace Delivery

private theorem deliverOnto_eq (accepted : List (Stream × List UInt8)) (room : Room)
    (writes : List Write) : deliverOnto accepted room writes =
      ⟨accepted.reverse ++ (deliver room writes).accepted, (deliver room writes).complete⟩ := by
  rw [deliver]
  induction writes generalizing accepted room with
  | nil => simp [deliverOnto]
  | cons write writes ih =>
    simp only [deliverOnto]
    split
    · simp
    · rw [ih, ih [_]]
      simp

@[simp] theorem bytes_nil (complete : Bool) : bytes ⟨[], complete⟩ = [] := rfl

@[simp] theorem bytes_cons (stream : Stream) (block : List UInt8)
    (blocks : List (Stream × List UInt8)) (complete : Bool) :
    bytes ⟨(stream, block) :: blocks, complete⟩ =
      block.map (stream, ·) ++ bytes ⟨blocks, complete⟩ := rfl

/-- A write that fits is delivered as a whole, and then what comes behind it. -/
private theorem deliver_cons_of_fits {room : Room} {write : Write} (few : room.Fits write.bytes)
    (writes : List Write) :
    let behind := deliver (room.behind write) writes
    deliver room (write :: writes) =
      ⟨(write.stream, Utf8.encode write.text.toList) :: behind.accepted, behind.complete⟩ := by
  intro behind
  have whole : ((room.of write.stream).map (Utf8.encode write.text.toList).take).getD
      (Utf8.encode write.text.toList) = Utf8.encode write.text.toList := by
    cases bound : room.of write.stream with
    | none => rfl
    | some limit =>
      have most := few write.stream limit bound
      rw [Write.bytes, load_map, if_pos rfl] at most
      exact List.take_of_length_le most
  rw [deliver, deliverOnto, whole, if_neg (Nat.lt_irrefl _), deliverOnto_eq]
  rfl

/-- A write that does not fit fills its stream up, and nothing comes behind it. -/
private theorem deliver_cons_of_many {room : Room} {write : Write}
    (bound : room.of write.stream = some limit)
    (many : limit < (Utf8.encode write.text.toList).length) (writes : List Write) :
    deliver room (write :: writes) =
      ⟨[(write.stream, (Utf8.encode write.text.toList).take limit)], false⟩ := by
  have part : ((Utf8.encode write.text.toList).take limit).length <
      (Utf8.encode write.text.toList).length := by
    rw [List.length_take_of_le (Nat.le_of_lt many)]
    exact many
  simp only [deliver, deliverOnto, bound, Option.map_some, Option.getD_some]
  rw [if_pos part]
  rfl

/-- A write fits, or its stream has a limit that is too low for it. -/
private theorem fits_or_many (room : Room) (write : Write) :
    room.Fits write.bytes ∨ ∃ limit, room.of write.stream = some limit ∧
      limit < (Utf8.encode write.text.toList).length := by
  by_cases few : ∀ limit, room.of write.stream = some limit →
      (Utf8.encode write.text.toList).length ≤ limit
  · left
    intro stream limit bound
    rw [Write.bytes, load_map]
    by_cases same : write.stream = stream
    · rw [if_pos same]
      exact few limit (same ▸ bound)
    · rw [if_neg same]
      exact Nat.zero_le _
  · right
    obtain ⟨limit, few⟩ := Classical.not_forall.mp few
    obtain ⟨bound, many⟩ := Classical.not_imp.mp few
    exact ⟨limit, bound, Nat.lt_of_not_le many⟩

/-- Limited streams take the longest beginning that fits. -/
private theorem takes_deliver (room : Room) (writes : List Write) :
    room.Takes (rowOf writes) (deliver room writes).bytes := by
  induction writes generalizing room with
  | nil =>
    refine ⟨List.prefix_rfl, ?_, fun other begins _ => begins⟩
    intro stream limit _
    exact Nat.zero_le limit
  | cons write writes ih =>
    rcases fits_or_many room write with few | ⟨limit, bound, many⟩
    · rw [deliver_cons_of_fits few]
      exact .write few (ih _)
    · rw [deliver_cons_of_many bound many]
      simpa using Room.Takes.cut bound many (rowOf writes)

/-- A delivery that is broken off behind the writes `before`: its stream is filled up with a part of
the write `broken`, and nothing that comes behind is delivered. -/
structure BreaksAt (delivery : Delivery) (room : Room) (before : List Write) (broken : Write) :
    Prop where
  limited : room.of broken.stream = some (delivery.bytesTo broken.stream).length
  part : ∃ part, part <+: broken.bytes ∧ part ≠ broken.bytes ∧
    delivery.bytes = rowOf before ++ part

theorem BreaksAt.write {room : Room} {write : Write} (few : room.Fits write.bytes)
    (breaks : (deliver (room.behind write) writes).BreaksAt (room.behind write) before broken) :
    (deliver room (write :: writes)).BreaksAt room (write :: before) broken := by
  obtain ⟨limited, part, start, proper, same⟩ := breaks
  have row : (deliver room (write :: writes)).bytes =
      write.bytes ++ (deliver (room.behind write) writes).bytes := by
    rw [deliver_cons_of_fits few]
    rfl
  refine ⟨?_, part, start, proper, ?_⟩
  · rw [length_bytesTo] at limited ⊢
    rw [row, load_append]
    exact (Room.of_behind_iff few _ _).mp limited
  · rw [row, same, rowOf_cons, List.append_assoc]

private theorem breaksAt_of_many {room : Room} {write : Write}
    (bound : room.of write.stream = some limit)
    (many : limit < (Utf8.encode write.text.toList).length) (writes : List Write) :
    (deliver room (write :: writes)).BreaksAt room [] write := by
  have filled : ((Utf8.encode write.text.toList).take limit).length = limit :=
    List.length_take_of_le (Nat.le_of_lt many)
  rw [deliver_cons_of_many bound many]
  refine ⟨?_, ((Utf8.encode write.text.toList).take limit).map (write.stream, ·), ?_, ?_, ?_⟩
  · rw [length_bytesTo, bytes_cons, bytes_nil, List.append_nil, load_map, if_pos rfl, filled]
    exact bound
  · exact (List.take_prefix _ _).map _
  · intro same
    have lengths := congrArg List.length same
    rw [List.length_map, filled, Write.bytes, List.length_map] at lengths
    exact Nat.ne_of_lt many lengths
  · simp

/-- Either all is delivered or the delivery is broken off. -/
private theorem complete_or_breaks (room : Room) (writes : List Write) :
    ((deliver room writes).complete = true ∧ (deliver room writes).bytes = rowOf writes) ∨
      (deliver room writes).complete = false ∧ ∃ before broken behind,
        writes = before ++ broken :: behind ∧
          (deliver room writes).BreaksAt room before broken := by
  induction writes generalizing room with
  | nil => exact .inl ⟨rfl, rfl⟩
  | cons write writes ih =>
    rcases fits_or_many room write with few | ⟨limit, bound, many⟩
    · rcases ih (room.behind write) with
        ⟨complete, whole⟩ | ⟨incomplete, before, broken, rest, same, breaks⟩
      · left
        rw [deliver_cons_of_fits few]
        exact ⟨complete, congrArg (write.bytes ++ ·) whole⟩
      · right
        refine ⟨?_, write :: before, broken, rest, by rw [same]; rfl, breaks.write few⟩
        rw [deliver_cons_of_fits few]
        exact incomplete
    · right
      refine ⟨?_, [], write, writes, rfl, breaksAt_of_many bound many writes⟩
      rw [deliver_cons_of_many bound many]

private theorem BreaksAt.bytes_ne {delivery : Delivery}
    (breaks : delivery.BreaksAt room before broken)
    (rest : List Write) : delivery.bytes ≠ rowOf (before ++ broken :: rest) := by
  obtain ⟨-, part, start, proper, row⟩ := breaks
  intro same
  rw [row, rowOf_append, rowOf_cons] at same
  have all : part = broken.bytes ++ rowOf rest := List.append_cancel_left same
  apply proper
  apply start.eq_of_length_le
  rw [all, List.length_append]
  exact Nat.le_add_right _ _

private theorem complete_iff (room : Room) (writes : List Write) :
    (deliver room writes).complete = true ↔ (deliver room writes).bytes = rowOf writes := by
  rcases complete_or_breaks room writes with
    ⟨complete, whole⟩ | ⟨incomplete, before, broken, rest, same, breaks⟩
  · exact iff_of_true complete whole
  · apply iff_of_false
    · rw [incomplete]
      exact Bool.false_ne_true
    · rw [same] at breaks ⊢
      exact breaks.bytes_ne rest

/-- What streams take does not depend on how the bytes are cut into writes. -/
private theorem deliver_congr (room : Room) {writes writes' : List Write}
    (same : rowOf writes = rowOf writes') :
    (deliver room writes).bytes = (deliver room writes').bytes ∧
      (deliver room writes).complete = (deliver room writes').complete := by
  have takes := takes_deliver room writes
  rw [same] at takes
  have bytes := takes.unique (takes_deliver room writes')
  refine ⟨bytes, ?_⟩
  rw [Bool.eq_iff_iff, complete_iff, complete_iff, bytes, same]

/-- Streams without a limit take everything. -/
private theorem bytes_deliver_unlimited (writes : List Write) :
    (deliver ⟨none, none⟩ writes).bytes = rowOf writes := by
  apply (takes_deliver ⟨none, none⟩ writes).eq_iff.mpr
  intro stream limit bound
  cases stream <;> cases bound

end Delivery

namespace Listing

/-- What a run of a source gives back: whether the scan had an error, and nothing where a stream
refused a write. -/
def outcome? (room : Room) (source : String) : Option Bool :=
  let (delivery, failed) := print room source
  if delivery.complete then some failed else none

private theorem outcome?_eq_some_iff (room : Room) (source : String) (failed : Bool) :
    outcome? room source = some failed ↔
      (print room source).1.bytes = rowOf (records (scan source)) ∧
        (failed = true ↔ errorsOf source ≠ []) := by
  have all := Delivery.complete_iff room (records (scan source))
  rw [outcome?, print, ← all, ← any_isError_iff, ← Bool.eq_iff_iff]
  dsimp only
  split
  · rename_i complete
    simp [complete, eq_comm]
  · rename_i incomplete
    simp [incomplete]

/-- A run that gives nothing back is broken off within the record of some result. -/
private theorem breaksAt_of_outcome? {room : Room} {source : String}
    (refused : outcome? room source = none) :
    ∃ before result behind, scan source = before ++ result :: behind ∧
      (print room source).1.BreaksAt room (records before) (record result) := by
  rcases Delivery.complete_or_breaks room (records (scan source)) with
    ⟨complete, -⟩ | ⟨-, front, broken, back, same, breaks⟩
  · have given : outcome? room source = some ((scan source).any Result.isError) := if_pos complete
    rw [given] at refused
    cases refused
  · obtain ⟨before, rest, results, rfl, later⟩ := List.map_eq_append_iff.mp same
    obtain ⟨result, behind, rfl, rfl, -⟩ := List.map_eq_cons_iff.mp later
    exact ⟨before, result, behind, results, breaks⟩

/-- Streams with limits take the longest beginning of a listing in which neither has more than its
limit, counted in bytes of both streams in the order in which they are written. It makes no
difference in which pieces they are written. A run tells whether the scan had an error just when
the streams take everything. Otherwise one stream is filled up within the record of some result,
and nothing of a later result reaches either stream. -/
theorem limited_streams_take_longest (room : Room) (source : String) :
    let whole := rowOf (records (scan source))
    let delivery := (print room source).1
    (print ⟨none, none⟩ source).1.bytes = whole ∧
      room.Takes whole delivery.bytes ∧
      (∀ stream, delivery.bytesTo stream =
        (delivery.bytes.filter (·.1 = stream)).map Prod.snd) ∧
      (∀ failed, outcome? room source = some failed ↔
        delivery.bytes = whole ∧ (failed = true ↔ errorsOf source ≠ [])) ∧
      (outcome? room source = none → ∃ before result behind,
        scan source = before ++ result :: behind ∧
          delivery.BreaksAt room (records before) (record result)) ∧
      (∀ pieces, rowOf pieces = whole →
        (Delivery.deliver room pieces).bytes = delivery.bytes ∧
          (Delivery.deliver room pieces).complete = delivery.complete) := by
  intro whole delivery
  refine ⟨Delivery.bytes_deliver_unlimited _, Delivery.takes_deliver room _, delivery.bytesTo_eq,
    outcome?_eq_some_iff room source, breaksAt_of_outcome?, ?_⟩
  intro pieces same
  exact Delivery.deliver_congr room same

/-- The limit of the standard output falls inside the character of a string. The error before the
string has been reported, and the one behind it is not, for all that the error output has room. It
is the same where a record comes word by word. -/
theorem limited_streams_take_longest_within_character :
    let source := "@ \"é\" $"
    let room : Room := ⟨some 9, none⟩
    let delivery := (print room source).1
    let error (character : Char) (offset : Nat) : LexicalError :=
      ⟨1, .unexpectedCharacter character offset⟩
    let whole := rowOf (records (scan source))
    let pieces : List Write := [⟨.err, (error '@' 0).text⟩, ⟨.err, "\n"⟩, ⟨.out, "STRING"⟩,
      ⟨.out, " "⟩, ⟨.out, "\"é\""⟩, ⟨.out, " "⟩, ⟨.out, "é"⟩, ⟨.out, "\n"⟩,
      ⟨.err, (error '$' 7).text⟩, ⟨.err, "\n"⟩]
    delivery.bytesTo .out = Utf8.encode "STRING \"".toList ++ [0xC3] ∧
      delivery.bytesTo .err = Utf8.encode ((error '@' 0).text ++ "\n").toList ∧
      outcome? room source = none ∧ room.Takes whole delivery.bytes ∧
      (∃ before result behind, scan source = before ++ result :: behind ∧
        delivery.BreaksAt room (records before) (record result)) ∧
      rowOf pieces = whole ∧ (Delivery.deliver room pieces).bytes = delivery.bytes := by
  intro source room delivery error whole pieces
  have refused : outcome? room source = none := by decide +kernel
  have same : rowOf pieces = whole := by decide +kernel
  obtain ⟨-, takes, -, -, breaks, congr⟩ := limited_streams_take_longest room source
  exact ⟨by decide +kernel, by decide +kernel, refused, takes, breaks refused, same,
    (congr pieces same).1⟩

end Listing

end Lox
