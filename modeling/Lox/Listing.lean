import Lox.Scanner

namespace Lox

inductive Stream where
  | out
  | err
deriving DecidableEq, Repr

/-- A text on its way to a stream. -/
structure Write where
  stream : Stream
  text : String
deriving DecidableEq, Repr

/-- All that is written to one stream. -/
def textTo (stream : Stream) (writes : List Write) : String :=
  String.join ((writes.filter (·.stream = stream)).map Write.text)

namespace Listing

def record : Result → Write
  | .token token => ⟨.out, token.text ++ "\n"⟩
  | .error error => ⟨.err, error.text ++ "\n"⟩

/-- The records of a scan, in order. -/
def records (results : List Result) : List Write := results.map record

end Listing

/-- How many bytes each stream still accepts; `none` is no limit. -/
structure Room where
  out : Option Nat
  err : Option Nat
deriving DecidableEq, Repr

namespace Room

def of (room : Room) : Stream → Option Nat
  | .out => room.out
  | .err => room.err

def fill (room : Room) (bytes : Nat) : Stream → Room
  | .out => { room with out := room.out.map (· - bytes) }
  | .err => { room with err := room.err.map (· - bytes) }

end Room

/-- What has reached the streams: bytes with their stream, in order, and whether all writes were
accepted. -/
structure Delivery where
  accepted : List (Stream × List UInt8)
  complete : Bool
deriving DecidableEq, Repr

namespace Delivery

def bytesTo (delivery : Delivery) (stream : Stream) : List UInt8 :=
  (delivery.accepted.filter (·.1 = stream)).flatMap (·.2)

/-- The text that reached a stream. A limit may have cut its last character. -/
def textTo (delivery : Delivery) (stream : Stream) : String :=
  String.ofList (Utf8.decodeLossy (delivery.bytesTo stream))

/-- Deliver writes behind `accepted`, which is held in reverse. -/
def deliverOnto (accepted : List (Stream × List UInt8)) (room : Room) : List Write → Delivery
  | [] => ⟨accepted.reverse, true⟩
  | write :: writes =>
    let bytes := Utf8.encode write.text.toList
    let fitting := ((room.of write.stream).map bytes.take).getD bytes
    let accepted' := (write.stream, fitting) :: accepted
    if fitting.length < bytes.length then ⟨accepted'.reverse, false⟩
    else deliverOnto accepted' (room.fill bytes.length write.stream) writes

def deliver (room : Room) (writes : List Write) : Delivery := deliverOnto [] room writes

end Delivery

namespace Listing

/-- List a source on streams with limited room: what is delivered, and whether the scan had an
error. -/
def print (room : Room) (source : String) : Delivery × Bool :=
  let results := scan source
  (Delivery.deliver room (records results), results.any Result.isError)

end Listing

end Lox
