import SmokeProbe.Http.Head
import SmokeProbe.Text.Blank
import SmokeProbe.Text.Numeral
import SmokeProbe.Text.Pieces

/-!
# Response bodies

Where a body ends is said by its head: after a number of bytes, after the last of its chunks, or
where the connection is closed. A body that ends earlier is an error, never a shorter body.

Chunk extensions and trailers may be of any length here. Not covered are the client's limits of 16
kilobytes on all extensions of a body and on its trailer.
-/
namespace SmokeProbe.Http

/-- How the end of a body is found. -/
inductive Framing where
  | empty
  | length (n : Nat)
  | chunked
  | untilClose
deriving DecidableEq, Repr

namespace Framing

/-- The final statuses whose responses never have a body. -/
def isBodiless (status : Nat) : Bool := status == 101 || status == 204 || status == 304

/-- The text of a value that consists of visible characters and tabs. -/
def visible? (v : List UInt8) : Option (List Char) :=
  if v.all fun b => b == 9 || (32 ≤ b.toNat && b.toNat < 127) then
    some (v.map fun b => Char.ofNat b.toNat)
  else none

/-- Largest length that can be told from a body without end. -/
def maxLength : Nat := UInt64.size - 3

/-- The lengths that a value names, between commas. -/
def lengthsOf? (v : List UInt8) : Option (List Nat) :=
  (visible? v).bind fun s =>
    (Text.pieces (· == ',') s).mapM fun part =>
      (Text.decimal? (Text.stripBoth Text.isBlank part)).bind fun n =>
        if n < UInt64.size then some n else none

/-- The one length that all values name. -/
def lengthOf? (vs : List (List UInt8)) : Option Nat :=
  (vs.mapM lengthsOf?).bind fun ns =>
    match ns.flatten with
    | [] => none
    | n :: more => if more.all (· == n) then some n else none

/-- Whether the last encoding of the last value is the chunked one. -/
def endsChunked (vs : List (List UInt8)) : Bool :=
  match vs.getLast?.bind visible? with
  | none => false
  | some s =>
    let last := (Text.cutLast? (· == ',') s).elim s Prod.snd
    (Text.stripBoth Text.isBlank last).map Char.toLower == "chunked".toList

/-- How the body behind a head ends. Chunks count more than a length. -/
def ofHead (h : Head) : Except HeadFault Framing :=
  let encodings := Head.valuesOf h.headers "transfer-encoding"
  let lengths := Head.valuesOf h.headers "content-length"
  if isBodiless h.status then .ok .empty
  else if !encodings.isEmpty then
    if !h.modern then .error .unexpectedEncoding
    else .ok (if endsChunked encodings then .chunked else .untilClose)
  else if lengths.isEmpty then .ok .untilClose
  else match lengthOf? lengths with
    | none => .error .badLength
    | some n => if n ≤ maxLength then .ok (.length n) else .error .tooLarge

end Framing

/-- Where the reader of a chunked body stands. -/
inductive ChunkState where
  | start
  | size (n : Nat)
  | sizeBlank (n : Nat)
  | extension (n : Nat)
  | sizeEnd (n : Nat)
  | data (left : Nat)
  | dataReturn
  | dataLineFeed
  | trailer
  | trailerLineFeed
  | lastReturn
  | lastLineFeed
  | done
deriving DecidableEq, Repr

namespace ChunkState

def maxSize : Nat := UInt64.size - 1

/-- A further digit of a chunk's size; any other byte is the fault. -/
def digit (fault : BodyFault) (n : Nat) (b : UInt8) : Except BodyFault ChunkState :=
  match Text.hexDigit? (Char.ofNat b.toNat) with
  | none => .error fault
  | some d => if n * 16 + d ≤ maxSize then .ok (.size (n * 16 + d)) else .error .sizeOverflow

/-- What may follow the digits of a size. -/
def afterSize (n : Nat) (b : UInt8) : Option ChunkState :=
  if Head.isBlank b then some (.sizeBlank n)
  else if b = 59 then some (.extension n)
  else if b = Head.carriageReturn then some (.sizeEnd n)
  else none

/-- Reads one byte; in the data of a chunk it belongs to the body. -/
def next (st : ChunkState) (b : UInt8) : Except BodyFault ChunkState :=
  match st with
  | .start => digit .noSizeDigit 0 b
  | .size n =>
    match afterSize n b with
    | some st => .ok st
    | none => digit .badSize n b
  | .sizeBlank n => ((afterSize n b).map Except.ok).getD (.error .badSizeBlank)
  | .extension n =>
    if b = Head.carriageReturn then .ok (.sizeEnd n)
    else if b = Head.lineFeed then .error .lineFeedInExtension
    else .ok (.extension n)
  | .sizeEnd n =>
    if b = Head.lineFeed then .ok (if n = 0 then .lastReturn else .data n) else .error .badSizeEnd
  | .data left => .ok (if left ≤ 1 then .dataReturn else .data (left - 1))
  | .dataReturn => if b = Head.carriageReturn then .ok .dataLineFeed else .error .badChunkReturn
  | .dataLineFeed => if b = Head.lineFeed then .ok .start else .error .badChunkLineFeed
  | .trailer => .ok (if b = Head.carriageReturn then .trailerLineFeed else .trailer)
  | .trailerLineFeed =>
    if b = Head.lineFeed then .ok .lastReturn else .error .badTrailerLineFeed
  | .lastReturn => .ok (if b = Head.carriageReturn then .lastLineFeed else .trailer)
  | .lastLineFeed => if b = Head.lineFeed then .ok .done else .error .badEndLineFeed
  | .done => .ok .done

/-- The bytes that a byte adds to the body. -/
def yield (st : ChunkState) (b : UInt8) : List UInt8 :=
  match st with
  | .data _ => [b]
  | _ => []

/-- The body that the rest of the bytes holds. -/
def readFrom : ChunkState → List UInt8 → Except BodyFault (List UInt8)
  | .done, _ => .ok []
  | .data _, [] => .error .short
  | _, [] => .error .endInChunk
  | st, b :: s => do
    let more ← readFrom (← st.next b) s
    pure (st.yield b ++ more)

/-- Whether all chunks have been read. -/
def isBehindChunks : ChunkState → Bool
  | .trailer | .trailerLineFeed | .lastReturn | .lastLineFeed => true
  | _ => false

/-- The bytes between the last chunk and the end of the body. -/
def trailerFrom : ChunkState → List UInt8 → List UInt8
  | .done, _ => []
  | _, [] => []
  | st, b :: s =>
    match st.next b with
    | .ok next => (if st.isBehindChunks then [b] else []) ++ trailerFrom next s
    | .error _ => []

/-- A trailer is headers, as many as it has lines before the empty one. -/
def checkTrailer (t : List UInt8) : Except BodyFault Unit :=
  match Head.headerLines (t.count Head.carriageReturn - 1) t with
  | .ok _ => .ok ()
  | .error fault => .error (.badTrailer fault)

/-- A chunked body. What follows its last chunk is read and dropped. -/
def read (s : List UInt8) : Except BodyFault (List UInt8) := do
  let body ← readFrom .start s
  checkTrailer (trailerFrom .start s)
  pure body

end ChunkState

/-- The body in the bytes behind a head. -/
def Framing.read : Framing → List UInt8 → Except BodyFault (List UInt8)
  | .empty, _ => .ok []
  | .length n, s => if n ≤ s.length then .ok (s.take n) else .error .short
  | .chunked, s => ChunkState.read s
  | .untilClose, s => .ok s

end SmokeProbe.Http
