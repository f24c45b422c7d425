import Invocation.Utf8.Decoder

/-!
# Capturing output

Output arrives in reads of at most 4096 bytes. Each read is decoded as far as its bytes are certain
and handed on if it gives any text; a character that is cut by the end of a read comes with the next
one. At the end of the stream an unfinished character is handed on as a replacement character.
-/

namespace Invocation.Capture

/-- The most bytes in one read. -/
def maxRead : Nat := 4096

/-- A chunk of bytes in pieces of at most `size`; `fuel` bounds their number. -/
def piecesWithin (size : Nat) : Nat → List UInt8 → List (List UInt8)
  | 0, _ => []
  | _, [] => []
  | fuel + 1, bytes => bytes.take size :: piecesWithin size fuel (bytes.drop size)

/-- The reads that a chunk is delivered in. -/
def readsOf (chunk : List UInt8) : List (List UInt8) :=
  piecesWithin maxRead chunk.length chunk

/-- A text as a list with no empty text. -/
def nonEmpty (text : List Char) : List String :=
  match text with
  | [] => []
  | text => [String.ofList text]

/-- The texts handed on from a decoder for some reads, and where it stands then. -/
def handed : Utf8.Decoder → List (List UInt8) → Utf8.Decoder × List String
  | d, [] => (d, [])
  | d, read :: rest =>
    let (d, text) := d.feed read
    let (d, more) := handed d rest
    (d, nonEmpty text ++ more)

/-- The texts handed on for a stream of reads up to its end. -/
def texts (reads : List (List UInt8)) : List String :=
  let (d, given) := handed .ready reads
  given ++ nonEmpty d.finish

end Invocation.Capture
