import MarketFeed.Http.Charset
import MarketFeed.Http.Status
import MarketFeed.Text.Split
import MarketFeed.Text.Utf8

/-!
# Replies

What a server sends back: a status and a body, read from the bytes that arrive until the connection
closes. The length of the body is announced, or it comes in chunks, or it lasts to the end.
-/

namespace MarketFeed

/-- A status and a body. -/
structure Reply where
  status : Nat
  body : List UInt8
  deriving DecidableEq, Repr

namespace Reply

/-- What is wrong with a body in chunks. -/
inductive ChunkFault
  | cut
  | noSize
  | badSize
  | sizeOverflow
  | badBlank
  | newLineInExtension
  | badSizeEnd
  | badDataReturn
  | badDataEnd
  | badTrailerEnd
  | badLastEnd
  deriving DecidableEq, Repr

/-- The sentence that reports what is wrong with a body in chunks. -/
def ChunkFault.message : ChunkFault → String
  | .cut => "unexpected EOF during chunk size line"
  | .noSize => "Invalid chunk size line: missing size digit"
  | .badSize => "Invalid chunk size line: Invalid Size"
  | .sizeOverflow => "invalid chunk size: overflow"
  | .badBlank => "Invalid chunk size linear white space"
  | .newLineInExtension => "invalid chunk extension contains newline"
  | .badSizeEnd => "Invalid chunk size LF"
  | .badDataReturn => "Invalid chunk body CR"
  | .badDataEnd => "Invalid chunk body LF"
  | .badTrailerEnd => "Invalid trailer end LF"
  | .badLastEnd => "Invalid chunk end LF"

/-- Why bytes are no reply. -/
inductive Fault
  | closed
  | badVersion
  | badStatus
  | badHeader
  | tooManyHeaders
  | badLength
  | unexpectedEncoding
  | bodyCut
  | badChunk (fault : ChunkFault)
  deriving DecidableEq, Repr

def Fault.message : Fault → String
  | .closed => "connection closed before message completed"
  | .badVersion => "invalid HTTP version parsed"
  | .badStatus => "invalid HTTP status-code parsed"
  | .badHeader => "invalid HTTP header parsed"
  | .tooManyHeaders => "message head is too large"
  | .badLength => "invalid content-length parsed"
  | .unexpectedEncoding => "unexpected transfer-encoding parsed"
  | .bodyCut => "end of file before message length reached"
  | .badChunk fault => fault.message

/-- What a fault in the head means for the reply. -/
def Fault.ofHead : ReplyHead.Fault → Fault
  | .version => .badVersion
  | .status => .badStatus
  | .tooManyHeaders => .tooManyHeaders
  | .newLine | .headerName | .headerValue => .badHeader

def maxHeaders : Nat := 100

/-! ## Bodies -/

/-- Lengths and sizes of chunks have 64 bits. -/
def sizeBound : Nat := 18446744073709551616

/-- Where a reader of chunks stands. -/
inductive ChunkPoint
  | start
  | size
  | blanks
  | extension
  | sizeEnd
  | data
  | dataReturn
  | dataEnd
  | trailer
  | trailerEnd
  | lastReturn
  | lastEnd
  deriving DecidableEq, Repr

/-- The body in chunks. `size` is what has been read of the size of a chunk, or what is left of the
chunk. What follows the last chunk means nothing. -/
def readChunks : ChunkPoint → Nat → List UInt8 → Except Fault (List UInt8)
  | .data, _, [] => .error .bodyCut
  | _, _, [] => .error (.badChunk .cut)
  | .start, _, b :: rest =>
    match Hex.value? (Char.ofNat b.toNat) with
    | some d => readChunks .size d rest
    | none => .error (.badChunk .noSize)
  | .size, size, b :: rest =>
    match Hex.value? (Char.ofNat b.toNat) with
    | some d =>
      if size * 16 + d < sizeBound then readChunks .size (size * 16 + d) rest
      else .error (.badChunk .sizeOverflow)
    | none =>
      if b = 0x20 ∨ b = 0x09 then readChunks .blanks size rest
      else if b = 0x3B then readChunks .extension size rest
      else if b = 0x0D then readChunks .sizeEnd size rest
      else .error (.badChunk .badSize)
  | .blanks, size, b :: rest =>
    if b = 0x20 ∨ b = 0x09 then readChunks .blanks size rest
    else if b = 0x3B then readChunks .extension size rest
    else if b = 0x0D then readChunks .sizeEnd size rest
    else .error (.badChunk .badBlank)
  | .extension, size, b :: rest =>
    if b = 0x0D then readChunks .sizeEnd size rest
    else if b = 0x0A then .error (.badChunk .newLineInExtension)
    else readChunks .extension size rest
  | .sizeEnd, size, b :: rest =>
    if b ≠ 0x0A then .error (.badChunk .badSizeEnd)
    else readChunks (if size = 0 then .lastReturn else .data) size rest
  | .data, size, b :: rest =>
    (readChunks (if size ≤ 1 then .dataReturn else .data) (size - 1) rest).map (b :: ·)
  | .dataReturn, _, b :: rest =>
    if b = 0x0D then readChunks .dataEnd 0 rest else .error (.badChunk .badDataReturn)
  | .dataEnd, _, b :: rest =>
    if b = 0x0A then readChunks .start 0 rest else .error (.badChunk .badDataEnd)
  | .trailer, _, b :: rest => readChunks (if b = 0x0D then .trailerEnd else .trailer) 0 rest
  | .trailerEnd, _, b :: rest =>
    if b = 0x0A then readChunks .lastReturn 0 rest else .error (.badChunk .badTrailerEnd)
  | .lastReturn, _, b :: rest => readChunks (if b = 0x0D then .lastEnd else .trailer) 0 rest
  | .lastEnd, _, b :: _ => if b = 0x0A then .ok [] else .error (.badChunk .badLastEnd)

/-- Whether replies of a status have no body. -/
def isBodiless (status : Nat) : Bool := status / 100 == 1 || status == 204 || status == 304

def trim (cs : List Char) : List Char :=
  ((cs.dropWhile Char.isWhitespace).reverse.dropWhile Char.isWhitespace).reverse

/-- The parts of a value between commas, without blanks at their ends. -/
def valueParts (value : List UInt8) : List (List Char) :=
  (Split.parts ',' (value.map fun b => Char.ofNat b.toNat)).map trim

/-- The number of some digits, if it has 64 bits. -/
def length? (digits : List Char) : Option Nat :=
  if digits = [] ∨ !digits.all Char.isDigit then none
  else
    let n := digits.foldl (fun n c => n * 10 + (c.toNat - 48)) 0
    if n < sizeBound then some n else none

/-- The length that headers announce: one number, however often they give it. -/
def announced? (values : List (List UInt8)) : Option Nat :=
  match (values.flatMap valueParts).mapM length? with
  | some (n :: rest) => if rest.all (· == n) then some n else none
  | _ => none

/-- How far a body goes. -/
inductive Extent
  | nothing
  | chunks
  | length (n : Nat)
  /-- Until the connection closes. -/
  | toEnd
  deriving DecidableEq, Repr

def extent (h : ReplyHead) : Except Fault Extent :=
  if isBodiless h.status then .ok .nothing
  else
    match (h.values "transfer-encoding").getLast? with
    | some encoding =>
      if h.minor = 0 then .error .unexpectedEncoding
      else
        match (valueParts encoding).getLast? with
        | some last => .ok (if last.map Char.toLower = "chunked".toList then .chunks else .toEnd)
        | none => .ok .toEnd
    | none =>
      match h.values "content-length" with
      | [] => .ok .toEnd
      | lengths =>
        match announced? lengths with
        | none => .error .badLength
        | some n => .ok (.length n)

def Extent.read (bytes : List UInt8) : Extent → Except Fault (List UInt8)
  | .nothing => .ok []
  | .chunks => readChunks .start 0 bytes
  | .length n => if bytes.length < n then .error .bodyCut else .ok (bytes.take n)
  | .toEnd => .ok bytes

/-- The bytes of a reply whose body is announced to be `missing` bytes longer than it is. -/
def write (r : Reply) (missing : Nat) : List UInt8 :=
  Utf8.encode s!"HTTP/1.1 {r.status} Reply\r\ncontent-length: {r.body.length + missing}\r\n\r\n"
    ++ r.body

end Reply

/-! ## Text -/

/-- A reply with the charset that its head names. -/
structure Received extends Reply where
  charset : Charset
  deriving DecidableEq, Repr

/-- The body as text. A mark at its start names the charset, whatever the head says, and is dropped. -/
def Received.text (r : Received) : String :=
  match r.body with
  | 0xEF :: 0xBB :: 0xBF :: rest => Charset.utf8.decode rest
  | 0xFF :: 0xFE :: rest => Charset.utf16Little.decode rest
  | 0xFE :: 0xFF :: rest => Charset.utf16Big.decode rest
  | body => r.charset.decode body

/-! ## Reading -/

/-- A reply of which the head has been read. -/
structure OpenReply where
  head : ReplyHead
  extent : Reply.Extent
  /-- What has arrived behind the head. -/
  rest : List UInt8
  deriving DecidableEq, Repr

namespace OpenReply

/-- The reply that bytes begin. Replies that only announce another one are skipped, at most `fuel`
of them. -/
def readWith : Nat → List UInt8 → Except Reply.Fault OpenReply
  | 0, _ => .error .closed
  | fuel + 1, bytes =>
    match ReplyHead.read Reply.maxHeaders bytes with
    | .error fault => .error (.ofHead fault)
    | .ok none => .error .closed
    | .ok (some (head, rest)) =>
      if !Status.isValid head.status then .error .badStatus
      else if head.status / 100 = 1 ∧ head.status ≠ 101 then readWith fuel rest
      else (Reply.extent head).map fun extent => { head, extent, rest }

def read (bytes : List UInt8) : Except Reply.Fault OpenReply := readWith (bytes.length + 1) bytes

/-- The reply, read to its end. -/
def finish (r : OpenReply) : Except Reply.Fault Received :=
  (r.extent.read r.rest).map fun body => ⟨⟨r.head.status, body⟩, .ofHead r.head⟩

end OpenReply

end MarketFeed
