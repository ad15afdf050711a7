import TokenSync.Agent.Dialogue
import TokenSync.Config.Settings
import TokenSync.Text.Numeral

/-!
# Requests and replies as octets

A request is written as a head of lines and its body, and asks for the connection to be closed
after the reply. A reply is read from all octets that came until then: its body is as long as its
head says, comes in chunks that each tell their size, or ends with the connection. A reply that
ends before its head says so is none.
-/
namespace TokenSync

/-! ## Requests -/

namespace Wire

/-- The line end of heads. -/
def lineEnd : String := "\r\n"

/-- Whether an octet of a path stands for itself: visible ASCII without quotes, angle brackets and
braces. -/
def isPlain (octet : UInt8) : Bool :=
  0x21 ≤ octet && octet ≤ 0x7e && !"\"<>`\x7b\x7d".toUTF8.data.contains octet

/-- An octet of a path as it is sent. -/
def escape (octet : UInt8) : List Char :=
  if isPlain octet then [Char.ofNat octet.toNat]
  else
    ['%', (Nat.digitChar (octet.toNat / 16)).toUpper, (Nat.digitChar (octet.toNat % 16)).toUpper]

/-- The target of a path: everything from a number sign on is not sent. -/
def target (path : String) : String :=
  let cs := ("/v1" ++ path).toList.takeWhile (· != '#')
  String.ofList ((String.ofList cs).toUTF8.toList.flatMap escape)

end Wire

namespace Request

/-- The lines of a request's head; the first one says what is asked for. -/
def head (connection : Connection) (request : Request) (length : Option Nat) : List String :=
  [request.method.name ++ " " ++ Wire.target request.path ++ " HTTP/1.1",
    "host: " ++ connection.host ++ ":" ++ toString connection.port,
    "accept: */*", "connection: close"] ++
  request.headers.map (fun (name, value) => name ++ ": " ++ value) ++
  match length with
  | some n => ["content-type: application/json", "content-length: " ++ toString n]
  | none => []

/-- The octets of a request. -/
def octets (connection : Connection) (request : Request) : ByteArray :=
  let body := (request.body.map fun value => value.text.toUTF8).getD ByteArray.empty
  let lines := request.head connection (request.body.map fun _ => body.size)
  (String.join (lines.map (· ++ Wire.lineEnd)) ++ Wire.lineEnd).toUTF8 ++ body

end Request

/-! ## Replies -/

namespace Wire

/-- The lines of a head, up to an empty one, and what follows them. The octets of the line that is
being read come last to first. -/
def head? (line : List Char) : List UInt8 → Option (List (List Char) × List UInt8)
  | 13 :: 10 :: rest =>
    if line.isEmpty then some ([], rest)
    else (head? [] rest).map fun (lines, body) => (line.reverse :: lines, body)
  | octet :: rest => head? (Char.ofNat octet.toNat :: line) rest
  | [] => none

/-- The status a head begins with. -/
def status? : List (List Char) → Option Nat
  | first :: _ =>
    match Text.splitAt ' ' first with
    | _ :: status :: _ => Text.natural? 10 status
    | _ => none
  | [] => none

/-- The value of a header, whose name is in lower case. -/
def header? (name : String) (lines : List (List Char)) : Option (List Char) :=
  lines.findSome? fun line =>
    if (line.takeWhile (· != ':')).map Char.toLower = name.toList then
      some (((line.dropWhile (· != ':')).drop 1).filter (· != ' '))
    else none

/-- The content of chunks; one of size zero is the last. -/
def joinChunks? (octets : List UInt8) : Option (List UInt8) :=
  match _h : octets.dropWhile (· != 13) with
  | _ :: _ :: rest =>
    let size := (octets.takeWhile fun octet => octet != 13 && octet != 59).map
      fun octet => Char.ofNat octet.toNat
    match Text.natural? 16 (size.filter (· != ' ')) with
    | none => none
    | some 0 => some []
    | some n =>
      if rest.length < n + 2 then none
      else (joinChunks? (rest.drop (n + 2))).map (rest.take n ++ ·)
  | _ => none
termination_by octets.length
decreasing_by
  have shorter := (@List.dropWhile_sublist _ octets (· != 13)).length_le
  rw [_h] at shorter
  simp only [List.length_drop, List.length_cons] at shorter ⊢
  omega

/-- The body that a head announces in the octets after it. -/
def body? (lines : List (List Char)) (octets : List UInt8) : Option (List UInt8) :=
  if header? "transfer-encoding" lines = some "chunked".toList then joinChunks? octets
  else
    match header? "content-length" lines with
    | none => some octets
    | some length => do
      let n ← Text.natural? 10 length
      if octets.length < n then none else some (octets.take n)

/-- The characters of octets; one that belongs to none is replaced. -/
def characters (octets : ByteArray) : Nat → List Char
  | 0 => []
  | left + 1 =>
    let start := octets.size - (left + 1)
    match octets.utf8DecodeChar? start with
    | some c => c :: characters octets (left + 1 - c.utf8Size)
    | none => '\ufffd' :: characters octets left
termination_by left => left
decreasing_by
  · have := c.utf8Size_pos
    omega
  · omega

/-- The text of octets. -/
def text (octets : ByteArray) : String :=
  match String.fromUTF8? octets with
  | some text => text
  | none => String.ofList (characters octets octets.size)

end Wire

/-- The reply that came as octets. -/
def Reply.ofOctets (octets : List UInt8) : Reply :=
  let reply := do
    let (lines, rest) ← Wire.head? [] octets
    let body ← Wire.body? lines rest
    some (Reply.answer (← Wire.status? lines) (Wire.text (ByteArray.mk body.toArray)))
  reply.getD (.unreachable "the answer ended too early")

end TokenSync
