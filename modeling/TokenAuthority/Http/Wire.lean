/-
# Messages as bytes

A message is a line, header fields each on a line of its own, an empty line and a body. How long the
body is, the fields tell:

| field | body |
| --- | --- |
| `Transfer-Encoding: chunked` | chunks, each behind its size, up to an empty one |
| `Content-Length` | so many bytes |
| neither | nothing in a request, all that is left in a response |

Messages are read from what has come in so far, which may be less than all of one.
-/

import TokenAuthority.Digest.Base64Url
import TokenAuthority.Http.Message
import TokenAuthority.Http.StatusLine
import TokenAuthority.Http.Target
import TokenAuthority.Text.Digits
import TokenAuthority.Url.Basic

namespace TokenAuthority
namespace Http

/-- What comes of reading a message that may not be there in full. -/
inductive Progress (α : Type) where
  | done (message : α)
  | unfinished
  | malformed

namespace Progress

/-- Goes on with a message. -/
def bind {α β : Type} : Progress α → (α → Progress β) → Progress β
  | done a, f => f a
  | unfinished, _ => unfinished
  | malformed, _ => malformed

instance : Monad Progress where
  pure := done
  bind := bind

/-- A message that is there, or none that ever will be. -/
def ofOption {α : Type} : Option α → Progress α
  | some a => done a
  | none => malformed

end Progress

/-- The first line of a message and its fields. -/
structure Head where
  start : String
  headers : List Header

namespace Head

/-- How many bytes a head may have. -/
def limit : Nat := 65536

/-- Whether an empty line starts behind a line that ends at a position. -/
def endsAt (bytes : ByteArray) (i : Nat) : Bool :=
  bytes[i]? = some 13 && bytes[i + 1]? = some 10 && bytes[i + 2]? = some 13 &&
    bytes[i + 3]? = some 10

/-- The characters that stand for bytes. -/
def chars (bytes : ByteArray) : List Char :=
  bytes.toList.map fun b => Char.ofNat b.toNat

/-- A field. -/
def field? (line : List Char) : Option Header :=
  let name := String.ofList (line.takeWhile (· ≠ ':'))
  match line.dropWhile (· ≠ ':') with
  | ':' :: value =>
    let value := (Text.strip (fun c => c = ' ' || c = '\t') value).map fun c => c.toNat.toUInt8
    if isToken name && value.all isValueByte then some ⟨name, value⟩ else none
  | _ => none

/-- The head of some lines. -/
def ofLines? (text : List Char) : Option Head :=
  match (Text.fields '\n' text).map fun line => line.filter (· ≠ '\r') with
  | start :: lines => do
    return { start := String.ofList start, headers := ← (lines.filter (· ≠ [])).mapM field? }
  | [] => none

/-- The head of a message, and what follows it. -/
def read (bytes : ByteArray) : Progress (Head × ByteArray) :=
  match (List.range (min bytes.size limit)).find? (endsAt bytes) with
  | some i => do
    let head ← Progress.ofOption (ofLines? (chars (bytes.extract 0 i)))
    return (head, bytes.extract (i + 4) bytes.size)
  | none => if limit ≤ bytes.size then .malformed else .unfinished

/-- The text of a field. -/
def text? (h : Head) (name : String) : Option String :=
  (Header.first? h.headers name).bind fun f => (printable? f.value).map String.ofList

/-- Whether the body comes in chunks. -/
def isChunked (h : Head) : Bool :=
  (h.text? "transfer-encoding").any fun t => Text.toLower t = "chunked"

/-- The length of the body, if it is told. -/
def length? (h : Head) : Option (Option Nat) :=
  match h.text? "content-length" with
  | none => some none
  | some t => if t ≠ "" && t.toList.all Char.isDigit then
      (Text.number? 10 t.toList).map some else none

end Head

/-- The size of a chunk, and what follows it. -/
def chunkSize (bytes : List UInt8) : Progress (Nat × List UInt8) :=
  let line := bytes.takeWhile (· ≠ 10)
  match bytes.drop line.length with
  | [] => .unfinished
  | _ :: rest =>
    let digits := (line.map fun b => Char.ofNat b.toNat).takeWhile fun c =>
      (Text.digitValue? c).isSome
    if digits = [] then .malformed
    else do return (← Progress.ofOption (Text.number? 16 digits), rest)

/-- What chunks hold. -/
def chunks : (fuel : Nat) → List UInt8 → Progress (List UInt8)
  | 0, _ => .malformed
  | fuel + 1, bytes => do
    let (size, rest) ← chunkSize bytes
    if size = 0 then return []
    else if rest.length < size + 2 then .unfinished
    else return rest.take size ++ (← chunks fuel (rest.drop (size + 2)))

/-- A body; without a length it is the one given. -/
def Head.body (h : Head) (bytes otherwise : ByteArray) : Progress ByteArray :=
  if h.isChunked then do
    return ⟨(← chunks (bytes.size + 1) bytes.toList).toArray⟩
  else match h.length? with
    | none => .malformed
    | some none => .done otherwise
    | some (some n) => if bytes.size < n then .unfinished else .done (bytes.extract 0 n)

/-- A request. -/
def Request.read (bytes : ByteArray) : Progress Request := do
  let (head, rest) ← Head.read bytes
  match Text.fields ' ' head.start.toList with
  | [method, target, _] =>
    let method := String.ofList method
    if !isToken method then .malformed
    else
      let path ← Progress.ofOption (Target.path? (String.ofList target))
      return { method, path, headers := head.headers, body := ← head.body rest .empty }
  | _ => .malformed

namespace Response

/-- The lines in front of the body. -/
def head (r : Response) : String :=
  let text := (r.content.map Content.text).getD ""
  let lines := ["HTTP/1.1 " ++ statusText r.status] ++
    (r.content.map fun c => "content-type: " ++ c.mediaType).toList ++
    (if r.allow = [] then [] else ["allow: " ++ ",".intercalate r.allow]) ++
    ["content-length: " ++ toString text.utf8ByteSize, "connection: close"]
  "\r\n".intercalate lines ++ "\r\n\r\n"

/-- A response in bytes. -/
def bytes (r : Response) : ByteArray :=
  (r.head ++ r.body).toUTF8

/-- The answer to what is no request. -/
def badRequest : Response :=
  { status := 400 }

end Response

/-- The characters of Base64 with padding, which differ from those for URLs in two places. -/
def padded (text : List Char) : List Char :=
  text.map (fun c => if c = '-' then '+' else if c = '_' then '/' else c) ++
    List.replicate ((4 - text.length % 4) % 4) '='

/-- The field that tells a user and a password, if there are any. -/
def credentialLine? (url : Url) : Option String :=
  if url.username = "" && url.password = "" then none
  else
    let plain (text : String) := Percent.decode text.toUTF8.toList
    some ("authorization: Basic " ++ String.ofList (padded (Digest.Base64Url.encode
      (plain url.username ++ [0x3a] ++ plain url.password))))

/-- A request in bytes that posts JSON to a URL. -/
def postBytes (url : Url) (value : Json.Value) : ByteArray :=
  let text := value.render
  let host := ((url.host.map Url.Host.render).getD "") ++
    ((url.port.map fun n => ":" ++ toString n).getD "")
  let lines := ["POST " ++ url.path ++ ((url.query.map ("?" ++ ·)).getD "") ++ " HTTP/1.1",
    "host: " ++ host, "accept: */*", "content-type: application/json",
    "content-length: " ++ toString text.utf8ByteSize, "connection: close"]
  ("\r\n".intercalate (lines ++ (credentialLine? url).toList) ++ "\r\n\r\n" ++ text).toUTF8

/-- The status and the body of a response that is there in full. -/
def readReply? (bytes : ByteArray) : Option (Nat × ByteArray) :=
  match Head.read bytes with
  | .done (head, rest) =>
    match Text.fields ' ' head.start.toList, head.body rest rest with
    | _ :: code :: _, .done body => (Text.number? 10 code).map (·, body)
    | _, _ => none
  | _ => none

end Http
end TokenAuthority
