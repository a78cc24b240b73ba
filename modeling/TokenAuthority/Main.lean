/-
# The running server

Requests come in over TCP, one per connection, and are answered at the same time. They share one
`World`, on which each call acts at once. The journal goes to the standard error output, as far as
the filter in `RUST_LOG` shows it.

A signal ends the server: no more connections are taken, and the requests that have come in by then
are answered. All decisions are made by `Host.run` and `App.answer`; what is here moves bytes.
-/

import Std.Async.DNS
import Std.Async.Signal
import Std.Async.System
import Std.Async.TCP
import Std.Async.Timer
import TokenAuthority.Http.Wire
import TokenAuthority.LogFilter
import TokenAuthority.Server.Program

namespace TokenAuthority
namespace Program

open Http (Progress Request Response)
open Std.Async (Async)
open Std.Async.TCP.Socket (Client)

/-- What the requests to a running server share. -/
structure Shared where
  world : IO.Ref World
  /-- Which entries of the journal are shown. -/
  filter : LogFilter
  /-- Where connections come in. -/
  socket : Std.Async.TCP.Socket.Server
  /-- How many requests are being answered. -/
  pending : IO.Ref Nat

/-- Programs of a running server. -/
abbrev Serving := ReaderT Shared IO

/-- The time. -/
def clock : IO Time.Instant := do
  let now ← Std.Time.Timestamp.now
  return (Time.Instant.of? now.val.second.val now.val.nano.val.toNat).getD .epoch

instance : Backend Serving where
  perform
    | .now => clock
    | .record entry => do
      if (← read).filter.shows entry then IO.eprintln (entry.line (← clock))
    | .store collection call => do
      (← read).world.modifyGet fun w => w.perform (.store collection call)
  abandon := throw (IO.userError "abandoned")

/-- Whether there is a file at a path, and not something else. -/
def isRegular (path : String) : IO Bool := do
  try
    match (← (← IO.FS.realPath path).metadata).type with
    | .file => return true
    | _ => return false
  catch _ => return false

/-- Reads a file. -/
def readFile (path : String) : Serving (Except FileError String) := do
  try return .ok (← IO.FS.readFile path)
  catch
    | .noFileOrDirectory .. => return .error .missing
    | e =>
      let error := if ← isRegular path then FileError.unreadable else .irregular
      return .error (error (toString e))

/-- All that comes in until the other side ends. -/
partial def receiveAll (client : Client) (bytes : ByteArray := .empty) : Async ByteArray := do
  match ← client.recv? 65536 with
  | some more => receiveAll client (bytes ++ more)
  | none => return bytes

/-- The address of a host and a port. -/
def socketAddress (port : UInt16) : Std.Net.IPAddr → Std.Net.SocketAddress
  | .v4 addr => .v4 { addr, port }
  | .v6 addr => .v6 { addr, port }

/-- Posts a review and waits for the answer. -/
def exchange (url : Url) (review : Resource.TokenReview) : Async (Option Webhook.Reply) := do
  let port := (url.port <|> Url.defaultPort? url.scheme).getD 80
  let name := match url.host with
    | some (.ipv6 groups) => Url.Host.joinGroups groups
    | some host => host.render
    | none => ""
  let addresses ← Std.Async.DNS.getAddrInfo name ""
  match addresses[0]? with
  | none => return none
  | some address =>
    let client ← Client.mk
    client.connect (socketAddress port.toUInt16 address)
    client.send (Http.postBytes url review.toJson)
    return (Http.readReply? (← receiveAll client)).map fun (status, body) => { status, body }

/-- Reaches remote reviewers. Those that want a secure connection cannot be reached. -/
def post : Webhook.Transport Serving := fun url seconds review => do
  if url.scheme ≠ "http" then return none
  let late : Async (Option Webhook.Reply) := do
    Std.Async.sleep (Std.Time.Millisecond.Offset.ofNat (seconds * 1000))
    return none
  try (Async.race (exchange url review) late).block
  catch _ => return none

/-- The application with the time told that its reviews take. -/
def timed (app : App Serving) : App Serving :=
  { app with reviewer := { app.reviewer with
      authenticator := app.reviewer.authenticator.map fun authenticate credentials => do
        let start ← IO.monoMsNow
        let answer ← authenticate credentials
        return { answer with delay := answer.delay + ((← IO.monoMsNow) - start) } } }

/-- Reads a request. -/
partial def receive (client : Client) (bytes : ByteArray := .empty) :
    Async (Progress Request) := do
  match Request.read bytes with
  | .unfinished =>
    match ← client.recv? 65536 with
    | some more => receive client (bytes ++ more)
    | none => return .unfinished
  | progress => return progress

/-- Sends a response, the only one of a connection. -/
def send (client : Client) (response : Response) : Async Unit := do
  client.send response.bytes
  client.shutdown

/-- Answers a request. An abandoned one gets no answer, and its connection ends. -/
def answer (app : App Serving) (shared : Shared) (client : Client) (request : Request) :
    IO Unit := do
  shared.pending.modify (· + 1)
  try
    let response ← (app.answer request).run shared
    (send client response).block
  finally
    shared.pending.modify (· - 1)

/-- Answers the request of a connection. -/
def converse (app : App Serving) (shared : Shared) (client : Client) : Async Unit := do
  match ← receive client with
  | .done request => discard (IO.asTask (answer app shared client request) .dedicated)
  | .malformed => send client .badRequest
  | .unfinished => return

/-- Takes connections, one after the other. -/
partial def takeAll (app : App Serving) (shared : Shared) : Async Unit := do
  let client ← shared.socket.accept
  Std.Async.background (converse app shared client)
  takeAll app shared

/-- Starts to listen at a port. -/
def listen (port : UInt16) : Serving (Except String Unit) := do
  let socket := (← read).socket
  try
    socket.bind (.v4 { addr := .ofParts 0 0 0 0, port })
    socket.listen 1024
    return .ok ()
  catch e => return .error (toString e)

/-- Waits for a signal. -/
def await (kind : Std.Async.Signal) (signal : Signal) : Async Signal := do
  let waiter ← Std.Async.Signal.Waiter.mk kind false
  let _ ← Async.ofAsyncTask (← waiter.wait)
  return signal

/-- Waits until all requests are answered. -/
partial def awaitAnswers : Serving Unit := do
  if 0 < (← (← read).pending.get) then
    IO.sleep 10
    awaitAnswers

/-- Answers requests until a signal comes. -/
def serve (settings : Settings) (app : App Serving) : Serving Signal := do
  let shared ← read
  shared.world.set (World.ofSettings settings (← clock))
  discard (takeAll (timed app) shared).toIO
  let signal ← (Async.race (await .sigint .interrupt) (await .sigterm .terminate)).block
  awaitAnswers
  return signal

end Program
end TokenAuthority

open TokenAuthority Program in
/-- Runs the server. -/
def main : IO UInt32 := do
  let environment ← Std.Async.System.getEnv
  let clock ← clock
  let shared : Shared := {
    world := ← IO.mkRef { clock, accessTokens := { capacity := 0 }, users := { capacity := 0 } }
    filter := ((environment.get? "RUST_LOG").map LogFilter.ofText).getD .standard
    socket := ← Std.Async.TCP.Socket.Server.mk
    pending := ← IO.mkRef 0 }
  let host : Host Serving := {
    «variables» := environment.get?
    files := readFile
    post, listen, serve }
  return (← host.run.run shared).toUInt32
