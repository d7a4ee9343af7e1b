import Signpost.Api.Router
import Signpost.Directory.World
import Signpost.Discovery.Fetch
import Signpost.Startup
import Signpost.Token.Issuer
import Std.Async.DNS
import Std.Async.System
import Std.Async.TCP
import Std.Sync.Mutex

/-!
# The program

Every request and every job is a call of one world, moved event by event; only the clock, the
network and the waiting happen here.
-/

namespace Signpost.Main

open Directory Std.Async

/-- The world and the number of those who wait for an answer of it. -/
structure Shared where
  world : World
  callers : Nat

structure Program where
  settings : Settings
  shared : Std.Mutex Shared
  issuer : Std.Mutex Token.Issuer

/-- The instant of a clock that never runs back. -/
def clock : IO Time.Instant :=
  return (Time.Instant.ofNs? (← IO.monoNanosNow)).getD .latest

/-! ### The network -/

def toBytes (bytes : List UInt8) : ByteArray :=
  ⟨bytes.toArray⟩

partial def receive (client : TCP.Socket.Client) (enough : ByteArray → Bool) (sofar : ByteArray) :
    IO ByteArray := do
  if enough sofar then return sofar
  match ← (client.recv? 65536).block with
  | none => return sofar
  | some more => receive client enough (sofar ++ more)

def addressOf (host : String) (port : UInt16) : IO Std.Net.SocketAddress := do
  let addrs ← (DNS.getAddrInfo host "").block
  match addrs.toList.head? with
  | some (.v4 addr) => return .v4 ⟨addr, port⟩
  | some (.v6 addr) => return .v6 ⟨addr, port⟩
  | none => throw (IO.userError "the host has no address")

def exchange (r : Http.Request) : IO Http.Exchange := do
  match Url.parse r.url with
  | .ok u =>
    let host := String.ofList ((u.host?.map Url.Host.render).getD [])
    let addr ← addressOf host (u.port?.getD 80)
    let client ← TCP.Socket.Client.mk
    (client.connect addr).block
    (client.send (toBytes (Http.Wire.renderRequest r u))).block
    return Http.Wire.readExchange (← receive client (fun _ => false) .empty).toList
  | .error f => return .failed f.message

/-- Polls a task until it ends or there is no time left. -/
partial def await (task : Task (Except IO.Error Http.Exchange)) (millis : Nat) :
    IO Http.Exchange := do
  if ← IO.hasFinished task then
    match task.get with
    | .ok exchange => return exchange
    | .error e => return .failed (toString e)
  else if millis = 0 then return .failed "operation timed out"
  else
    IO.sleep 5
    await task (millis - 5)

def Program.network (p : Program) : Http.Network IO where
  now := clock
  transmit r := do
    await (← IO.asTask (exchange r) .dedicated) (p.settings.directory.timeoutSeconds.toNat * 1000)

/-- Sleeps for whole seconds and then for the rest. -/
def pause (d : Time.Delay) : IO Unit := do
  let millis := d.slept.ceilMillis
  for _ in [0 : millis / 1000] do IO.sleep 1000
  IO.sleep (millis % 1000).toUInt32

def Program.surroundings (p : Program) : Discovery.Surroundings IO where
  pause := pause
  draw := IO.rand 0 4294967295
  token := p.issuer.atomically do
    let issuer ← get
    let (token, next) ← (issuer.obtain p.network : IO _)
    set next
    return token
  send := p.network.send

def Program.fetch (p : Program) : IO Listing.Report :=
  Discovery.fetchAll p.surroundings p.settings.directory.policy
    (Discovery.endpoint p.settings.directory.url)

/-! ### Calls -/

inductive Progress where
  | moved
  | waiting
  | fetching
  | ended (answer : Option Answer)

/-- One step of a call where it does not wait. -/
def progress (w : World) (i : Nat) (now : Time.Instant) : Progress × World :=
  if w.isFinished i then (.ended (w.answer? i), w)
  else
    match w.calls[i]?.map Call.stage with
    | some (.fetching _ _) => (.fetching, w)
    | _ =>
      match w.advance? i now with
      | some next => (.moved, next)
      | none => (.waiting, w)

partial def Program.finish (p : Program) (i : Nat) : IO (Option Answer) := do
  let now ← clock
  let outcome : Progress ← p.shared.atomically do
    let s ← get
    let (outcome, world) := progress s.world i now
    set { s with world }
    return outcome
  match outcome with
  | .moved => p.finish i
  | .waiting =>
    IO.sleep 1
    p.finish i
  | .fetching =>
    let report ← p.fetch
    let now ← clock
    p.shared.atomically do
      modify fun s => { s with world := (s.world.arrive? i now report).getD s.world }
    p.finish i
  | .ended answer => return answer

/-- Carries out a task. Calls are forgotten when nobody waits for one any more. -/
def Program.call (p : Program) (task : Task) : IO (Option Answer) := do
  let i ← p.shared.atomically do
    let s ← get
    set (Shared.mk (s.world.begin task) (s.callers + 1))
    return s.world.calls.length
  let answer ← p.finish i
  p.shared.atomically do
    modify fun s =>
      if s.callers = 1 then ⟨{ s.world with calls := [] }, 0⟩
      else { s with callers := s.callers - 1 }
  return answer

def Program.count (p : Program) (f : Tally → Tally) : IO Unit :=
  p.shared.atomically do
    modify fun s => { s with world := s.world.count f }

/-! ### Serving -/

def Program.backend (p : Program) : Api.Backend IO where
  cached := p.shared.atomically do return (← get).world.hub.shelf.cache.size
  tally := p.shared.atomically do return (← get).world.hub.shelf.tally
  resolve id := do
    match ← p.call (.resolve id) with
    | some (.url result) => return result
    | _ => return .error (.internal "the call has not ended")

def Program.converse (p : Program) (client : TCP.Socket.Client) : IO Unit := do
  let isWhole (bytes : ByteArray) := (Api.Request.ofBytes? bytes.toList).isSome
  let bytes ← receive client isWhole .empty
  if let some request := Api.Request.ofBytes? bytes.toList then
    let response ← request.serve p.backend
    (client.send (toBytes response.render)).block
  client.shutdown.block

partial def Program.accept (p : Program) (server : TCP.Socket.Server) : IO Unit := do
  let client ← server.accept.block
  let _ ← IO.asTask (p.converse client) .dedicated
  p.accept server

/-! ### Jobs -/

def Program.warmUp (p : Program) : IO Unit := do
  match ← p.call .refresh with
  | some (.refreshed (.ok _)) => p.count (·.countWarmup true)
  | _ => p.count (·.countWarmup false)

/-- Cleans up after every period; there is no rhythm without one. -/
partial def Program.cleanUp (p : Program) : IO Unit := do
  let period := p.settings.directory.cleanupSeconds
  unless period = 0 do
    pause (.ofSeconds period)
    let _ ← p.call .cleanup
    p.count Tally.countCleanup
    p.cleanUp

/-! ### Starting -/

def listen (server : Settings.Server) : IO TCP.Socket.Server := do
  let socket ← TCP.Socket.Server.mk
  socket.bind (← addressOf server.host server.port)
  socket.listen 1024
  return socket

def bindReason : IO.Error → String
  | .resourceBusy 98 _ => Startup.addressInUse
  | e => toString e

def run (settings : Settings) : IO (Except Failure Unit) := do
  let world := World.initial (.empty settings.directory.ttl) settings.directory.singleFlight
  let program : Program :=
    ⟨settings, ← Std.Mutex.new ⟨world, 0⟩,
      ← Std.Mutex.new (Token.Issuer.ofCredentials settings.credentials)⟩
  let _ ← IO.asTask program.warmUp .dedicated
  let _ ← IO.asTask program.cleanUp .dedicated
  match ← (listen settings.server).toBaseIO with
  | .error e => return .error (Startup.notBound settings.server (bindReason e))
  | .ok socket => return .ok (← program.accept socket)

def variableFile : IO String := do
  match ← (IO.FS.readFile ".env").toBaseIO with
  | .ok file => return file
  | .error _ => return ""

def main : IO UInt32 := do
  let environment ← System.getEnv
  let lookup := Settings.VariableFile.load environment.get? (← variableFile)
  let outcome ← match Startup.prepare lookup with
    | .error f => pure (.error f)
    | .ok settings => run settings
  match outcome with
  | .ok () => return 0
  | .error f =>
    (← IO.getStderr).putStr (Startup.lastWords f)
    return 1

end Signpost.Main

def main : IO UInt32 :=
  Signpost.Main.main
