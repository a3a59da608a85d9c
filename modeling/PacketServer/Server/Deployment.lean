import PacketServer.Completion
import PacketServer.Server.Basic
import PacketServer.Server.Session
import PacketServer.Server.System
import PacketServer.Transport

/-!
# A server on a host

One way in which the calls on a server and the sessions of its clients can
go. The host answers when a start binds; after every call or race of calls
everybody makes steps until nobody can. An accept loop that can end goes
first, then a connection that can end because the workers are cancelled, then
the call that was made first. Everything is made of steps of the system, so a
deployment stays in a reachable state.

A start that is told success goes on until the server is stopped. Its answer
is collected then, together with those of the starts that lost a race to it.

## Main results

* `reachable_settle` — settling goes from a reachable state to a reachable
  state.
-/

namespace PacketServer.Server

/-- A server, the state of the calls on it, and its connections. -/
structure Deployment (σ ν : Type) where
  server : Server σ ν
  /-- The state that every connection's application begins with. -/
  user : σ
  /-- For how many milliseconds an event keeps its connection asleep. -/
  nap : Event ν → Option Nat
  system : System := .fresh
  /-- The pool of accepted connections. -/
  pool : BufferPool
  /-- The sessions of the accepted connections, in the order of their tasks. -/
  sessions : List (Session σ ν) := []
  /-- The calls of starts whose answers are still to be collected. -/
  uncollected : List Nat := []

/-- What came of one call. -/
structure Report where
  /-- What its listener was told. -/
  told : List (Except Fault Port)
  /-- How it ended, if it did. -/
  ending : Option Ending

/-- The answer of a call, if it has returned. -/
def Report.answer (r : Report) : Option (Except Fault Unit) :=
  match r.ending with
  | some (.answer result) => some result
  | _ => none

namespace Deployment

variable {σ ν : Type}

/-- A server on which nobody made a call. -/
def ofServer (server : Server σ ν) (user : σ) (nap : Event ν → Option Nat) :
    Deployment σ ν where
  server := server
  user := user
  nap := nap
  pool := .ofPolicy server.config.socketOptions.childBuffers

/-- The port that the server says it has. -/
def port (d : Deployment σ ν) : Port := d.system.port d.server.config

/-- Whether the server accepts connections. -/
def isRunning (d : Deployment σ ν) : Bool := d.system.phase == .started

/-- The pool, once it is published. -/
def pool? (d : Deployment σ ν) : Option BufferPool := d.system.pool.map fun _ => d.pool

/-- The server in a log. -/
def text (d : Deployment σ ν) : String := d.server.text d.system.phase d.system.localAddress

/-! ## Steps of the system -/

/-- Makes a step of the system, if it can be made. -/
def make (d : Deployment σ ν) (label : Label) : Deployment σ ν :=
  { d with system := (d.system.step d.server.config label).getD d.system }

/-- Makes steps of the system one after the other, those that can be made. -/
def makeAll (d : Deployment σ ν) (labels : List Label) : Deployment σ ν := labels.foldl make d

/-- The number of the groups that were built last. -/
def groupsNumber (d : Deployment σ ν) : Nat := d.system.groups.length - 1

/-- The groups that were built last. -/
def groups? (d : Deployment σ ν) : Option Groups := d.system.groups.getLast?

/-! ## Sessions -/

/-- Gives both buffers of a connection back. -/
def giveBack (d : Deployment σ ν) : Deployment σ ν :=
  let buffer := Buffer.ofCapacity d.pool.policy.bufferSize
  { d with pool := (d.pool.release buffer).release buffer }

/-- Puts the session of task `i` in the place of what it was before: the task
has made the calls of the handler since, and ended if the session did. -/
def put (d : Deployment σ ν) (i : Nat) (s : Session σ ν) : Deployment σ ν :=
  match d.sessions[i]? with
  | none => d
  | some before =>
    let g := d.groupsNumber
    let d := { d with sessions := d.sessions.set i s }
    let calls := List.replicate (s.callbacks - before.callbacks) (Label.task g i .callback)
    let d := d.makeAll calls
    if s.isClosed && !before.isClosed then (d.make (.task g i .finish)).giveBack else d

/-- Drops the sessions whose tasks were dropped. -/
def reap (d : Deployment σ ν) : Deployment σ ν :=
  let tasks := (d.groups?.map (·.tasks)).getD []
  (List.range d.sessions.length).foldl (fun d i =>
    match d.sessions[i]?, tasks[i]? with
    | some s, some task =>
      if task.status = .dropped && !s.isClosed then
        { d with sessions := d.sessions.set i s.drop }.giveBack
      else d
    | _, _ => d) d

/-- The first session that can end within the time that a stop waits, when the
workers are cancelled. -/
def endSession? (d : Deployment σ ν) : Option (Nat × Session σ ν) :=
  if d.groups?.any fun g => g.workersCancelled && g.workersUp then
    d.sessions.zipIdx.findSome? fun (s, i) =>
      let patience := d.server.config.grace / Text.millisecond
      let ended := s.cancel.waitFor d.nap d.pool.policy.bufferSize (fun _ => false) patience
      if !s.isClosed && ended.isClosed then some (i, ended) else none
  else none

/-! ## Going on until nobody can -/

/-- The step of an accept loop that sees that it shall end, if there is one. -/
def endLoop? (d : Deployment σ ν) : Option System :=
  if d.groups?.any (·.acceptCancelled) then
    d.system.step d.server.config (.loop d.groupsNumber .look)
  else none

/-- How the next step of a call is answered: a start asks for groups that can
be built, and the host when it binds. -/
def ask (d : Deployment σ ν) (t : Nat) (host : Host) : World × Host :=
  let config := d.server.config
  match (d.system.calls[t]?).map (·.point) with
  | some Point.build =>
    ({ crashes := !config.workerGroup.canBeBuilt, bind := .error .closed }, host)
  | some Point.bind =>
    match Transport.bind host config.bindAddress config.backend config.socketOptions with
    | (some result, host) => ({ bind := result.map (·.address) }, host)
    | (none, host) => ({ crashes := true, bind := .error .closed }, host)
  | _ => ({ bind := .error .closed }, host)

/-- The next step of the first call that can make one, if there is one. -/
def advance? (d : Deployment σ ν) (host : Host) : Option (System × Host) :=
  (List.range d.system.calls.length).findSome? fun t =>
    let (world, host) := d.ask t host
    (d.system.step d.server.config (.advance t world)).map fun system => (system, host)

/-- Something that somebody does, if somebody can do something. The listening
socket is closed when its loop ends. -/
def tick? (d : Deployment σ ν) (host : Host) : Option (Deployment σ ν × Host) :=
  match d.endLoop? with
  | some system =>
    let host := match d.system.localAddress with
      | some address => host.close address
      | none => host
    some ({ d with system := system }, host)
  | none =>
    match d.endSession? with
    | some (i, s) => some (d.put i s, host)
    | none => (d.advance? host).map fun (system, host) => ({ d with system := system }.reap, host)

/-- Goes on until nobody can do anything, at most `n` times. -/
def settleWithin : Nat → Deployment σ ν → Host → Deployment σ ν × Host
  | 0, d, host => (d, host)
  | n + 1, d, host =>
    match d.tick? host with
    | some (d, host) => settleWithin n d host
    | none => (d, host)

/-- More steps than a call can make without waiting for another one. -/
def stepsPerCall : Nat := 32

/-- Goes on until nobody can do anything. -/
def settle (d : Deployment σ ν) (host : Host) : Deployment σ ν × Host :=
  let n := stepsPerCall * (d.system.calls.length + d.system.groups.length) + d.sessions.length
  settleWithin n d host

/-- Whether the state of the calls can be reached. -/
def IsReachable (d : Deployment σ ν) : Prop := Reachable d.server.config d.system

theorem isReachable_make {d : Deployment σ ν} (h : d.IsReachable) (label : Label) :
    (d.make label).IsReachable := by
  unfold make IsReachable
  cases hs : d.system.step d.server.config label with
  | none => exact h
  | some system => exact .step label h hs

theorem isReachable_makeAll {d : Deployment σ ν} (h : d.IsReachable) (labels : List Label) :
    (d.makeAll labels).IsReachable := by
  induction labels generalizing d with
  | nil => exact h
  | cons label labels ih => exact ih (isReachable_make h label)

theorem isReachable_put {d : Deployment σ ν} (h : d.IsReachable) (i : Nat) (s : Session σ ν) :
    (d.put i s).IsReachable := by
  unfold put
  split
  · exact h
  · have hm := isReachable_makeAll (d := { d with sessions := d.sessions.set i s }) h
    dsimp only
    split
    · exact isReachable_make (hm _) _
    · exact hm _

theorem isReachable_reap {d : Deployment σ ν} (h : d.IsReachable) : d.reap.IsReachable := by
  unfold reap
  generalize List.range d.sessions.length = positions
  generalize (d.groups?.map (·.tasks)).getD [] = tasks
  induction positions generalizing d with
  | nil => exact h
  | cons i positions ih =>
    apply ih
    dsimp only
    split
    · split <;> exact h
    · exact h

theorem isReachable_tick? {d d' : Deployment σ ν} {host host' : Host} (h : d.IsReachable)
    (hd : d.tick? host = some (d', host')) : d'.IsReachable := by
  unfold tick? at hd
  split at hd
  · rename_i system he
    simp only [Option.some.injEq, Prod.mk.injEq] at hd
    unfold endLoop? at he
    split at he
    · rw [← hd.1]; exact .step _ h he
    · simp at he
  · split at hd
    · simp only [Option.some.injEq, Prod.mk.injEq] at hd
      rw [← hd.1]; exact isReachable_put h _ _
    · simp only [Option.map_eq_some_iff, Prod.mk.injEq] at hd
      obtain ⟨⟨system, host⟩, ha, hd, -⟩ := hd
      obtain ⟨t, -, ht⟩ := List.exists_of_findSome?_eq_some ha
      simp only [Option.map_eq_some_iff, Prod.mk.injEq] at ht
      obtain ⟨system', hs, rfl, -⟩ := ht
      rw [← hd]
      exact isReachable_reap (d := { d with system := system' }) (.step _ h hs)

/-- Settling only makes steps of the system. -/
theorem reachable_settle {d : Deployment σ ν} (h : d.IsReachable) (host : Host) :
    (d.settle host).1.IsReachable := by
  unfold settle
  generalize stepsPerCall * _ + _ = n
  induction n generalizing d host with
  | zero => exact h
  | succ n ih =>
    simp only [settleWithin]
    split
    · rename_i hd
      exact ih (isReachable_tick? h hd) _
    · exact h

/-! ## Calls -/

/-- What came of the call of a number. The listener of a call that broke off is
given up untold. -/
def report (d : Deployment σ ν) (t : Nat) : Report :=
  match d.system.calls[t]? with
  | none => ⟨[], none⟩
  | some call =>
    let given := call.told.isEmpty && call.listened && call.ending.isSome
    ⟨if given then [.error Completion.abandoned] else call.told, call.ending⟩

/-- Makes `n` calls of one kind at once and lets everybody go on: the numbers
of the calls, and the server after them. -/
def call (d : Deployment σ ν) (kind : Kind) (n : Nat) (listened : Bool) (host : Host) :
    List Nat × Deployment σ ν × Host :=
  let first := d.system.calls.length
  let d := d.makeAll (List.replicate n (.call kind listened))
  (List.range' first n, d.settle host)

/-- The answers of starts that are still to be collected. -/
def collect (d : Deployment σ ν) : List (Except Fault Unit) × Deployment σ ν :=
  (d.uncollected.filterMap fun t => (d.report t).answer, { d with uncollected := [] })

/-- Initializes the server. -/
def init (d : Deployment σ ν) (host : Host) : Option (Except Fault Unit) × Deployment σ ν × Host :=
  let (calls, d, host) := d.call .init 1 false host
  (calls.head?.bind fun t => (d.report t).answer, d, host)

/-- What came of starts: what was told, and how they ended unless one of the
starts goes on. -/
structure StartReport where
  told : List (Except Fault Port)
  endings : Option (List Ending)

/-- Makes `n` starts at once. -/
def start (d : Deployment σ ν) (n : Nat) (listened : Bool) (host : Host) :
    StartReport × Deployment σ ν × Host :=
  let (calls, d, host) := d.call .start n listened host
  let reports := calls.map d.report
  let told := reports.flatMap (·.told)
  if reports.all (·.ending.isSome) then
    (⟨told, some (reports.filterMap (·.ending))⟩, d, host)
  else (⟨told, none⟩, { d with uncollected := d.uncollected ++ calls }, host)

/-- What came of stops: what was told, their answers, and if one of them won
the answers of the starts that it ended. -/
structure StopReport where
  told : List (Except Fault Port)
  answers : List (Except Fault Unit)
  runs : Option (List (Except Fault Unit))

/-- Makes `n` stops at once. -/
def stop (d : Deployment σ ν) (n : Nat) (listened : Bool) (host : Host) :
    StopReport × Deployment σ ν × Host :=
  let (calls, d, host) := d.call .stop n listened host
  let reports := calls.map d.report
  let told := reports.flatMap (·.told)
  let answers := reports.filterMap (·.answer)
  if answers.any (·.toBool) then
    let (runs, d) := d.collect
    (⟨told, answers, some runs⟩, d, host)
  else (⟨told, answers, none⟩, d, host)

/-! ## Clients -/

/-- The accept loop takes a connection from `remote` and hands it to the
workers. -/
def welcome (d : Deployment σ ν) (client : Nat) (remote localAddress : Address) :
    Deployment σ ν :=
  let g := d.groupsNumber
  let d := d.makeAll [.loop g .look, .loop g (.accept remote), .loop g .check, .loop g .dispatch]
  let id := UInt64.ofNat ((d.groups?.map (·.lastId)).getD 0)
  let context : Context := { id := id, remote := remote, localAddress := localAddress }
  let (_, pool) := d.pool.acquire
  let (_, pool) := pool.acquire
  let session := Session.accept client (.ofSpec d.server.spec context d.user {} false)
  { d with pool := pool, sessions := d.sessions ++ [session] }

/-- A client connects, if the server was ever bound. -/
def connect (d : Deployment σ ν) (client : Nat) (host : Host) :
    Option (Except OsError (Deployment σ ν)) × Host :=
  match d.system.localAddress with
  | none => (none, host)
  | some address =>
    match host.connect (.ofIp .loopback4 address.port) with
    | (.error e, host) => (some (.error e), host)
    | (.ok remote, host) => (some (.ok (d.welcome client remote address)), host)

/-- The session of a client that connected, and the position of its task. -/
def session? (d : Deployment σ ν) (client : Nat) : Option (Session σ ν × Nat) :=
  d.sessions.zipIdx.reverse.find? fun entry => entry.1.client == client

/-- How many milliseconds a client waits. -/
def patience : Nat := 3000

/-- A client that connected does something, waits until so many of the new
events are `shown` and what it wants to read is there, and reads it. -/
def exchange (d : Deployment σ ν) (client : Nat) (act : Session σ ν → Session σ ν)
    (shown : Event ν → Bool) (events : Nat) (want : Session.Want) :
    Option (Bytes × Session.ReadEnd × Deployment σ ν) := do
  let (s, i) ← d.session? client
  let wanted (s : Session σ ν) : Bool := events ≤ s.news.countP shown && s.canRead want
  let s := (act s).waitFor d.nap d.pool.policy.bufferSize wanted patience
  let (bytes, how, s) := s.read want
  return (bytes, how, d.put i s)

/-- The events that were not reported before, with the number of their
connection. -/
def news (d : Deployment σ ν) : List (UInt64 × List (Event ν)) :=
  d.sessions.map fun s => (s.connection.live.context.id, s.news)

/-- All that has happened is reported. -/
def reported (d : Deployment σ ν) : Deployment σ ν :=
  { d with sessions := d.sessions.map (·.report) }

end Deployment

end PacketServer.Server
