import PacketServer.Pipeline.Spec

/-!
# Scripted applications

A small language for handlers, stages, decoders and encoders, in which the
behaviour of an application can be written down as data. Handlers and stages
have rules: on a packet the first rule whose condition holds is carried out.

A scripted application counts in its state: one counter for the handler and
one for each inserted part. It also knows the name of the thread that it runs
on and how many buffers are out, and it leaves notes of what it sees.
-/

namespace PacketServer.Script

/-- What a scripted callback notes down. -/
inductive Note
  /-- How many packets wait, and whether somebody asked to close. -/
  | pending (n : Nat) (closing : Bool)
  /-- How many buffers are out. -/
  | pool (outstanding : Nat)
  /-- The name of the thread. -/
  | thread (name : String)
  /-- The addresses of the two sides. -/
  | remote (ip localIp : Ip)
  /-- The callback slept for so many milliseconds. -/
  | slept (ms : Nat)
deriving DecidableEq

/-- For how many milliseconds an event keeps its connection asleep. -/
def nap : Event Note → Option Nat
  | .note (.slept ms) => some ms
  | _ => none

/-- The state of a scripted application. -/
structure State where
  /-- The handler's counter. -/
  count : Nat := 0
  /-- The counters of the inserted parts, by position. -/
  stageCounts : List Nat := []
  threadName : String := "main"
  outstanding : Nat := 0
deriving DecidableEq

/-- One more on the counter of the part at a position. -/
def State.bump (s : State) (i : Nat) : State :=
  let counts := s.stageCounts ++ List.replicate (i + 1 - s.stageCounts.length) 0
  { s with stageCounts := counts.set i (counts.getD i 0 + 1) }

/-- The counter of the part at a position. -/
def State.countOf (s : State) (i : Nat) : Nat := s.stageCounts.getD i 0

/-- What a packet must be for a rule to be carried out: all that is given must
hold. -/
structure Condition where
  cmd : Option UInt8 := none
  heartbeat : Option Bool := none
  /-- A flag that the packet must carry. -/
  flag : Option UInt8 := none
  /-- The least length of the body. -/
  minLength : Option Nat := none
deriving DecidableEq

/-- Whether a condition holds of a packet. -/
def Condition.holds (c : Condition) (p : Packet) : Bool :=
  c.cmd.all (· == p.cmd) && c.heartbeat.all (· == p.isHeartbeat) &&
  c.flag.all p.hasFlag && c.minLength.all (· ≤ p.body.length)

/-- A rule: what to do with a packet of some kind. -/
structure Rule (A : Type) where
  condition : Condition := {}
  actions : List A

/-- The actions of the first rule that applies, if one does. -/
def actionsFor {A : Type} (rules : List (Rule A)) (p : Packet) : List A :=
  ((rules.find? fun rule => rule.condition.holds p).map (·.actions)).getD []

/-! ## Handlers -/

/-- What a scripted handler does. -/
inductive HandlerAction
  /-- Queues the packet that it was given. -/
  | echo
  | write (p : Packet)
  /-- Counts, and queues the count as four bytes. -/
  | count
  | close
  /-- Fails at once. -/
  | fail (e : Fault)
  | notePending
  /-- Cancels the server's work. -/
  | cancel
  | notePool
  | noteThread
  | noteRemote
  | sleep (ms : Nat)
deriving DecidableEq

/-- A scripted handler. -/
structure HandlerScript where
  onActive : List HandlerAction := []
  onMessage : List (Rule HandlerAction) := []
  onInactive : List HandlerAction := []

/-- Carries actions out, on the packet `given` if there is one; `done` is the
reaction so far. -/
def perform (context : Context) (given : Option Packet) :
    List HandlerAction → Reaction State Note (Except Fault Unit) →
      Reaction State Note (Except Fault Unit)
  | [], done => done
  | action :: actions, done =>
    match action with
    | .echo => perform context given actions { done with writes := done.writes ++ given.toList }
    | .write p => perform context given actions { done with writes := done.writes ++ [p] }
    | .count =>
      let count := done.state.count + 1
      perform context given actions
        { done with
          state := { done.state with count := count }
          writes := done.writes ++ [{ body := Bytes.word count }] }
    | .close => perform context given actions { done with closes := true }
    | .fail e => { done with value := .error e }
    | .notePending =>
      let now := context.update done.writes done.closes
      perform context given actions
        { done with notes := done.notes ++ [.pending now.pendingWrites now.closing] }
    | .cancel => perform context given actions { done with cancels := true }
    | .notePool =>
      perform context given actions
        { done with notes := done.notes ++ [.pool done.state.outstanding] }
    | .noteThread =>
      perform context given actions
        { done with notes := done.notes ++ [.thread done.state.threadName] }
    | .noteRemote =>
      perform context given actions
        { done with notes := done.notes ++ [.remote context.remote.ip context.localAddress.ip] }
    | .sleep ms => perform context given actions { done with notes := done.notes ++ [.slept ms] }

/-- The reaction of a callback that has done nothing yet. -/
def idle (s : State) : Reaction State Note (Except Fault Unit) :=
  { value := .ok (), state := s }

/-- A scripted handler as a handler. -/
def HandlerScript.handler (script : HandlerScript) : Handler State Note where
  onActive context s := perform context none script.onActive (idle s)
  onMessage context s p := perform context (some p) (actionsFor script.onMessage p) (idle s)
  onInactive context s :=
    let reaction := perform context none script.onInactive (idle s)
    { reaction with value := () }

/-! ## Stages -/

/-- What a scripted stage does. -/
inductive StageAction
  /-- Keeps the packet, at once. -/
  | drop
  | close
  /-- Puts a heartbeat in the packet's place. -/
  | heartbeat
  /-- Queues the packet as it is now. -/
  | echo
  | write (p : Packet)
  /-- Counts, and makes the count the session. -/
  | count
  | setFlags (flags : UInt8)
  | setSession (session : UInt32)
  | setCmd (cmd : UInt8)
  | setBody (body : Bytes)
deriving DecidableEq

/-- Carries out the actions of the stage at position `i` on a packet; `done`
is the reaction so far. -/
def transform (i : Nat) :
    List StageAction → Packet → Reaction State Note Unit →
      Reaction State Note (Option Packet)
  | [], p, done => { done with value := some p }
  | action :: actions, p, done =>
    match action with
    | .drop => { done with value := none }
    | .close => transform i actions p { done with closes := true }
    | .heartbeat => transform i actions .heartbeat done
    | .echo => transform i actions p { done with writes := done.writes ++ [p] }
    | .write q => transform i actions p { done with writes := done.writes ++ [q] }
    | .count =>
      let state := done.state.bump i
      transform i actions { p with session := .ofNat (state.countOf i) }
        { done with state := state }
    | .setFlags flags => transform i actions { p with flags := flags } done
    | .setSession session => transform i actions { p with session := session } done
    | .setCmd cmd => transform i actions { p with cmd := cmd } done
    | .setBody body => transform i actions { p with body := body } done

/-- The scripted stage at position `i`. -/
def stage (i : Nat) (name : String) (direction : Direction)
    (rules : List (Rule StageAction)) : Stage State Note where
  name := name
  direction := direction
  run _ s p := transform i (actionsFor rules p) p { value := (), state := s }

/-! ## Decoders and encoders -/

/-- Takes packets of `size` bytes, the first of which is the command. A first
byte that equals `poison` is at fault. -/
def decodeFixed (size : Nat) (poison : Option UInt8) (src : Bytes) : Wire.Attempt :=
  match Bytes.splitAt? size src with
  | some (cmd :: body, rest) =>
    if poison = some cmd then (.error (.checksum (.ofNat size) cmd), src)
    else (.ok (some { cmd := cmd, body := body }), rest)
  | _ => (.ok none, src)

/-- How many bytes there must be besides those of `src` to make a packet of
`size` bytes. -/
def lacksFixed (size : Nat) (src : Bytes) : Nat := size - src.length

theorem decodeFixed_shrinks {size : Nat} {poison : Option UInt8} {src rest : Bytes}
    {p : Packet} (h : decodeFixed size poison src = (.ok (some p), rest)) :
    rest.length < src.length := by
  unfold decodeFixed at h
  split at h
  · rename_i cmd body tail hsplit
    split at h
    · simp at h
    · simp only [Prod.mk.injEq] at h
      rw [(Bytes.splitAt?_eq_some.mp hsplit).2, ← h.2]
      simp only [List.cons_append, List.length_cons, List.length_append]
      omega
  · simp at h

theorem decodeFixed_of_lacks {size : Nat} {poison : Option UInt8} {src more : Bytes}
    (h : more.length < lacksFixed size src) :
    decodeFixed size poison (src ++ more) = (.ok none, src ++ more) := by
  have hsplit : Bytes.splitAt? size (src ++ more) = none := by
    rw [Bytes.splitAt?_eq_none, List.length_append]
    unfold lacksFixed at h
    omega
  simp [decodeFixed, hsplit]

/-- What is left at the end of the stream is one last packet. -/
def takeRest (attempt : Wire.Attempt) : Wire.Attempt :=
  match attempt with
  | (.ok none, cmd :: body) => (.ok (some { cmd := cmd, body := body }), [])
  | other => other

/-- A scripted decoder. -/
inductive DecoderScript
  /-- The usual decoder. -/
  | packets (limit : Nat)
  /-- Packets of one size. -/
  | fixed (size : Nat) (poison : Option UInt8)
  /-- Packets of one size, the last one shorter. -/
  | rest (size : Nat) (poison : Option UInt8)
deriving DecidableEq

/-- A scripted decoder as a decoder. -/
def DecoderScript.decoder : DecoderScript → Decoder State
  | packets limit => .packets limit
  | fixed size poison =>
    .ofDecode (decodeFixed size poison) (lacksFixed size) decodeFixed_shrinks decodeFixed_of_lacks
  | rest size poison =>
    { decode := fun s src => (decodeFixed size poison src, s)
      decodeEnd := fun s src => (takeRest (decodeFixed size poison src), s)
      lacks := lacksFixed size
      decode_shrinks := fun h => by
        simp only [Prod.mk.injEq] at h
        exact decodeFixed_shrinks h.1
      decodeEnd_shrinks := fun {s src p rest s'} h => by
        simp only [Prod.mk.injEq] at h
        obtain ⟨h, -⟩ := h
        unfold takeRest at h
        split at h
        · rename_i cmd body he
          simp only [Prod.mk.injEq] at h
          have hne : src ≠ [] := by
            rintro rfl
            cases size <;> simp [decodeFixed, Bytes.splitAt?] at he
          rw [← h.2]
          exact List.length_pos_iff.mpr hne
        · exact decodeFixed_shrinks h
      decode_of_lacks := fun h => by rw [decodeFixed_of_lacks h] }

/-- A scripted encoder. -/
inductive EncoderScript
  /-- The usual encoder. -/
  | packets
  /-- The body alone. -/
  | raw
  /-- The usual encoder for bodies of at most `max` bytes. -/
  | limited (max : Nat)
deriving DecidableEq

/-- A scripted encoder as an encoder. -/
def EncoderScript.encoder : EncoderScript → Encoder State
  | packets => .packets
  | raw => ⟨fun s p => (.ok p.body, s)⟩
  | limited max =>
    ⟨fun s p =>
      (if max < p.body.length then .error (.frameTooLarge p.body.length max)
        else Wire.encode p, s)⟩

/-! ## Specifications -/

/-- One entry of a scripted specification. -/
inductive Part
  | inbound (name : String) (rules : List (Rule StageAction))
  | outbound (name : String) (rules : List (Rule StageAction))
  | decoder (script : DecoderScript)
  | encoder (script : EncoderScript)
  | limit (n : Nat)

/-- The change of a specification that the entry at position `i` is. -/
def Part.change (i : Nat) : Part → Spec.Change State Note
  | inbound name rules => .stage (stage i name .inbound rules)
  | outbound name rules => .stage (stage i name .outbound rules)
  | decoder script => .decoder script.decoder
  | encoder script => .encoder script.encoder
  | limit n => .limit n

/-- A scripted application: its handler, which may be the silent echo, and its
parts. -/
structure Application where
  /-- The echo, if there is no script. -/
  handler : Option HandlerScript := none
  parts : List Part := []

namespace Application

/-- A scripted application's specification. -/
def spec (app : Application) : Spec State Note :=
  let handler := match app.handler with
    | some script => script.handler
    | none => .echo
  (Spec.ofHandler handler).changeAll (app.parts.zipIdx.map fun entry => entry.1.change entry.2)

/-- Whether an event is one that the application or its stream writes down.
The silent echo writes down nothing, and nobody writes down decoding, encoding
and sleep. -/
def shows (app : Application) : Event Note → Bool
  | .active _ | .message .. | .inactive _ => app.handler.isSome
  | .decoded _ | .encoded _ | .note (.slept _) => false
  | _ => true

end Application

end PacketServer.Script
