import PacketServer.Proofs.Server.Standing

/-!
# What the calls on a server come to

Any number of threads make any number of calls on one server, and their steps
interleave in any order. Each edge of the lifecycle has one winner at most. A
call that ended has a verdict, and every start and stop that returned has told
its listener once, of a success if it returned without a fault and of a
failure otherwise. There is one port that listeners are told of: the one of
the address that was bound. A call that loses an edge changes nothing.

## Main results

* `Standing.told` — what a listener was told at any point of a call.
* `Verdict.notified` — what a listener was told of a call that returned.
* `History.verdicts` — what a whole run comes to.
-/

namespace PacketServer.Server

variable {config : Config} {s : System} {bindings : List Address} {c : Call}
  {localAddress : Option Address} {point : Point} {ending : Ending}
  {result : Except Fault Unit}

/-- The listener of a call was told nothing yet, or once of a failure, or once
of a success with the port that was bound. -/
def Call.Told (c : Call) (bindings : List Address) : Prop :=
  c.told = [] ∨ (∃ cause, c.told = c.heard (.error cause)) ∨
    ∃ port, IsBound bindings port ∧ c.told = c.heard (.ok port)

theorem Concluded.told (concluded : Concluded config bindings c ending) : c.Told bindings := by
  cases ending with
  | crash => exact .inl concluded
  | answer result =>
    cases result with
    | ok _ => exact .inr (.inr concluded)
    | error fault =>
      obtain ⟨cause, -, told⟩ := concluded
      exact .inr (.inl ⟨cause, told⟩)

theorem Verdict.told (verdict : Verdict config bindings c ending) : c.Told bindings := by
  cases verdict with
  | initialized kind won told => exact .inl told
  | notInitialized kind won told => exact .inl told
  | started begun concluded => exact concluded.told
  | notStarted unbegun told => exact .inr (.inl ⟨_, told⟩)
  | stopped kind won bound told => exact .inr (.inr ⟨_, bound, told⟩)
  | notStopped kind won told => exact .inr (.inl ⟨_, told⟩)

theorem Pending.told {edges : List Transition} {after : After}
    (pending : Pending config bindings c edges after) : c.Told bindings := by
  cases after with
  | reply => exact .inl pending.2.2
  | finish ending => exact pending.2.1.told

/-- **What a listener was told**, at any point of its call. -/
theorem Standing.told (stands : Standing config bindings localAddress c point) :
    c.Told bindings := by
  cases point with
  | attemptInit => exact .inl stands.2.2
  | attemptStart | reportFailure cause => exact .inl stands.2
  | awaitLoop g | cleanUp ending | abort ending | takeAborted ending => exact stands.2.told
  | attemptStop after => exact Pending.told stands
  | readPort after | take after port | confirm after port => exact stands.1.told
  | shut stage g after port =>
    cases port with
    | none =>
      obtain ⟨ending, -, -, concluded⟩ := stands
      exact concluded.told
    | some port => exact stands.1.told
  | ended ending => exact Verdict.told stands
  | _ => exact .inl stands.2.1

theorem Call.Told.length_le_one (told : c.Told bindings) : c.told.length ≤ 1 := by
  have heard : ∀ outcome, (c.heard outcome).length ≤ 1 := by
    intro outcome
    unfold Call.heard
    split <;> simp
  rcases told with none | ⟨cause, failure⟩ | ⟨port, -, success⟩
  · simp [none]
  · rw [failure]
    exact heard _
  · rw [success]
    exact heard _

theorem Call.Told.success {port : Port} (told : c.Told bindings) (success : .ok port ∈ c.told) :
    IsBound bindings port := by
  unfold Call.Told Call.heard at told
  rcases told with none | ⟨cause, failure⟩ | ⟨port', bound, told⟩
  · simp [none] at success
  · rw [failure] at success
    split at success <;> simp at success
  · rw [told] at success
    split at success
    · obtain rfl : port = port' := by simpa using success
      exact bound
    · simp at success

/-- The call tells its listener how it went: a start or a stop does, and a boot
once it has won the initialization. -/
def Call.Notifies (c : Call) : Prop :=
  c.kind = .start ∨ c.kind = .stop ∨ (c.kind = .boot ∧ .init ∈ c.won)

/-- **A call that returned has told its listener how it went**, if it is one
that tells. -/
theorem Verdict.notified (verdict : Verdict config bindings c (.answer result))
    (notifies : c.Notifies) :
    ∃ outcome, c.told = c.heard outcome ∧ ((∃ port, outcome = .ok port) ↔ result = .ok ()) := by
  cases verdict with
  | initialized kind won told => simp [Call.Notifies, kind] at notifies
  | notInitialized kind won told =>
    rcases kind with kind | kind <;> simp [Call.Notifies, kind, won] at notifies
  | started begun concluded =>
    cases result with
    | ok _ =>
      obtain ⟨port, -, told⟩ := concluded
      exact ⟨.ok port, told, by simp⟩
    | error fault =>
      obtain ⟨cause, -, told⟩ := concluded
      exact ⟨.error cause, told, by simp⟩
  | notStarted unbegun told => exact ⟨_, told, by simp⟩
  | stopped kind won bound told => exact ⟨_, told, by simp⟩
  | notStopped kind won told => exact ⟨_, told, by simp⟩

/-- The edge that a call has won that is at a point behind it: a start behind
its beginning, or a stop, be it that of a cleanup, behind its own. -/
def Point.past? : Point → Option Transition
  | .build | .store _ | .bind | .lookUp _ | .publishPool _ | .publishAddress _ | .lock _
  | .inspect _ | .markStarted .. | .spawn .. | .unlock .. | .announce .. | .awaitLoop _
  | .reportFailure _ | .cleanUp _ | .abort _ | .takeAborted _ => some .beginStart
  | .readPort _ | .take .. | .shut _ _ _ (some _) | .confirm .. => some .beginStop
  | _ => none

theorem Pending.won {edge : Transition} {after : After}
    (pending : Pending config bindings c [edge] after) : edge ∈ c.won := by
  cases after with
  | reply => simp [pending.2.1]
  | finish ending => exact pending.2.2 edge (List.mem_singleton_self edge)

theorem Standing.past {edge : Transition} (stands : Standing config bindings localAddress c point)
    (past : point.past? = some edge) : edge ∈ c.won := by
  cases point with
  | attemptInit | attemptStart | attemptStop after | ended ending => simp [Point.past?] at past
  | readPort after | take after port | confirm after port =>
    cases past
    exact stands.1.won
  | shut stage g after port =>
    cases port with
    | none => simp [Point.past?] at past
    | some port =>
      cases past
      exact stands.1.won
  | _ =>
    cases past
    exact stands.1.2.1

theorem Call.point_of_ending {ending : Ending} (ended : c.ending = some ending) :
    c.point = .ended ending := by
  unfold Call.ending at ended
  split at ended
  · rename_i here
    cases ended
    exact here
  · cases ended

theorem Call.ending_of_answer (answered : c.answer = some result) :
    c.ending = some (.answer result) := by
  unfold Call.answer at answered
  split at answered
  · rename_i here
    cases answered
    simp [Call.ending, here]
  · cases answered

/-- What a run of calls on one server comes to. -/
structure Verdicts (config : Config) (s : System) (bindings : List Address) : Prop where
  /-- An edge is won at most once. -/
  single : ∀ edge, s.wins.count edge ≤ 1
  /-- Who is past the beginning of a start or of a stop has won it. -/
  past : ∀ c ∈ s.calls, ∀ edge, c.point.past? = some edge → edge ∈ c.won
  /-- Two calls that won the same edge are one call. -/
  winner : ∀ (edge : Transition) (i j : Nat) (c d : Call), s.calls[i]? = some c →
    s.calls[j]? = some d → edge ∈ c.won → edge ∈ d.won → i = j
  /-- At most one initialization returns without a fault. -/
  initialized : ∀ (i j : Nat) (c d : Call), s.calls[i]? = some c → s.calls[j]? = some d →
    c.kind = .init → d.kind = .init →
      c.answer = some (.ok ()) → d.answer = some (.ok ()) → i = j
  /-- A call that ended has a verdict. -/
  verdict : ∀ c ∈ s.calls, ∀ ending, c.ending = some ending →
    Verdict config bindings c ending
  /-- A start or stop that returned has told its listener once how it went. -/
  notified : ∀ c ∈ s.calls, c.Notifies → ∀ result, c.answer = some result →
    ∃ outcome, c.told = c.heard outcome ∧ ((∃ port, outcome = .ok port) ↔ result = .ok ())
  /-- No call tells its listener twice. -/
  once : ∀ c ∈ s.calls, c.told.length ≤ 1
  /-- Every success that a listener was told carries the port that was bound. -/
  port : ∀ c ∈ s.calls, ∀ port, .ok port ∈ c.told → IsBound bindings port
  /-- Who loses an edge changes nothing, and is at its end. -/
  lost : ∀ (t : Nat) (world : World) (c : Call) (edge : Transition), s.calls[t]? = some c →
    c.point.edge? = some edge → s.phase ≠ edge.source →
      ∃ c', s.step config (.advance t world) = some (s.place t c') ∧ c'.won = c.won ∧
        c'.ending.isSome = true

/-- **What a run comes to**, however the steps of the calls on a server
interleave, and whatever building, binding and looking up answer. -/
theorem History.verdicts (history : History config s bindings) : Verdicts config s bindings := by
  have settled := history.settled
  have verdict : ∀ c ∈ s.calls, ∀ ending, c.ending = some ending →
      Verdict config bindings c ending := by
    intro c hc ending ended
    have stands := settled.standing c hc
    rw [Call.point_of_ending ended] at stands
    exact stands
  have initialized : ∀ c ∈ s.calls, c.kind = .init → c.answer = some (.ok ()) →
      .init ∈ c.won := by
    intro c hc kind answered
    cases verdict c hc _ (Call.ending_of_answer answered) with
    | initialized _ won told => simp [won]
    | started begun concluded => simp [Call.Begun, kind] at begun
    | stopped kind' won bound told => simp [kind] at kind'
  exact
    { single := settled.winners.count_le_one
      past := fun c hc edge past => (settled.standing c hc).past past
      winner := fun edge i j c d first second => settled.winners.unique first second
      initialized := by
        intro i j c d first second kind kind' answered answered'
        have won := initialized c (List.mem_of_getElem? first) kind answered
        have won' := initialized d (List.mem_of_getElem? second) kind' answered'
        exact settled.winners.unique first second won won'
      verdict := verdict
      notified := by
        intro c hc notifies result answered
        exact (verdict c hc _ (Call.ending_of_answer answered)).notified notifies
      once := fun c hc => (settled.standing c hc).told.length_le_one
      port := fun c hc port success => (settled.standing c hc).told.success success
      lost := fun t world c edge present here closed => advance_lost present here closed }

/-- A stop wins behind the marking of a start and before its announcement, and
takes the groups before the start has told its listener. Another start and
another stop lose. -/
theorem verdicts_of_stop_before_announcement :
    let config := Config.ofPort none (.number 0)
    let address := Address.ofIp .any4 (.assigned 1)
    let world : World := { bind := .ok address }
    let calls : List Label := [.call .init true, .call .start true, .call .start true,
      .call .stop true, .call .stop true]
    let steps := [0, 1, 2, 1, 1, 1, 1, 1, 1, 1, 1, 1, 3, 4, 3, 1, 1, 3, 3, 3, 3, 3, 3, 3, 3, 3,
      1, 1, 1]
    let labels := calls ++ steps.map (Label.advance · world)
    ∃ s, System.fresh.follow config [] labels = some (s, [address]) ∧
      History config s [address] ∧
      s.calls.map (fun c => (c.answer.map (·.toOption), c.told.map (·.toOption))) =
        [(some (some ()), []), (some (some ()), [some (.assigned 1)]), (some none, [none]),
          (some (some ()), [some (.assigned 1)]), (some none, [none])] ∧
      Verdicts config s [address] := by
  intro config address world calls steps labels
  have followed : ((System.fresh.follow config [] labels).map fun run =>
      (run.2, run.1.calls.map fun c => (c.answer.map (·.toOption), c.told.map (·.toOption)))) =
      some ([address], [(some (some ()), []), (some (some ()), [some (.assigned 1)]),
        (some none, [none]), (some (some ()), [some (.assigned 1)]), (some none, [none])]) := by
    decide +kernel
  obtain ⟨⟨s, bindings⟩, run, seen⟩ := Option.map_eq_some_iff.mp followed
  obtain ⟨rfl, answers⟩ := Prod.mk.inj seen
  have history : History config s [address] := History.new.follow run
  exact ⟨s, run, history, answers, history.verdicts⟩

end PacketServer.Server
