import PacketServer.Server.System

/-!
# The steps of a system

What a step does, by the point at which the call stands that makes it. A move
leads from the shared state and the call before the step to the shared state
and the call after it; the other calls stay as they are. Guards that have to
hold for a move, what the world answered, what the call won and what its
listener was told are all part of it, so nothing that is proved about systems
has to look at how a step is computed.

## Main results

* `advance_move` — a step of a call is a move.
* `step_cases` — the steps of a system.
* `Move.wins` — a move wins at most one edge, from its source to its target.
* `advance_lost` — who loses an edge changes nothing.
-/

namespace PacketServer.Server

/-! ## Calls -/

namespace Call

/-- The call goes on at a point. -/
def goto (c : Call) (point : Point) : Call := { c with point := point }

/-- The call won an edge. -/
def win (c : Call) (edge : Transition) : Call := { c with won := c.won ++ [edge] }

/-- What the call's listener hears of an outcome; nothing if there is none. -/
def heard (c : Call) (outcome : Except Fault Port) : List (Except Fault Port) :=
  if c.listened then [outcome] else []

/-- The call's listener is told an outcome. -/
def hear (c : Call) (outcome : Except Fault Port) : Call :=
  { c with told := c.told ++ c.heard outcome }

/-- What a stop's own listener is told, and that of a cleanup is not. -/
def hearStop (c : Call) : After → Except Fault Port → Call
  | .reply, outcome => c.hear outcome
  | .finish _, _ => c

variable (c : Call) (point : Point) (edge : Transition) (outcome : Except Fault Port)
  (after : After)

@[simp] theorem goto_won : (c.goto point).won = c.won := rfl

@[simp] theorem goto_told : (c.goto point).told = c.told := rfl

@[simp] theorem goto_heard : (c.goto point).heard outcome = c.heard outcome := rfl

@[simp] theorem win_won : (c.win edge).won = c.won ++ [edge] := rfl

@[simp] theorem hear_told : (c.hear outcome).told = c.told ++ c.heard outcome := rfl

@[simp] theorem hear_heard (other : Except Fault Port) :
    (c.hear outcome).heard other = c.heard other := rfl

@[simp] theorem hearStop_won : (c.hearStop after outcome).won = c.won := by
  cases after <;> rfl

end Call

/-! ## The calls of a system -/

namespace System

/-- The call of a number is this one now. -/
def place (s : System) (t : Nat) (c : Call) : System := { s with calls := s.calls.set t c }

variable {s s₁ : System} {t : Nat} {c c₁ : Call}

theorem onCall_present (present : s.calls[t]? = some c) (f : Call → Call) :
    s.onCall t f = s.place t (f c) := by
  have same : s.calls.modify t f = s.calls.set t (f c) := by
    apply List.ext_getElem?
    intro j
    obtain ⟨hlt, rfl⟩ := List.getElem?_eq_some_iff.mp present
    by_cases hj : t = j
    · subst hj
      simp [hlt]
    · simp [hj]
  rw [onCall, place, same]

theorem place_onCall (present : s.calls[t]? = some c) (f : Call → Call) :
    (s.place t c₁).onCall t f = s.place t (f c₁) := by
  have placed : (s.place t c₁).calls[t]? = some c₁ := by
    obtain ⟨hlt, -⟩ := List.getElem?_eq_some_iff.mp present
    simp [place, hlt]
  rw [onCall_present placed]
  simp [place]

theorem goto_present (present : s.calls[t]? = some c) (point : Point) :
    s.goto t point = s.place t (c.goto point) :=
  onCall_present present _

theorem place_goto (present : s.calls[t]? = some c) (point : Point) :
    (s.place t c₁).goto t point = s.place t (c₁.goto point) :=
  place_onCall present _

theorem tell_present (present : s.calls[t]? = some c) (outcome : Except Fault Port) :
    s.tell t outcome = s.place t (c.hear outcome) := by
  have hears : (if c.listened then { c with told := c.told ++ [outcome] } else c) =
      c.hear outcome := by
    unfold Call.hear Call.heard
    split
    · rfl
    · rw [List.append_nil]
  rw [tell, onCall_present present, hears]

theorem tellStop_present (present : s.calls[t]? = some c) (after : After)
    (outcome : Except Fault Port) :
    s.tellStop t after outcome = s.place t (c.hearStop after outcome) := by
  cases after with
  | reply => exact tell_present present outcome
  | finish ending =>
    obtain ⟨hlt, rfl⟩ := List.getElem?_eq_some_iff.mp present
    simp [tellStop, Call.hearStop, place]

theorem attempt_won (present : s.calls[t]? = some c) (edge : Transition)
    (opens : s.phase = edge.source) :
    s.attempt t edge = (true, { s with phase := edge.target }.place t (c.win edge)) := by
  have won : edge.attempt s.phase = (true, edge.target) := if_pos opens
  have same : { s with phase := edge.target }.calls[t]? = some c := present
  rw [attempt, won]
  simp only [onCall_present same]
  rfl

theorem attempt_lost (edge : Transition) (closed : s.phase ≠ edge.source) :
    s.attempt t edge = (false, s) := by
  have lost : edge.attempt s.phase = (false, s.phase) := if_neg closed
  rw [attempt, lost]

/-- The calls after a step: the one that made it, and those that did not. -/
theorem place_calls_cases {j : Nat} {d : Call} (placed : (s.place t c).calls[j]? = some d) :
    (j = t ∧ d = c) ∨ (j ≠ t ∧ s.calls[j]? = some d) := by
  rw [place, List.getElem?_set] at placed
  by_cases same : t = j
  · rw [if_pos same] at placed
    split at placed
    · exact .inl ⟨same.symm, (Option.some.inj placed).symm⟩
    · exact absurd placed (by simp)
  · rw [if_neg same] at placed
    exact .inr ⟨Ne.symm same, placed⟩

end System

/-! ## Moves -/

/-- The moves of the call of number `t`. -/
inductive Move (config : Config) (world : World) (t : Nat) (s : System) (c : Call) :
    System → Call → Prop
  | initialized (here : c.point = .attemptInit) (opens : s.phase = .created) :
      Move config world t s c { s with phase := .initialized }
        ((c.win .init).goto (if c.kind = .boot then .attemptStart else .returned (.ok ())))
  | notInitialized (here : c.point = .attemptInit) (closed : s.phase ≠ .created) :
      Move config world t s c s
        (c.goto (.returned (.error (.lifecycle .alreadyInitialized))))
  | begun (here : c.point = .attemptStart) (opens : s.phase = .initialized) :
      Move config world t s c { s with phase := .starting } ((c.win .beginStart).goto .build)
  | notBegun (here : c.point = .attemptStart) (closed : s.phase ≠ .initialized) :
      Move config world t s c s
        ((c.hear (.error (.lifecycle .notStartable))).goto
          (.returned (.error (.lifecycle .notStartable))))
  | buildCrashed (here : c.point = .build) (crashes : world.crashes = true) :
      Move config world t s c s (c.goto (.cleanUp .crash))
  | built (here : c.point = .build) (sound : world.crashes = false)
      (builds : world.build = .ok ()) :
      Move config world t s c { s with groups := s.groups ++ [Groups.fresh] }
        (c.goto (.store s.groups.length))
  | notBuilt {cause : Fault} (here : c.point = .build) (sound : world.crashes = false)
      (fails : world.build = .error cause) :
      Move config world t s c s (c.goto (.reportFailure cause))
  | stored {g : Nat} (here : c.point = .store g) (free : s.lockedBy = none) :
      Move config world t s c { s with slot := some g } (c.goto .bind)
  | bindCrashed (here : c.point = .bind) (crashes : world.crashes = true) :
      Move config world t s c s (c.goto (.cleanUp .crash))
  | bound {address : Address} (here : c.point = .bind) (sound : world.crashes = false)
      (binds : world.bind = .ok address) :
      Move config world t s c s (c.goto (.lookUp address))
  | notBound {cause : Fault} (here : c.point = .bind) (sound : world.crashes = false)
      (fails : world.bind = .error cause) :
      Move config world t s c s (c.goto (.reportFailure cause))
  | lookedUp {address : Address} (here : c.point = .lookUp address)
      (finds : world.lookUp = .ok ()) :
      Move config world t s c s (c.goto (.publishPool address))
  | notLookedUp {address : Address} {cause : Fault} (here : c.point = .lookUp address)
      (fails : world.lookUp = .error cause) :
      Move config world t s c s (c.goto (.reportFailure cause))
  | poolPublished {address : Address} (here : c.point = .publishPool address) :
      Move config world t s c { s with pool := some config.socketOptions.childBuffers }
        (c.goto (.publishAddress address))
  | addressPublished {address : Address} (here : c.point = .publishAddress address) :
      Move config world t s c { s with localAddress := some address } (c.goto (.lock address))
  | locked {address : Address} (here : c.point = .lock address) (free : s.lockedBy = none) :
      Move config world t s c { s with lockedBy := some t } (c.goto (.inspect address))
  | found {address : Address} {g : Nat} (here : c.point = .inspect address)
      (full : s.slot = some g) : Move config world t s c s (c.goto (.markStarted address g))
  | missed {address : Address} (here : c.point = .inspect address) (empty : s.slot = none) :
      Move config world t s c { s with lockedBy := none } (c.goto (.reportFailure .closed))
  | marked {address : Address} {g : Nat} (here : c.point = .markStarted address g)
      (opens : s.phase = .starting) :
      Move config world t s c { s with phase := .started }
        ((c.win .markStarted).goto (.spawn address g))
  | notMarked {address : Address} {g : Nat} (here : c.point = .markStarted address g)
      (closed : s.phase ≠ .starting) : Move config world t s c s (c.goto (.spawn address g))
  | spawned {address : Address} {g : Nat} (here : c.point = .spawn address g) :
      Move config world t s c (s.onGroups g fun groups => { groups with loop := .waiting })
        (c.goto (.unlock address g))
  | unlocked {address : Address} {g : Nat} (here : c.point = .unlock address g) :
      Move config world t s c { s with lockedBy := none } (c.goto (.announce address.port g))
  | announced {port : Port} {g : Nat} (here : c.point = .announce port g) :
      Move config world t s c s ((c.hear (.ok port)).goto (.awaitLoop g))
  | loopEnded {g : Nat} (here : c.point = .awaitLoop g)
      (ended : (s.groups[g]?).any (·.loop.isOver) = true) :
      Move config world t s c s (c.goto (.cleanUp (.answer (.ok ()))))
  | failureReported {cause : Fault} (here : c.point = .reportFailure cause) :
      Move config world t s c s
        ((c.hear (.error cause)).goto
          (.cleanUp (.answer (.error (System.startFault config cause)))))
  | cleanStarting {ending : Ending} (here : c.point = .cleanUp ending)
      (starting : s.phase = .starting) : Move config world t s c s (c.goto (.abort ending))
  | cleanStarted {ending : Ending} (here : c.point = .cleanUp ending)
      (started : s.phase = .started) :
      Move config world t s c s (c.goto (.attemptStop (.finish ending)))
  | clean {ending : Ending} (here : c.point = .cleanUp ending)
      (notStarting : s.phase ≠ .starting) (notStarted : s.phase ≠ .started) :
      Move config world t s c s (c.goto (.ended ending))
  | aborted {ending : Ending} (here : c.point = .abort ending) (opens : s.phase = .starting) :
      Move config world t s c { s with phase := .shutdown }
        ((c.win .abortStart).goto (.takeAborted ending))
  | notAborted {ending : Ending} (here : c.point = .abort ending)
      (closed : s.phase ≠ .starting) : Move config world t s c s (c.goto (.ended ending))
  | abortedTaken {ending : Ending} (here : c.point = .takeAborted ending)
      (free : s.lockedBy = none) :
      Move config world t s c { s with slot := none }
        (c.goto (After.taken (.finish ending) s.slot none))
  | stopBegun {after : After} (here : c.point = .attemptStop after)
      (opens : s.phase = .started) :
      Move config world t s c { s with phase := .shutdown }
        ((c.win .beginStop).goto (.readPort after))
  | stopLost {after : After} (here : c.point = .attemptStop after)
      (closed : s.phase ≠ .started) :
      Move config world t s c s
        ((c.hearStop after (.error (.lifecycle .alreadyShutdown))).goto
          (after.answered (.error (.lifecycle .alreadyShutdown))))
  | portRead {after : After} (here : c.point = .readPort after) :
      Move config world t s c s (c.goto (.take after (s.port config)))
  | taken {after : After} {port : Port} (here : c.point = .take after port)
      (free : s.lockedBy = none) :
      Move config world t s c { s with slot := none } (c.goto (after.taken s.slot (some port)))
  | shut {stage next : ShutdownStage} {g : Nat} {after : After} {port : Option Port}
      (here : c.point = .shut stage g after port) (goesOn : stage.next = some next) :
      Move config world t s c (s.onGroups g stage.run) (c.goto (.shut next g after port))
  | shutLast {stage : ShutdownStage} {g : Nat} {after : After} {port : Option Port}
      (here : c.point = .shut stage g after port) (last : stage.next = none) :
      Move config world t s c (s.onGroups g stage.run) (c.goto (after.resume port))
  | confirmed {after : After} {port : Port} (here : c.point = .confirm after port) :
      Move config world t s c s
        ((c.hearStop after (.ok port)).goto (after.answered (.ok ())))

section

variable {config : Config} {world : World} {t : Nat} {s s₁ s' : System} {c c' : Call}

theorem Move.calls (move : Move config world t s c s₁ c') : s₁.calls = s.calls := by
  cases move <;> rfl

/-- A move that only brings the call to a point. -/
theorem Move.direct {point : Point} (move : Move config world t s c s₁ (c.goto point))
    (present : s.calls[t]? = some c) :
    ∃ s₂ c', Move config world t s c s₂ c' ∧ s₁.goto t point = s₂.place t c' := by
  refine ⟨s₁, _, move, System.goto_present ?_ point⟩
  rw [move.calls]
  exact present

/-- A move that changes the call and brings it to a point. -/
theorem Move.indirect {c₁ : Call} {point : Point}
    (move : Move config world t s c s₁ (c₁.goto point)) (present : s.calls[t]? = some c) :
    ∃ s₂ c', Move config world t s c s₂ c' ∧ (s₁.place t c₁).goto t point = s₂.place t c' := by
  refine ⟨s₁, _, move, System.place_goto (c := c) ?_ point⟩
  rw [move.calls]
  exact present

/-- **A step of a call is a move.** -/
theorem advance_move (made : s.advance config world t = some s') :
    ∃ c, s.calls[t]? = some c ∧
      ∃ s₁ c', Move config world t s c s₁ c' ∧ s' = s₁.place t c' := by
  unfold System.advance at made
  cases present : s.calls[t]? with
  | none => simp [present] at made
  | some c =>
    simp only [present, Option.bind_eq_bind, Option.bind_some] at made
    refine ⟨c, rfl, ?_⟩
    cases here : c.point with
    | attemptInit =>
      simp only [here] at made
      by_cases opens : s.phase = .created
      · rw [System.attempt_won present .init opens] at made
        cases made
        exact (Move.initialized here opens).indirect present
      · rw [System.attempt_lost .init opens] at made
        cases made
        exact (Move.notInitialized here opens).direct present
    | attemptStart =>
      simp only [here] at made
      by_cases opens : s.phase = .initialized
      · rw [System.attempt_won present .beginStart opens] at made
        cases made
        exact (Move.begun here opens).indirect present
      · rw [System.attempt_lost .beginStart opens] at made
        simp only [System.tell_present present] at made
        cases made
        exact (Move.notBegun here opens).indirect present
    | build =>
      simp only [here] at made
      by_cases crashes : world.crashes = true
      · rw [if_pos crashes] at made
        cases made
        exact (Move.buildCrashed here crashes).direct present
      · rw [if_neg crashes] at made
        have sound : world.crashes = false := by simpa using crashes
        cases builds : world.build with
        | ok _ =>
          simp only [builds] at made
          cases made
          exact (Move.built here sound builds).direct present
        | error cause =>
          simp only [builds] at made
          cases made
          exact (Move.notBuilt here sound builds).direct present
    | store g =>
      simp only [here] at made
      split at made
      · cases made
      · rename_i free
        cases made
        exact (Move.stored here (by simpa using free)).direct present
    | bind =>
      simp only [here] at made
      by_cases crashes : world.crashes = true
      · rw [if_pos crashes] at made
        cases made
        exact (Move.bindCrashed here crashes).direct present
      · rw [if_neg crashes] at made
        have sound : world.crashes = false := by simpa using crashes
        cases binds : world.bind with
        | ok address =>
          simp only [binds] at made
          cases made
          exact (Move.bound here sound binds).direct present
        | error cause =>
          simp only [binds] at made
          cases made
          exact (Move.notBound here sound binds).direct present
    | lookUp address =>
      simp only [here] at made
      cases finds : world.lookUp with
      | ok _ =>
        simp only [finds] at made
        cases made
        exact (Move.lookedUp here finds).direct present
      | error cause =>
        simp only [finds] at made
        cases made
        exact (Move.notLookedUp here finds).direct present
    | publishPool address =>
      simp only [here] at made
      cases made
      exact (Move.poolPublished here).direct present
    | publishAddress address =>
      simp only [here] at made
      cases made
      exact (Move.addressPublished here).direct present
    | lock address =>
      simp only [here] at made
      split at made
      · cases made
      · rename_i free
        cases made
        exact (Move.locked here (by simpa using free)).direct present
    | inspect address =>
      simp only [here] at made
      split at made
      · rename_i full
        cases made
        exact (Move.found here full).direct present
      · rename_i empty
        cases made
        exact (Move.missed here empty).direct present
    | markStarted address g =>
      simp only [here] at made
      by_cases opens : s.phase = .starting
      · rw [System.attempt_won present .markStarted opens] at made
        cases made
        exact (Move.marked here opens).indirect present
      · rw [System.attempt_lost .markStarted opens] at made
        cases made
        exact (Move.notMarked here opens).direct present
    | spawn address g =>
      simp only [here] at made
      cases made
      exact (Move.spawned here).direct present
    | unlock address g =>
      simp only [here] at made
      cases made
      exact (Move.unlocked here).direct present
    | announce port g =>
      simp only [here, System.tell_present present] at made
      cases made
      exact (Move.announced here).indirect present
    | awaitLoop g =>
      simp only [here] at made
      split at made
      · rename_i ended
        cases made
        exact (Move.loopEnded here ended).direct present
      · cases made
    | reportFailure cause =>
      simp only [here, System.tell_present present] at made
      cases made
      exact (Move.failureReported here).indirect present
    | cleanUp ending =>
      simp only [here] at made
      split at made
      · rename_i starting
        cases made
        exact (Move.cleanStarting here starting).direct present
      · rename_i started
        cases made
        exact (Move.cleanStarted here started).direct present
      · rename_i notStarting notStarted
        cases made
        exact (Move.clean here notStarting notStarted).direct present
    | abort ending =>
      simp only [here] at made
      by_cases opens : s.phase = .starting
      · rw [System.attempt_won present .abortStart opens] at made
        cases made
        exact (Move.aborted here opens).indirect present
      · rw [System.attempt_lost .abortStart opens] at made
        cases made
        exact (Move.notAborted here opens).direct present
    | takeAborted ending =>
      simp only [here] at made
      split at made
      · cases made
      · rename_i free
        cases made
        exact (Move.abortedTaken here (by simpa using free)).direct present
    | attemptStop after =>
      simp only [here] at made
      by_cases opens : s.phase = .started
      · rw [System.attempt_won present .beginStop opens] at made
        cases made
        exact (Move.stopBegun here opens).indirect present
      · rw [System.attempt_lost .beginStop opens] at made
        simp only [System.tellStop_present present] at made
        cases made
        exact (Move.stopLost here opens).indirect present
    | readPort after =>
      simp only [here] at made
      cases made
      exact (Move.portRead here).direct present
    | take after port =>
      simp only [here] at made
      split at made
      · cases made
      · rename_i free
        cases made
        exact (Move.taken here (by simpa using free)).direct present
    | shut stage g after port =>
      simp only [here] at made
      cases next : stage.next with
      | some stage' =>
        simp only [next] at made
        cases made
        exact (Move.shut here next).direct present
      | none =>
        simp only [next] at made
        cases made
        exact (Move.shutLast here next).direct present
    | confirm after port =>
      simp only [here, System.tellStop_present present] at made
      cases made
      exact (Move.confirmed here).indirect present
    | ended ending =>
      simp only [here] at made
      cases made

/-! ## Steps -/

/-- The steps of a system, by their labels. -/
inductive Steps (config : Config) (s : System) : Label → System → Prop
  | called (kind : Kind) (listened : Bool) :
      Steps config s (.call kind listened) (s.enter kind listened)
  | moved {t : Nat} {world : World} {c c' : Call} {s₁ : System}
      (present : s.calls[t]? = some c) (move : Move config world t s c s₁ c') :
      Steps config s (.advance t world) (s₁.place t c')
  | looped {g : Nat} {action : LoopAction} {before after : Groups}
      (present : s.groups[g]? = some before) (goes : before.loopStep action = some after) :
      Steps config s (.loop g action) { s with groups := s.groups.set g after }
  | tasked {g i : Nat} {action : TaskAction} {before after : Groups}
      (present : s.groups[g]? = some before) (goes : before.taskStep i action = some after) :
      Steps config s (.task g i action) { s with groups := s.groups.set g after }

theorem step_cases {label : Label} (made : s.step config label = some s') :
    Steps config s label s' := by
  cases label with
  | call kind listened =>
    cases made
    exact .called kind listened
  | advance t world =>
    obtain ⟨c, present, s₁, c', move, rfl⟩ := advance_move made
    exact .moved present move
  | loop g action =>
    obtain ⟨before, present, made⟩ := Option.bind_eq_some_iff.mp made
    obtain ⟨after, goes, made⟩ := Option.bind_eq_some_iff.mp made
    cases made
    exact .looped present goes
  | task g i action =>
    obtain ⟨before, present, made⟩ := Option.bind_eq_some_iff.mp made
    obtain ⟨after, goes, made⟩ := Option.bind_eq_some_iff.mp made
    cases made
    exact .tasked present goes

/-- **A move wins at most one edge**, and the phase changes with the edge that
was won and with nothing else. -/
theorem Move.wins (move : Move config world t s c s₁ c') :
    (c'.won = c.won ∧ s₁.phase = s.phase) ∨
      ∃ edge, c'.won = c.won ++ [edge] ∧ s.phase = edge.source ∧ s₁.phase = edge.target := by
  cases move with
  | initialized here opens => exact .inr ⟨.init, rfl, opens, rfl⟩
  | begun here opens => exact .inr ⟨.beginStart, rfl, opens, rfl⟩
  | marked here opens => exact .inr ⟨.markStarted, rfl, opens, rfl⟩
  | aborted here opens => exact .inr ⟨.abortStart, rfl, opens, rfl⟩
  | stopBegun here opens => exact .inr ⟨.beginStop, rfl, opens, rfl⟩
  | stopLost here closed => exact .inl ⟨Call.hearStop_won .., rfl⟩
  | confirmed here => exact .inl ⟨Call.hearStop_won .., rfl⟩
  | _ => exact .inl ⟨rfl, rfl⟩

/-- The edge that a call at a point attempts next, and behind which it ends or
goes on. -/
def Point.edge? : Point → Option Transition
  | .attemptInit => some .init
  | .attemptStart => some .beginStart
  | .abort _ => some .abortStart
  | .attemptStop _ => some .beginStop
  | _ => none

/-- **Who loses an edge changes nothing**, and is at its end. -/
theorem advance_lost {edge : Transition} (present : s.calls[t]? = some c)
    (here : c.point.edge? = some edge) (closed : s.phase ≠ edge.source) :
    ∃ c', s.advance config world t = some (s.place t c') ∧ c'.won = c.won ∧
      c'.ending.isSome = true := by
  unfold System.advance
  simp only [present, Option.bind_eq_bind, Option.bind_some]
  cases point : c.point with
  | attemptInit =>
    obtain rfl : .init = edge := by simpa [Point.edge?, point] using here
    simp only [System.attempt_lost .init closed, System.goto_present present]
    exact ⟨_, rfl, rfl, rfl⟩
  | attemptStart =>
    obtain rfl : .beginStart = edge := by simpa [Point.edge?, point] using here
    simp only [System.attempt_lost .beginStart closed, System.tell_present present,
      System.place_goto present]
    exact ⟨_, rfl, rfl, rfl⟩
  | abort ending =>
    obtain rfl : .abortStart = edge := by simpa [Point.edge?, point] using here
    simp only [System.attempt_lost .abortStart closed, System.goto_present present]
    exact ⟨_, rfl, rfl, rfl⟩
  | attemptStop after =>
    obtain rfl : .beginStop = edge := by simpa [Point.edge?, point] using here
    simp only [System.attempt_lost .beginStop closed, System.tellStop_present present,
      System.place_goto present]
    refine ⟨_, rfl, Call.hearStop_won .., ?_⟩
    cases after <;> rfl
  | _ => simp [Point.edge?, point] at here

end

end PacketServer.Server
