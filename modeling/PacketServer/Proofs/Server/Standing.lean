import PacketServer.Proofs.Server.Winners

/-!
# Where the calls on a server stand

Calls that initialize, start and stop one server interleave step by step. At
each point of a call it is known what the call won, what its listener was told
and, from the bind on, which address was bound. A call that ends therefore
ends with one of six verdicts, and each of them says what the listener heard.

The bindings of a run are kept beside its states: a state does not remember a
bind whose start has not published its address yet.

## Main results

* `Move.standing`, `Move.standing_bind` — what is known of the call that makes
  a step, behind it.
* `Standing.published`, `Standing.unbegun` — what stays known of the others.
* `Reachable.history` — every reachable state has a history.
* `History.settled` — where the calls stand after any run.
-/

namespace PacketServer.Server

/-! ## Bindings -/

/-- The address that a call binds with its next step. -/
def Call.binds (c : Call) (world : World) : List Address :=
  match c.point, world.crashes, world.bind with
  | .bind, false, .ok address => [address]
  | _, _, _ => []

theorem Call.binds_of_point {c : Call} (elsewhere : c.point ≠ .bind) (world : World) :
    c.binds world = [] := by
  unfold Call.binds
  split
  · rename_i here _ _
    exact absurd here elsewhere
  · rfl

/-- The address that is bound in a step. -/
def System.bound (s : System) : Label → List Address
  | .advance t world => (s.calls[t]?).elim [] (·.binds world)
  | _ => []

/-- The runs of a new server: the states that they lead to and the addresses
that were bound on the way. -/
inductive History (config : Config) : System → List Address → Prop
  | new : History config .fresh []
  | step {s s' : System} {bindings : List Address} (label : Label)
      (before : History config s bindings) (made : s.step config label = some s') :
      History config s' (bindings ++ s.bound label)

variable {config : Config} {s s₁ s' : System} {bindings bindings' : List Address} {t i j : Nat}
  {world : World} {c c' d : Call} {localAddress localAddress' : Option Address}

theorem Reachable.history (reachable : Reachable config s) :
    ∃ bindings, History config s bindings := by
  induction reachable with
  | new => exact ⟨[], .new⟩
  | step label before made ih =>
    obtain ⟨bindings, history⟩ := ih
    exact ⟨_, .step label history made⟩

/-- Follows the labels of a run, and keeps the addresses that are bound. -/
def System.follow (config : Config) (s : System) (bindings : List Address) :
    List Label → Option (System × List Address)
  | [] => some (s, bindings)
  | label :: labels => do
    let s' ← s.step config label
    s'.follow config (bindings ++ s.bound label) labels

theorem History.follow {labels : List Label} (history : History config s bindings)
    (followed : s.follow config bindings labels = some (s', bindings')) :
    History config s' bindings' := by
  induction labels generalizing s bindings with
  | nil =>
    cases followed
    exact history
  | cons label labels ih =>
    obtain ⟨s₁, made, followed⟩ := Option.bind_eq_some_iff.mp followed
    exact ih (.step label history made) followed

/-- The port is that of the one address that was bound. -/
def IsBound (bindings : List Address) (port : Port) : Prop :=
  ∃ address, bindings = [address] ∧ port = address.port

/-! ## Verdicts -/

/-- The call is a start that won its beginning; a boot won the initialization
before. -/
def Call.Begun (c : Call) : Prop :=
  (c.kind = .start ∨ c.kind = .boot) ∧ .beginStart ∈ c.won ∧ (c.kind = .boot → .init ∈ c.won)

/-- The call is a start that did not win its beginning. -/
def Call.Unbegun (c : Call) : Prop :=
  (c.kind = .start ∧ c.won = []) ∨ (c.kind = .boot ∧ c.won = [.init])

/-- What the listener of a start was told that won its beginning, by what the
start ends with. A thread that broke off has told nothing. -/
def Concluded (config : Config) (bindings : List Address) (c : Call) : Ending → Prop
  | .answer (.ok ()) => ∃ port, IsBound bindings port ∧ c.told = c.heard (.ok port)
  | .answer (.error fault) =>
    ∃ cause, fault = System.startFault config cause ∧ c.told = c.heard (.error cause)
  | .crash => c.told = []

/-- How a call ends, what it won and what its listener was told. -/
inductive Verdict (config : Config) (bindings : List Address) (c : Call) : Ending → Prop
  | initialized (kind : c.kind = .init) (won : c.won = [.init]) (told : c.told = []) :
      Verdict config bindings c (.answer (.ok ()))
  | notInitialized (kind : c.kind = .init ∨ c.kind = .boot) (won : c.won = [])
      (told : c.told = []) :
      Verdict config bindings c (.answer (.error (.lifecycle .alreadyInitialized)))
  | started {ending : Ending} (begun : c.Begun) (concluded : Concluded config bindings c ending) :
      Verdict config bindings c ending
  | notStarted (unbegun : c.Unbegun)
      (told : c.told = c.heard (.error (.lifecycle .notStartable))) :
      Verdict config bindings c (.answer (.error (.lifecycle .notStartable)))
  | stopped {port : Port} (kind : c.kind = .stop) (won : c.won = [.beginStop])
      (bound : IsBound bindings port) (told : c.told = c.heard (.ok port)) :
      Verdict config bindings c (.answer (.ok ()))
  | notStopped (kind : c.kind = .stop) (won : c.won = [])
      (told : c.told = c.heard (.error (.lifecycle .alreadyShutdown))) :
      Verdict config bindings c (.answer (.error (.lifecycle .alreadyShutdown)))

/-! ## Where calls stand -/

/-- A call that goes on after a stop: a stop that won these edges and has told
nobody yet, or a start that won them and has concluded. -/
def Pending (config : Config) (bindings : List Address) (c : Call) (edges : List Transition) :
    After → Prop
  | .reply => c.kind = .stop ∧ c.won = edges ∧ c.told = []
  | .finish ending =>
    c.Begun ∧ Concluded config bindings c ending ∧ ∀ edge ∈ edges, edge ∈ c.won

/-- What is known of a call at a point. -/
def Standing (config : Config) (bindings : List Address) (localAddress : Option Address)
    (c : Call) : Point → Prop
  | .attemptInit => (c.kind = .init ∨ c.kind = .boot) ∧ c.won = [] ∧ c.told = []
  | .attemptStart => c.Unbegun ∧ c.told = []
  | .build | .store _ | .bind => c.Begun ∧ c.told = [] ∧ bindings = []
  | .lookUp address | .publishPool address | .publishAddress address =>
    c.Begun ∧ c.told = [] ∧ bindings = [address]
  | .lock address | .inspect address | .markStarted address _ | .spawn address _
  | .unlock address _ =>
    c.Begun ∧ c.told = [] ∧ bindings = [address] ∧ localAddress = some address
  | .announce port _ => c.Begun ∧ c.told = [] ∧ IsBound bindings port
  | .awaitLoop _ => c.Begun ∧ Concluded config bindings c (.answer (.ok ()))
  | .reportFailure _ => c.Begun ∧ c.told = []
  | .cleanUp ending | .abort ending | .takeAborted ending =>
    c.Begun ∧ Concluded config bindings c ending
  | .attemptStop after => Pending config bindings c [] after
  | .readPort after =>
    Pending config bindings c [.beginStop] after ∧
      ∃ address, bindings = [address] ∧ localAddress = some address
  | .take after port | .shut _ _ after (some port) | .confirm after port =>
    Pending config bindings c [.beginStop] after ∧ IsBound bindings port
  | .shut _ _ after none =>
    ∃ ending, after = .finish ending ∧ c.Begun ∧ Concluded config bindings c ending
  | .ended ending => Verdict config bindings c ending

/-- Where the calls of a system stand after a run. -/
structure Settled (config : Config) (s : System) (bindings : List Address) : Prop where
  winners : Winners s
  standing : ∀ c ∈ s.calls, Standing config bindings s.localAddress c c.point
  /-- Nothing is bound before a start has begun. -/
  unbound : s.phase = .created ∨ s.phase = .initialized → bindings = []
  /-- A started server has published the address that was bound. -/
  published : s.phase = .started →
    ∃ address, bindings = [address] ∧ s.localAddress = some address

theorem Call.Begun.win (begun : c.Begun) (edge : Transition) : (c.win edge).Begun := by
  obtain ⟨kind, won, initialized⟩ := begun
  refine ⟨kind, List.mem_append_left _ won, ?_⟩
  intro boot
  exact List.mem_append_left _ (initialized boot)

/-- What is known of the call that makes a move, behind it. -/
theorem Move.standing (move : Move config world t s c s₁ c') (elsewhere : c.point ≠ .bind)
    (stands : Standing config bindings s.localAddress c c.point)
    (unbound : s.phase = .created ∨ s.phase = .initialized → bindings = [])
    (published : s.phase = .started →
      ∃ address, bindings = [address] ∧ s.localAddress = some address) :
    Standing config bindings s₁.localAddress c' c'.point := by
  cases move with
  -- Behind these moves as much is known as before.
  | built here | stored here | lookedUp here | poolPublished here | locked here | found here
  | notMarked here | spawned here | loopEnded here | cleanStarting here =>
    rw [here] at stands
    exact stands
  | buildCrashed here | notBuilt here | notLookedUp here | missed here =>
    rw [here] at stands
    exact ⟨stands.1, stands.2.1⟩
  | clean here | notAborted here =>
    rw [here] at stands
    exact Verdict.started stands.1 stands.2
  | initialized here opens =>
    rw [here] at stands
    obtain ⟨kind, won, told⟩ := stands
    rcases kind with init | boot
    · rw [if_neg (by rw [init]; decide)]
      exact Verdict.initialized init (congrArg (· ++ [_]) won) told
    · rw [if_pos boot]
      exact ⟨.inr ⟨boot, congrArg (· ++ [_]) won⟩, told⟩
  | notInitialized here closed =>
    rw [here] at stands
    obtain ⟨kind, won, told⟩ := stands
    exact Verdict.notInitialized kind won told
  | begun here opens =>
    rw [here] at stands
    obtain ⟨unbegun, told⟩ := stands
    refine ⟨⟨?_, by simp, ?_⟩, told, unbound (.inr opens)⟩
    · rcases unbegun with ⟨start, -⟩ | ⟨boot, -⟩
      · exact .inl start
      · exact .inr boot
    · intro boot
      rcases unbegun with ⟨start, -⟩ | ⟨-, won⟩
      · exact absurd (start.symm.trans boot) (by decide)
      · simp [won]
  | notBegun here closed =>
    rw [here] at stands
    obtain ⟨unbegun, told⟩ := stands
    refine Verdict.notStarted unbegun ?_
    simp [told]
  | bindCrashed here | bound here | notBound here => exact absurd here elsewhere
  | addressPublished here =>
    rw [here] at stands
    exact ⟨stands.1, stands.2.1, stands.2.2, rfl⟩
  | marked here opens =>
    rw [here] at stands
    exact ⟨stands.1.win _, stands.2⟩
  | @unlocked address g here =>
    rw [here] at stands
    exact ⟨stands.1, stands.2.1, address, stands.2.2.1, rfl⟩
  | announced here =>
    rw [here] at stands
    obtain ⟨begun, told, bound⟩ := stands
    refine ⟨begun, _, bound, ?_⟩
    simp [told]
  | failureReported here =>
    rw [here] at stands
    obtain ⟨begun, told⟩ := stands
    refine ⟨begun, _, rfl, ?_⟩
    simp [told]
  | cleanStarted here started =>
    rw [here] at stands
    exact ⟨stands.1, stands.2, by simp⟩
  | aborted here opens =>
    rw [here] at stands
    obtain ⟨begun, concluded⟩ := stands
    exact ⟨begun.win _, concluded⟩
  | abortedTaken here free =>
    rw [here] at stands
    cases s.slot with
    | none => exact Verdict.started stands.1 stands.2
    | some g => exact ⟨_, rfl, stands⟩
  | @stopBegun after here opens =>
    rw [here] at stands
    refine ⟨?_, published opens⟩
    cases after with
    | reply =>
      obtain ⟨kind, won, told⟩ := stands
      exact ⟨kind, congrArg (· ++ [_]) won, told⟩
    | finish ending =>
      obtain ⟨begun, concluded, -⟩ := stands
      exact ⟨begun.win _, concluded, by simp⟩
  | @stopLost after here closed =>
    rw [here] at stands
    cases after with
    | reply =>
      obtain ⟨kind, won, told⟩ := stands
      exact Verdict.notStopped kind won (by simp [Call.hearStop, told])
    | finish ending => exact Verdict.started stands.1 stands.2.1
  | portRead here =>
    rw [here] at stands
    obtain ⟨pending, address, bound, published⟩ := stands
    refine ⟨pending, address, bound, ?_⟩
    simp [System.port, published]
  | taken here free =>
    rw [here] at stands
    cases s.slot with
    | none => exact stands
    | some g => exact stands
  | @shut stage next g after port here goesOn =>
    rw [here] at stands
    cases port with
    | none => exact stands
    | some port => exact stands
  | @shutLast stage g after port here last =>
    rw [here] at stands
    cases port with
    | none =>
      obtain ⟨ending, rfl, begun, concluded⟩ := stands
      exact Verdict.started begun concluded
    | some port => exact stands
  | @confirmed after port here =>
    rw [here] at stands
    obtain ⟨pending, bound⟩ := stands
    cases after with
    | reply =>
      obtain ⟨kind, won, told⟩ := pending
      exact Verdict.stopped kind won bound (by simp [Call.hearStop, told])
    | finish ending => exact Verdict.started pending.1 pending.2.1

/-- What is known of a call that has tried to bind. -/
theorem Move.standing_bind (move : Move config world t s c s₁ c') (here : c.point = .bind)
    (stands : Standing config bindings s.localAddress c c.point) :
    Standing config (bindings ++ c.binds world) s₁.localAddress c' c'.point := by
  rw [here] at stands
  obtain ⟨begun, told, unbound⟩ := stands
  cases move with
  | bindCrashed _ crashes => exact ⟨begun, told⟩
  | @bound address _ sound binds =>
    have bound : c.binds world = [address] := by simp [Call.binds, here, sound, binds]
    rw [bound, unbound]
    exact ⟨begun, told, rfl⟩
  | notBound _ sound fails => exact ⟨begun, told⟩
  | _ there => simp [there] at here

/-- A move leaves the published address, or publishes the one of its point. -/
theorem Move.publishes (move : Move config world t s c s₁ c') :
    s₁.localAddress = s.localAddress ∨
      ∃ address, c.point = .publishAddress address ∧ s₁.localAddress = some address := by
  cases move with
  | addressPublished here => exact .inr ⟨_, here, rfl⟩
  | _ => exact .inl rfl

variable {point : Point}

/-- Nothing that is known of a call is lost when the address is published that
was bound. -/
theorem Standing.published (stands : Standing config bindings localAddress c point)
    (publishes : ∀ address, bindings = [address] → localAddress' = some address ∨
      localAddress' = localAddress) :
    Standing config bindings localAddress' c point := by
  have kept : ∀ address, bindings = [address] → localAddress = some address →
      localAddress' = some address := by
    intro address bound known
    rcases publishes address bound with anew | same
    · exact anew
    · exact same.trans known
  cases point with
  | lock address | inspect address =>
    obtain ⟨begun, told, bound, known⟩ := stands
    exact ⟨begun, told, bound, kept address bound known⟩
  | markStarted address g | spawn address g | unlock address g =>
    obtain ⟨begun, told, bound, known⟩ := stands
    exact ⟨begun, told, bound, kept address bound known⟩
  | readPort after =>
    obtain ⟨pending, address, bound, known⟩ := stands
    exact ⟨pending, address, bound, kept address bound known⟩
  | shut stage g after port => cases port <;> exact stands
  | _ => exact stands

theorem not_isBound_nil {port : Port} : ¬ IsBound [] port := by
  rintro ⟨address, bound, -⟩
  simp at bound

/-- What is known of a call that is no start under way, before anything is
bound, does not depend on bindings. -/
theorem Standing.unbegun (stands : Standing config [] localAddress c point)
    (unbegun : ¬ c.Begun) : Standing config bindings localAddress c point := by
  cases point with
  | attemptInit => exact stands
  | attemptStart => exact stands
  | attemptStop after =>
    cases after with
    | reply => exact stands
    | finish ending => exact absurd stands.1 unbegun
  | readPort after =>
    obtain ⟨-, address, bound, -⟩ := stands
    simp at bound
  | take after port => exact absurd stands.2 not_isBound_nil
  | confirm after port => exact absurd stands.2 not_isBound_nil
  | shut stage g after port =>
    cases port with
    | none =>
      obtain ⟨ending, -, begun, -⟩ := stands
      exact absurd begun unbegun
    | some port => exact absurd stands.2 not_isBound_nil
  | ended ending =>
    cases stands with
    | initialized kind won told => exact Verdict.initialized kind won told
    | notInitialized kind won told => exact Verdict.notInitialized kind won told
    | started begun concluded => exact absurd begun unbegun
    | notStarted unbegun told => exact Verdict.notStarted unbegun told
    | stopped kind won bound told => exact absurd bound not_isBound_nil
    | notStopped kind won told => exact Verdict.notStopped kind won told
  | _ => exact absurd stands.1 unbegun

/-! ## Runs -/

/-- A server is as early behind a move as before it, if it is early behind it. -/
theorem Move.early (move : Move config world t s c s₁ c')
    (early : s₁.phase = .created ∨ s₁.phase = .initialized) :
    s.phase = .created ∨ s.phase = .initialized := by
  rcases move.wins with ⟨-, phase⟩ | ⟨edge, -, source, target⟩
  · rw [← phase]
    exact early
  · rw [target] at early
    cases edge with
    | init => exact .inl source
    | beginStart | markStarted | abortStart | beginStop => simp [Transition.target] at early

/-- A server that is started was so before, or is marked now. -/
theorem Move.marks (move : Move config world t s c s₁ c') (started : s₁.phase = .started) :
    s.phase = .started ∨
      ∃ address g, c.point = .markStarted address g ∧ s₁.localAddress = s.localAddress := by
  cases move with
  | initialized here opens => simp at started
  | begun here opens => simp at started
  | marked here opens => exact .inr ⟨_, _, here, rfl⟩
  | aborted here opens => simp at started
  | stopBegun here opens => simp at started
  | _ => exact .inl started

/-- A move publishes no other address than the one that was bound. -/
theorem Settled.publishes (settled : Settled config s bindings) (present : s.calls[t]? = some c)
    (move : Move config world t s c s₁ c') {address : Address} (bound : bindings = [address]) :
    s₁.localAddress = some address ∨ s₁.localAddress = s.localAddress := by
  rcases move.publishes with same | ⟨address', here, anew⟩
  · exact .inr same
  · have stands := settled.standing c (List.mem_of_getElem? present)
    rw [here] at stands
    obtain rfl : address = address' := by simpa [bound] using stands.2.2
    exact .inl anew

/-- Behind a call's attempt to bind. The call holds the beginning of the start,
so nobody else is a start under way. -/
theorem Settled.move_bind (settled : Settled config s bindings)
    (present : s.calls[t]? = some c) (move : Move config world t s c s₁ c')
    (here : c.point = .bind) : Settled config (s₁.place t c') (bindings ++ c.binds world) := by
  have stands := settled.standing c (List.mem_of_getElem? present)
  obtain ⟨begun, told, unbound⟩ : c.Begun ∧ c.told = [] ∧ bindings = [] := by
    rw [here] at stands
    exact stands
  have late := settled.winners.begun present begun.2.1
  refine
    { winners := settled.winners.move present move
      standing := ?_
      unbound := ?_
      published := ?_ }
  · intro d hd
    obtain ⟨j, hj⟩ := List.mem_iff_getElem?.mp hd
    rcases System.place_calls_cases hj with ⟨rfl, rfl⟩ | ⟨other, hj⟩
    · exact move.standing_bind here stands
    · -- Another start under way would have won the beginning a second time.
      rw [move.calls] at hj
      have stands' := (settled.standing d (List.mem_of_getElem? hj)).published
        fun address bound => settled.publishes present move bound
      have unbegun : ¬ d.Begun := by
        intro begun'
        exact other (settled.winners.unique hj present begun'.2.1 begun.2.1)
      rw [unbound] at stands'
      exact stands'.unbegun unbegun
  · intro early
    rcases move.early early with created | initialized
    · exact absurd created late.1
    · exact absurd initialized late.2
  · intro started
    rcases move.marks started with before | ⟨address, g, there, -⟩
    · obtain ⟨address, bound, -⟩ := settled.published before
      simp [unbound] at bound
    · simp [here] at there

/-- Behind any other step of a call. -/
theorem Settled.move_elsewhere (settled : Settled config s bindings)
    (present : s.calls[t]? = some c) (move : Move config world t s c s₁ c')
    (elsewhere : c.point ≠ .bind) : Settled config (s₁.place t c') bindings := by
  have stands := settled.standing c (List.mem_of_getElem? present)
  refine
    { winners := settled.winners.move present move
      standing := ?_
      unbound := fun early => settled.unbound (move.early early)
      published := ?_ }
  · intro d hd
    obtain ⟨j, hj⟩ := List.mem_iff_getElem?.mp hd
    rcases System.place_calls_cases hj with ⟨rfl, rfl⟩ | ⟨-, hj⟩
    · exact move.standing elsewhere stands settled.unbound settled.published
    · rw [move.calls] at hj
      exact (settled.standing d (List.mem_of_getElem? hj)).published
        fun address bound => settled.publishes present move bound
  · intro started
    rcases move.marks started with before | ⟨address, g, there, same⟩
    · obtain ⟨address, bound, known⟩ := settled.published before
      rcases settled.publishes present move bound with anew | same
      · exact ⟨address, bound, anew⟩
      · exact ⟨address, bound, same.trans known⟩
    · rw [there] at stands
      obtain ⟨-, -, bound, known⟩ := stands
      exact ⟨address, bound, same.trans known⟩

theorem Settled.move (settled : Settled config s bindings) (present : s.calls[t]? = some c)
    (move : Move config world t s c s₁ c') :
    Settled config (s₁.place t c') (bindings ++ c.binds world) := by
  by_cases here : c.point = .bind
  · exact settled.move_bind present move here
  · rw [Call.binds_of_point here, List.append_nil]
    exact settled.move_elsewhere present move here

theorem Settled.enter (settled : Settled config s bindings) (kind : Kind) (listened : Bool) :
    Settled config (s.enter kind listened) bindings := by
  have made : s.step config (.call kind listened) = some (s.enter kind listened) := rfl
  refine
    { winners := settled.winners.step made
      standing := ?_
      unbound := settled.unbound
      published := settled.published }
  intro d hd
  rcases List.mem_append.mp hd with old | anew
  · exact settled.standing d old
  · obtain rfl := List.mem_singleton.mp anew
    cases kind with
    | init => exact ⟨.inl rfl, rfl, rfl⟩
    | start => exact ⟨.inl ⟨rfl, rfl⟩, rfl⟩
    | stop => exact ⟨rfl, rfl, rfl⟩
    | boot => exact ⟨.inr rfl, rfl, rfl⟩

theorem Settled.step {label : Label} (settled : Settled config s bindings)
    (made : s.step config label = some s') :
    Settled config s' (bindings ++ s.bound label) := by
  cases step_cases made with
  | called kind listened =>
    show Settled config (s.enter kind listened) (bindings ++ [])
    rw [List.append_nil]
    exact settled.enter kind listened
  | @moved t world c c' s₁ present move =>
    have bound : s.bound (.advance t world) = c.binds world := by
      simp [System.bound, present]
    rw [bound]
    exact settled.move present move
  | looped present goes =>
    show Settled config _ (bindings ++ [])
    rw [List.append_nil]
    exact { settled with }
  | tasked present goes =>
    show Settled config _ (bindings ++ [])
    rw [List.append_nil]
    exact { settled with }

theorem Settled.fresh : Settled config .fresh [] where
  winners := .fresh
  standing := by simp [System.fresh]
  unbound := fun _ => rfl
  published := by simp [System.fresh]

/-- **Where the calls stand after any run.** -/
theorem History.settled (history : History config s bindings) : Settled config s bindings := by
  induction history with
  | new => exact .fresh
  | step label before made ih => exact ih.step made

end PacketServer.Server
