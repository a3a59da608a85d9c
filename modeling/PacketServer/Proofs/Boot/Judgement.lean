import PacketServer.Proofs.Boot.Errands

/-!
# What a boot job tells its chain

The first event of a job that boots a server is what its errand's findings
decide: to proceed, one of two failures, or the interruption of a thread that
broke off.

## Main results

* `Errand.Kept.verdict` — the first event is what the findings decide.
* `Errand.Kept.judged` — what the first event says of the call.
-/

namespace PacketServer.Boot

variable {config : Config} {s : Ensemble} {e : Errand} {call : Server.Call} {c : Chain}
  {line : Line} {event : Signal}

/-- **The first event is what the findings decide.** -/
theorem Errand.Kept.verdict (kept : e.Kept config s call c line)
    (known : line.firstEvent? = some event) :
    Boot.verdict config.port line.job e.met = some event ∧
      (e.met = [.initialized, .begun, .broke] ∨
        callSignals config.port call = [event] ∧ (event = .proceed → .markStarted ∈ call.won)) := by
  unfold Line.firstEvent? at known
  cases first : line.sent.head? with
  | some signal =>
    obtain rfl : signal = event := by simpa [first] using known
    rw [kept.sent] at first
    have owed : signal ∈ callSignals config.port call :=
      List.mem_of_mem_take (List.mem_of_head? first)
    rcases kept.abreast.decided config.port line.job 0 with
      ⟨-, none⟩ | ⟨-, ⟨none, -⟩ | ⟨signal', decided, one, marked⟩⟩
    · simp [none] at owed
    · simp [none] at owed
    · obtain rfl : signal = signal' := by simpa [one] using owed
      exact ⟨decided, .inr ⟨one, marked⟩⟩
  | none =>
    by_cases given : line.handles = 0
    · obtain rfl : .abort (.interrupted line.job) = event := by simpa [first, given] using known
      have handles := kept.handles
      obtain ⟨ended, all⟩ := kept.done (by omega)
      have silent : callSignals config.port call = [] := by
        rwa [List.head?_eq_none_iff, kept.sent, ← all, List.take_length] at first
      rw [kept.abreast.met_of_silent (ahead_of_ended 0 ended) silent]
      exact ⟨rfl, .inl rfl⟩
    · simp [first, given] at known

/-- What the first event of a boot job says of its call: what the call won, what
its errand met, and what its listener was told. -/
structure Judged (config : Config) (met : List Finding) (call : Server.Call) (event : Signal) :
    Prop where
  /-- To proceed says that the call won the initialization and the start, and
  that the address was bound. -/
  proceeds : event = .proceed ↔ .init ∈ call.won ∧ .beginStart ∈ call.won ∧ .bound ∈ met
  /-- The call marked the server started before. -/
  marked : event = .proceed → .markStarted ∈ call.won
  /-- The one failure says that the server had been initialized before. -/
  notInitialized :
    (∃ cause, event = .abort (.job "init server failure" cause)) ↔ .notInitialized ∈ met
  /-- The call won nothing then. -/
  nothing : .notInitialized ∈ met → call.won = []
  /-- The other failure says that the call won the initialization, but not the
  start, or that the address was not bound. -/
  notStarted : (∃ cause, event = .abort (.job (startFailure config.port) cause)) ↔
    .init ∈ call.won ∧ (.beginStart ∉ call.won ∨ ∃ cause, .failed cause ∈ met)
  /-- It carries what the listener was told, which is what went wrong. -/
  cause : ∀ cause, event = .abort (.job (startFailure config.port) cause) → ∃ fault,
    cause = some fault ∧ call.told = [.error fault] ∧
      (.beginStart ∉ call.won → fault = .lifecycle .notStartable) ∧
        ∀ fault', .failed fault' ∈ met → fault' = fault
  /-- An interruption says that the thread broke off. -/
  interrupted : (∃ job, event = .abort (.interrupted job)) ↔ .broke ∈ met

/-- **What the first event says of the call.** -/
theorem Errand.Kept.judged (kept : e.Kept config s call c line)
    (known : line.firstEvent? = some event) : Judged config e.met call event := by
  obtain ⟨decided, owed⟩ := kept.verdict known
  have apart := startFailure_ne config.port
  have won : .init ∈ call.won ↔ .initialized ∈ e.met := kept.tells.initialized.symm
  have begun : .beginStart ∈ call.won ↔ .begun ∈ e.met := kept.tells.begun.symm
  have told {cause : Fault} (sound : .broke ∉ e.met) (initialized : .initialized ∈ e.met)
      (fails : event = .abort (.job (startFailure config.port) (some cause))) :
      call.told = [.error cause] := by
    have one := (owed.resolve_left fun broke => sound (by simp [broke])).1
    rw [callSignals_of_init config.port (won.mpr initialized), fails] at one
    obtain ⟨outcome, told, same⟩ := List.map_eq_singleton_iff.mp one
    cases outcome <;> simp_all [toldSignal]
  unfold Boot.verdict at decided
  split at decided
  · rename_i met
    cases decided
    have nothing := kept.abreast.nothing (by simp [met])
    constructor <;> simp [met, nothing, apart.symm]
  · rename_i met
    cases decided
    have told := told (by simp [met]) (by simp [met]) rfl
    constructor <;> simp [met, won, begun, apart, told]
  · rename_i met
    cases decided
    have told := told (by simp [met]) (by simp [met]) rfl
    constructor <;> simp [met, won, begun, apart, told]
  · rename_i met
    cases decided
    have marked := (owed.resolve_left (by simp [met])).2 rfl
    constructor <;> simp [met, won, begun, marked]
  · rename_i met
    cases decided
    constructor <;> simp [met, won, begun]
  · cases decided

end PacketServer.Boot
