import PacketServer.Boot.Ensemble
import PacketServer.Proofs.Server.Run
import PacketServer.Proofs.Server.Ownership

/-!
# What an errand meets, and what it signals

An errand is at the point of its boot call that its findings lead to. They say
what the call won, what its listener was told and how the call ends; so the
signals that the errand owes its chain are none, or the one that its findings
decide. Each step of the call brings the errand nearer to its signal, or to its
end if its thread broke off, and none of these steps has to wait.

## Main results

* `Abreast.move` — a step of a boot call leads where the findings say.
* `Abreast.decided` — an errand owes the signal that its findings decide.
* `Abreast.nearer`, `Abreast.goesOn` — how far an errand is from its signal, and
  that it can go on.
* `Move.meets` — what a step meets, and what it wins by it.
-/

namespace PacketServer.Boot

open Server (World System Move Holding Standing Custody)

variable {config : Config} {world : World} {s s₁ : System} {t : Nat} {c c' : Server.Call}
  {met : List Finding} {port : Port} {job : String} {cause : Fault} {signal : Signal}

/-! ## What findings decide -/

/-- The message of a boot job whose server could not be started. -/
def startFailure (port : Port) : String := "start server failure, port=" ++ port.text

theorem startFailure_ne (port : Port) : startFailure port ≠ "init server failure" := by
  unfold startFailure
  generalize port.text = text
  intro same
  have start : "start server failure, port=".toList.head? = some 's' := by decide
  have init : "init server failure".toList.head? = some 'i' := by decide
  rw [← same, String.toList_append, List.head?_append, start] at init
  simp at init

/-- What an errand signals, or the interruption of its job if its thread broke
off, once its findings decide it. -/
def verdict (port : Port) (job : String) : List Finding → Option Signal
  | [.notInitialized] =>
    some (.abort (.job "init server failure" (some (.lifecycle .alreadyInitialized))))
  | [.initialized, .notBegun] =>
    some (.abort (.job (startFailure port) (some (.lifecycle .notStartable))))
  | [.initialized, .begun, .failed cause] =>
    some (.abort (.job (startFailure port) (some cause)))
  | [.initialized, .begun, .bound] => some .proceed
  | [.initialized, .begun, .broke] => some (.abort (.interrupted job))
  | _ => none

/-- How a start that has begun came out, by the edges that it won and what its
listener was told. -/
inductive Outcome (won : List Transition) (told : List (Except Fault Port)) :
    List Finding → Server.Ending → Prop
  | bound {port : Port} {ending : Server.Ending} (success : told = [.ok port])
      (marked : .markStarted ∈ won) : Outcome won told [.initialized, .begun, .bound] ending
  | failed {cause : Fault} {ending : Server.Ending} (failure : told = [.error cause]) :
      Outcome won told [.initialized, .begun, .failed cause] ending
  | broke (silent : told = []) : Outcome won told [.initialized, .begun, .broke] .crash

/-- A boot call that goes on has told its listener nothing. -/
def Underway (c : Server.Call) (met expected : List Finding) : Prop :=
  met = expected ∧ .init ∈ c.won ∧ c.told = []

/-- How a boot call ended. -/
inductive Closing (won : List Transition) (told : List (Except Fault Port)) :
    List Finding → Server.Ending → Prop
  | notInitialized (none : won = []) (silent : told = []) :
      Closing won told [.notInitialized] (.answer (.error (.lifecycle .alreadyInitialized)))
  | notBegun (initialized : .init ∈ won) (failure : told = [.error (.lifecycle .notStartable)]) :
      Closing won told [.initialized, .notBegun] (.answer (.error (.lifecycle .notStartable)))
  | started {met : List Finding} {ending : Server.Ending} (initialized : .init ∈ won)
      (outcome : Outcome won told met ending) : Closing won told met ending

/-- The boot call is at the point that the findings lead to. -/
def Abreast (c : Server.Call) (met : List Finding) : Server.Point → Prop
  | .attemptInit => met = [] ∧ c.won = [] ∧ c.told = []
  | .attemptStart => Underway c met [.initialized]
  | .build | .store _ | .bind | .lookUp _ => Underway c met [.initialized, .begun]
  | .publishPool _ | .publishAddress _ | .lock _ | .inspect _ | .markStarted .. | .spawn ..
  | .unlock .. | .announce .. => Underway c met [.initialized, .begun, .bound]
  | .reportFailure cause => Underway c met [.initialized, .begun, .failed cause]
  | .awaitLoop _ => .init ∈ c.won ∧ ∀ ending, Outcome c.won c.told met ending
  | .cleanUp ending | .abort ending | .takeAborted ending | .attemptStop (.finish ending)
  | .readPort (.finish ending) | .take (.finish ending) _ | .shut _ _ (.finish ending) _
  | .confirm (.finish ending) _ => .init ∈ c.won ∧ Outcome c.won c.told met ending
  | .ended ending => Closing c.won c.told met ending
  | .attemptStop .reply | .readPort .reply | .take .reply _ | .shut _ _ .reply _
  | .confirm .reply _ => False

theorem Outcome.win {won : List Transition} {told : List (Except Fault Port)}
    {ending : Server.Ending} (outcome : Outcome won told met ending) (edge : Transition) :
    Outcome (won ++ [edge]) told met ending := by
  cases outcome with
  | bound success marked => exact .bound success (List.mem_append_left _ marked)
  | failed failure => exact .failed failure
  | broke silent => exact .broke silent

/-- **A step of a boot call leads where the findings say.** -/
theorem Abreast.move (abreast : Abreast c met c.point) (move : Move config world t s c s₁ c')
    (kind : c.kind = .boot) (listened : c.listened = true)
    (holds : Holding s.shared t c c.point) :
    Abreast c' (met ++ findings s.phase world c.point) c'.point := by
  -- Most steps find nothing.
  have quiet {point : Server.Point} (here : c.point = point)
      (nothing : findings s.phase world point = [])
      (leads : Abreast c met point → Abreast c' met c'.point) :
      Abreast c' (met ++ findings s.phase world c.point) c'.point := by
    rw [here, nothing, List.append_nil]
    rw [here] at abreast
    exact leads abreast
  have found {point : Server.Point} (finding : Finding) (here : c.point = point)
      (finds : findings s.phase world point = [finding])
      (leads : Abreast c met point → Abreast c' (met ++ [finding]) c'.point) :
      Abreast c' (met ++ findings s.phase world c.point) c'.point := by
    rw [here, finds]
    rw [here] at abreast
    exact leads abreast
  cases move with
  | initialized here opens =>
    refine found .initialized here (by simp [findings, opens]) ?_
    rintro ⟨rfl, won, told⟩
    rw [if_pos kind]
    exact ⟨rfl, List.mem_append_right _ (List.mem_singleton_self _), told⟩
  | notInitialized here closed =>
    refine found .notInitialized here (by simp [findings, closed]) ?_
    rintro ⟨rfl, won, told⟩
    exact Closing.notInitialized won told
  | begun here opens =>
    refine found .begun here (by simp [findings, opens]) ?_
    rintro ⟨rfl, won, told⟩
    exact ⟨rfl, List.mem_append_left _ won, told⟩
  | notBegun here closed =>
    refine found .notBegun here (by simp [findings, closed]) ?_
    rintro ⟨rfl, won, told⟩
    exact Closing.notBegun won (by simp [Server.Call.heard, told, listened])
  | buildCrashed here crashes | bindCrashed here crashes =>
    refine found .broke here (by simp [findings, crashes]) ?_
    rintro ⟨rfl, won, told⟩
    exact ⟨won, .broke told⟩
  | notBuilt here sound fails | notBound here sound fails =>
    refine found (.failed _) here (by simp [findings, sound, fails]; rfl) ?_
    rintro ⟨rfl, won, told⟩
    exact ⟨rfl, won, told⟩
  | notLookedUp here fails =>
    refine found (.failed _) here (by simp [findings, fails]; rfl) ?_
    rintro ⟨rfl, won, told⟩
    exact ⟨rfl, won, told⟩
  | lookedUp here finds =>
    refine found .bound here (by simp [findings, finds]) ?_
    rintro ⟨rfl, won, told⟩
    exact ⟨rfl, won, told⟩
  | built here sound goes | bound here sound goes =>
    exact quiet here (by simp [findings, sound, goes]) id
  | stored here | poolPublished here | addressPublished here | locked here | found here
  | spawned here | unlocked here | cleanStarting here | cleanStarted here => exact quiet here rfl id
  | missed here empty =>
    rw [here] at holds
    exact absurd (empty.symm.trans holds.2.1.2) (by simp)
  | marked here opens =>
    refine quiet here rfl fun abreast => ?_
    exact ⟨abreast.1, List.mem_append_left _ abreast.2.1, abreast.2.2⟩
  | notMarked here closed =>
    rw [here] at holds
    exact absurd holds.1 closed
  | @announced port g here =>
    rw [here] at holds
    refine quiet here rfl ?_
    rintro ⟨rfl, won, told⟩
    have success : (c.hear (.ok port)).told = [.ok port] := by
      simp [Server.Call.heard, told, listened]
    exact ⟨won, fun ending => .bound success holds.1⟩
  | loopEnded here isOver => exact quiet here rfl fun abreast => ⟨abreast.1, abreast.2 _⟩
  | failureReported here =>
    refine quiet here rfl ?_
    rintro ⟨rfl, won, told⟩
    exact ⟨won, .failed (by simp [Server.Call.heard, told, listened])⟩
  | clean here | notAborted here =>
    exact quiet here rfl fun abreast => Closing.started abreast.1 abreast.2
  | aborted here opens =>
    exact quiet here rfl fun abreast => ⟨List.mem_append_left _ abreast.1, abreast.2.win _⟩
  | abortedTaken here free =>
    refine quiet here rfl fun abreast => ?_
    cases s.slot with
    | none => exact Closing.started abreast.1 abreast.2
    | some g => exact abreast
  | @stopBegun after here opens =>
    refine quiet here rfl fun abreast => ?_
    cases after with
    | reply => exact abreast.elim
    | finish ending => exact ⟨List.mem_append_left _ abreast.1, abreast.2.win _⟩
  | @stopLost after here | @confirmed after _ here =>
    refine quiet here rfl fun abreast => ?_
    cases after with
    | reply => exact abreast.elim
    | finish ending => exact Closing.started abreast.1 abreast.2
  | @portRead after here | @shut _ _ _ after _ here =>
    refine quiet here rfl fun abreast => ?_
    cases after <;> exact abreast
  | @taken after port here free =>
    refine quiet here rfl fun abreast => ?_
    cases after with
    | reply => exact abreast.elim
    | finish ending => cases s.slot <;> exact abreast
  | @shutLast stage g after port here last =>
    refine quiet here rfl fun abreast => ?_
    cases after with
    | reply => exact abreast.elim
    | finish ending =>
      cases port with
      | none => exact Closing.started abreast.1 abreast.2
      | some port => exact abreast

/-! ## What a step meets -/

/-- What a step of a call meets: an edge of a start that it wins, the breaking
off of its thread, which builds groups or binds, or something else. -/
inductive Meets (c c' : Server.Call) : List Finding → Prop
  | initialized (won : c'.won = c.won ++ [.init]) : Meets c c' [.initialized]
  | begun (won : c'.won = c.won ++ [.beginStart]) : Meets c c' [.begun]
  | broke (here : c.point = .build ∨ c.point = .bind) (there : c'.point = .cleanUp .crash)
      (same : c'.won = c.won) : Meets c c' [.broke]
  | other {met : List Finding}
      (others : .initialized ∉ met ∧ .begun ∉ met ∧ .broke ∉ met)
      (kept : ∀ edge, edge = .init ∨ edge = .beginStart → (edge ∈ c'.won ↔ edge ∈ c.won)) :
      Meets c c' met

/-- **What a step of a call meets**, and what it wins by it. -/
theorem Move.meets (move : Move config world t s c s₁ c') :
    Meets c c' (findings s.phase world c.point) := by
  cases move with
  | initialized here opens =>
    rw [show findings s.phase world c.point = [.initialized] by simp [here, findings, opens]]
    exact .initialized rfl
  | begun here opens =>
    rw [show findings s.phase world c.point = [.begun] by simp [here, findings, opens]]
    exact .begun rfl
  | buildCrashed here crashes =>
    rw [show findings s.phase world c.point = [.broke] by simp [here, findings, crashes]]
    exact .broke (.inl here) rfl rfl
  | bindCrashed here crashes =>
    rw [show findings s.phase world c.point = [.broke] by simp [here, findings, crashes]]
    exact .broke (.inr here) rfl rfl
  | notInitialized here closed | notBegun here closed =>
    exact .other (by simp [here, findings, closed]) fun _ _ => Iff.rfl
  | built here sound done | notBuilt here sound done | bound here sound done
  | notBound here sound done =>
    exact .other (by simp [here, findings, sound, done]) fun _ _ => Iff.rfl
  | lookedUp here done | notLookedUp here done =>
    exact .other (by simp [here, findings, done]) fun _ _ => Iff.rfl
  | marked here | aborted here | stopBegun here =>
    refine .other (by simp [here, findings]) fun edge one => ?_
    rcases one with rfl | rfl <;> simp [Server.Call.goto]
  | stopLost here | confirmed here =>
    exact .other (by simp [here, findings]) fun edge _ => by simp [Server.Call.goto]
  | _ here => exact .other (by simp [here, findings]) fun _ _ => Iff.rfl

/-- Findings tell the edges of a start that its call won. -/
structure Tells (c : Server.Call) (met : List Finding) : Prop where
  initialized : .initialized ∈ met ↔ .init ∈ c.won
  begun : .begun ∈ met ↔ .beginStart ∈ c.won

theorem Tells.meets {more : List Finding} (tells : Tells c met) (meets : Meets c c' more) :
    Tells c' (met ++ more) := by
  obtain ⟨initialized, begun⟩ := tells
  cases meets with
  | initialized won => constructor <;> simp [won, begun]
  | begun won => constructor <;> simp [won, initialized]
  | broke here there same => constructor <;> simp [same, initialized, begun]
  | other others kept =>
    obtain ⟨notInitialized, notBegun, -⟩ := others
    constructor
    · simp [notInitialized, initialized, kept .init (.inl rfl)]
    · simp [notBegun, begun, kept .beginStart (.inr rfl)]

/-! ## What an errand owes -/

/-- What a listener of a boot call signals of an outcome. -/
def toldSignal (port : Port) : Except Fault Port → Signal
  | .ok _ => .proceed
  | .error cause => .abort (.job (startFailure port) (some cause))

theorem callSignals_of_init (port : Port) (won : .init ∈ c.won) :
    callSignals port c = c.told.map (toldSignal port) := by
  unfold callSignals
  rw [if_pos won]
  refine List.map_congr_left fun outcome _ => ?_
  cases outcome <;> rfl

/-- Findings decide the one signal of the call, or its thread broke off. It is to
proceed only when the call has marked the server started. -/
def Decided (port : Port) (job : String) (c : Server.Call) (met : List Finding) : Prop :=
  (callSignals port c = [] ∧ met = [.initialized, .begun, .broke]) ∨
    ∃ signal, verdict port job met = some signal ∧ callSignals port c = [signal] ∧
      (signal = .proceed → .markStarted ∈ c.won)

theorem Outcome.decided {ending : Server.Ending} (outcome : Outcome c.won c.told met ending)
    (won : .init ∈ c.won) (port : Port) (job : String) : Decided port job c met := by
  unfold Decided
  rw [callSignals_of_init port won]
  cases outcome with
  | bound success marked => exact .inr ⟨_, rfl, by simp [success, toldSignal], fun _ => marked⟩
  | failed failure => exact .inr ⟨_, rfl, by simp [failure, toldSignal], by simp⟩
  | broke silent => exact .inl ⟨by simp [silent], rfl⟩

theorem Closing.decided {ending : Server.Ending} (closing : Closing c.won c.told met ending)
    (here : c.point = .ended ending) (port : Port) (job : String) : Decided port job c met := by
  cases closing with
  | notInitialized none silent =>
    refine .inr ⟨_, rfl, ?_, by simp⟩
    simp [callSignals, none, Server.Call.answer, here]
  | notBegun initialized failure =>
    refine .inr ⟨_, rfl, ?_, by simp⟩
    rw [callSignals_of_init port initialized]
    simp [failure, toldSignal]
  | started initialized outcome => exact outcome.decided initialized port job

/-- A call that goes on has met the initialization, unless it is about to
attempt it. -/
theorem Abreast.initialized (abreast : Abreast c met c.point) (elsewhere : c.point ≠ .attemptInit)
    (unended : c.ending = none) : .initialized ∈ met := by
  have outcome {ending : Server.Ending} (outcome : Outcome c.won c.told met ending) :
      .initialized ∈ met := by
    cases outcome <;> simp
  cases here : c.point with
  | attemptInit => exact absurd here elsewhere
  | ended ending => simp [Server.Call.ending, here] at unended
  | awaitLoop g =>
    rw [here] at abreast
    exact outcome (abreast.2 .crash)
  | cleanUp | abort | takeAborted =>
    rw [here] at abreast
    exact outcome abreast.2
  | attemptStop after | readPort after | take after | shut _ _ after | confirm after =>
    rw [here] at abreast
    cases after with
    | reply => exact abreast.elim
    | finish ending => exact outcome abreast.2
  | _ =>
    rw [here] at abreast
    simp [show met = _ from abreast.1]

/-- A call that has not met the initialization has won nothing. -/
theorem Abreast.nothing (abreast : Abreast c met c.point) (late : .initialized ∉ met) :
    c.won = [] := by
  cases here : c.point with
  | attemptInit =>
    rw [here] at abreast
    exact abreast.2.1
  | ended ending =>
    rw [here] at abreast
    cases abreast with
    | notInitialized none silent => exact none
    | notBegun => simp at late
    | started initialized outcome => cases outcome <;> simp at late
  | _ =>
    have unended : c.ending = none := by simp [Server.Call.ending, here]
    exact absurd (abreast.initialized (by simp [here]) unended) late

/-- **An errand that has not initialized the server changes nothing** on it. -/
theorem Abreast.harmless (abreast : Abreast c met c.point) (move : Move config world t s c s₁ c')
    (late : .initialized ∉ met ++ findings s.phase world c.point) : s₁ = s := by
  have here : c.point = .attemptInit := by
    refine Classical.byContradiction fun elsewhere => late ?_
    exact List.mem_append_left _ (abreast.initialized elsewhere move.unended)
  cases move with
  | initialized _ opens => simp [here, findings, opens] at late
  | notInitialized => rfl
  | _ there => simp [there] at here

/-- How many steps an errand with some handles has to make at most until it has
signalled, by the point of its call; the last of them is to signal. -/
def ahead (handles : Nat) : Server.Point → Nat
  | .attemptInit => 16
  | .attemptStart => if handles = 1 then 15 else 14
  | .build => 13
  | .store _ => 12
  | .bind => 11
  | .lookUp _ => 10
  | .publishPool _ => 9
  | .publishAddress _ => 8
  | .lock _ => 7
  | .inspect _ => 6
  | .markStarted .. => 5
  | .spawn .. => 4
  | .unlock .. => 3
  | .announce .. | .reportFailure _ => 2
  | _ => 1

/-- How many steps an errand whose thread broke off has to make at most until it
has given up its handles, behind the end of its start. -/
def trailing (handles : Nat) : Server.Point → Nat
  | .cleanUp _ => handles + 12
  | .attemptStop _ => handles + 11
  | .abort _ | .readPort _ => handles + 10
  | .takeAborted _ | .take .. => handles + 9
  | .shut stage .. => handles + 1 + stage.left
  | .confirm .. => handles + 1
  | _ => handles

theorem ahead_attemptStart (handles : Nat) :
    13 < ahead handles .attemptStart ∧ ahead handles .attemptStart ≤ 15 := by
  simp only [ahead]
  split <;> decide

theorem Underway.signals {expected : List Finding} (under : Underway c met expected) (port : Port) :
    callSignals port c = [] := by
  rw [callSignals_of_init port under.2.1, under.2.2]
  rfl

/-- **An errand owes the signal that its findings decide**, or owes nothing so
far. -/
theorem Abreast.decided (abreast : Abreast c met c.point) (port : Port) (job : String)
    (handles : Nat) :
    (1 < ahead handles c.point ∧ callSignals port c = []) ∨
      (ahead handles c.point = 1 ∧ Decided port job c met) := by
  cases here : c.point with
  | attemptInit =>
    rw [here] at abreast
    refine .inl ⟨by simp [ahead], ?_⟩
    simp [callSignals, abreast.2.1, Server.Call.answer, here]
  | attemptStart =>
    rw [here] at abreast
    have far := ahead_attemptStart handles
    exact .inl ⟨by omega, Underway.signals abreast port⟩
  | build | store | bind | lookUp | publishPool | publishAddress | lock | inspect | markStarted
  | spawn | unlock | announce | reportFailure =>
    rw [here] at abreast
    exact .inl ⟨by simp [ahead], Underway.signals abreast port⟩
  | awaitLoop g =>
    rw [here] at abreast
    exact .inr ⟨rfl, (abreast.2 .crash).decided abreast.1 port job⟩
  | cleanUp | abort | takeAborted =>
    rw [here] at abreast
    exact .inr ⟨rfl, abreast.2.decided abreast.1 port job⟩
  | attemptStop after | readPort after | take after | shut _ _ after | confirm after =>
    rw [here] at abreast
    cases after with
    | reply => exact abreast.elim
    | finish ending => exact .inr ⟨rfl, abreast.2.decided abreast.1 port job⟩
  | ended ending =>
    rw [here] at abreast
    exact .inr ⟨rfl, Closing.decided abreast here port job⟩

theorem Abreast.signals (abreast : Abreast c met c.point) (port : Port) :
    callSignals port c = [] ∨ ∃ signal, callSignals port c = [signal] := by
  rcases abreast.decided port "" 0 with ⟨-, none⟩ | ⟨-, ⟨none, -⟩ | ⟨signal, -, one, -⟩⟩
  · exact .inl none
  · exact .inl none
  · exact .inr ⟨signal, one⟩

/-- A call that is about to signal, or beyond that, and owes nothing has broken
off. -/
theorem Abreast.met_of_silent {handles : Nat} (abreast : Abreast c met c.point)
    (late : ahead handles c.point = 1) (silent : callSignals port c = []) :
    met = [.initialized, .begun, .broke] := by
  rcases abreast.decided port "" handles with ⟨far, -⟩ | ⟨-, ⟨-, broke⟩ | ⟨signal, -, one, -⟩⟩
  · omega
  · exact broke
  · simp [silent] at one

theorem ahead_of_ended (handles : Nat) (ended : c.ending.isSome = true) :
    ahead handles c.point = 1 := by
  obtain ⟨ending, here⟩ := Server.Call.ended_of_isSome ended
  rw [here]
  rfl

theorem Move.told_grows (move : Move config world t s c s₁ c') : c.told <+: c'.told := by
  have heard (outcome : Except Fault Port) : c.told <+: (c.hear outcome).told :=
    ⟨_, (Server.Call.hear_told ..).symm⟩
  have heardStop (after : Server.After) (outcome : Except Fault Port) :
      c.told <+: (c.hearStop after outcome).told := by
    cases after with
    | reply => exact heard outcome
    | finish ending => exact List.prefix_refl _
  cases move with
  | notBegun | announced | failureReported => exact heard _
  | stopLost | confirmed => exact heardStop _ _
  | _ => exact List.prefix_refl _

/-- **What an errand owes stays what it is.** -/
theorem Abreast.owes (abreast : Abreast c' met c'.point) (move : Move config world t s c s₁ c')
    (owed : callSignals port c = [signal]) : callSignals port c' = [signal] := by
  have unended := move.unended
  by_cases won : .init ∈ c.won
  · have grows := (Move.told_grows move).map (toldSignal port)
    rw [← callSignals_of_init port won, ← callSignals_of_init port (move.keeps_won won), owed]
      at grows
    rcases abreast.signals port with none | ⟨signal', one⟩
    · simp [none] at grows
    · rw [one] at grows ⊢
      simpa using grows.eq_of_length rfl |>.symm
  · -- Without the initialization the call would have ended.
    rw [callSignals, if_neg won] at owed
    cases answer : c.answer with
    | none => simp [answer] at owed
    | some result => simp [Server.Call.ending_of_answer answer] at unended

/-- The call of an errand whose thread broke off is being cleaned up. -/
theorem Abreast.closing (abreast : Abreast c met c.point) (broke : .broke ∈ met) :
    (∃ ending, c.point = .ended ending) ∨ trailing 0 c.point ≠ 0 := by
  cases here : c.point with
  | ended ending => exact .inl ⟨ending, rfl⟩
  | cleanUp | abort | takeAborted | attemptStop | readPort | take | shut | confirm =>
    exact .inr (by simp [trailing])
  | attemptInit | attemptStart | build | store | bind | lookUp | publishPool | publishAddress
  | lock | inspect | markStarted | spawn | unlock | announce | reportFailure =>
    rw [here] at abreast
    simp [show met = _ from abreast.1] at broke
  | awaitLoop g =>
    rw [here] at abreast
    -- Who waits for the loop could end with an answer.
    cases abreast.2 (.answer (.ok ())) <;> simp at broke

/-- An errand whose thread broke off goes on to give up its handles. -/
theorem Abreast.trails (abreast : Abreast c met c.point) (move : Move config world t s c s₁ c')
    (broke : .broke ∈ met) (handles : Nat) :
    trailing handles c'.point < trailing handles c.point := by
  have unended := move.unended
  rcases abreast.closing broke with ⟨ending, here⟩ | closes
  · simp [Server.Call.ending, here] at unended
  cases move with
  | cleanStarting here | cleanStarted here | clean here | aborted here | notAborted here
  | stopBegun here | portRead here =>
    rw [here]
    simp [trailing, Server.Call.goto]
  | abortedTaken here =>
    rw [here]
    cases s.slot <;>
      simp [trailing, Server.Call.goto, Server.After.taken, Server.After.resume,
        Server.ShutdownStage.left]
  | taken here =>
    rw [here]
    cases s.slot <;>
      simp [trailing, Server.Call.goto, Server.After.taken, Server.After.resume,
        Server.ShutdownStage.left]
  | stopLost here | confirmed here =>
    rw [here]
    rename_i after _
    cases after <;> simp [trailing, Server.Call.goto, Server.After.answered]
  | shut here goesOn =>
    rw [here]
    have next := Server.ShutdownStage.next_left goesOn
    simp [trailing, Server.Call.goto, next]
  | @shutLast stage g after port here last =>
    rw [here]
    have pos := stage.left_pos
    cases port <;> cases after <;>
      simp [trailing, Server.Call.goto, Server.After.resume] <;> omega
  | _ here => simp [here, trailing] at closes

/-- An errand whose thread goes on comes nearer to its signal. -/
theorem Abreast.advances {handles : Nat} (abreast : Abreast c met c.point)
    (move : Move config world t s c s₁ c') (silent : callSignals port c = [])
    (unbroken : .broke ∉ met ++ findings s.phase world c.point)
    (cloned : c.point = .attemptStart → handles ≠ 1) :
    ahead handles c'.point < ahead handles c.point := by
  have early : ahead handles c.point ≠ 1 := by
    intro late
    simp [abreast.met_of_silent late silent] at unbroken
  cases move with
  | initialized here opens =>
    have far := ahead_attemptStart handles
    rw [here]
    show ahead handles (if c.kind = .boot then .attemptStart else .returned (.ok ())) < 16
    split
    · omega
    · simp [ahead]
  | notInitialized here =>
    rw [here]
    simp [ahead, Server.Call.goto]
  | begun here | notBegun here =>
    rw [here]
    simp [ahead, cloned here, Server.Call.goto]
  | buildCrashed here crashes | bindCrashed here crashes =>
    simp [here, findings, crashes] at unbroken
  | built here | notBuilt here | stored here | bound here | notBound here | lookedUp here
  | notLookedUp here | poolPublished here | addressPublished here | locked here | found here
  | missed here | marked here | notMarked here | spawned here | unlocked here | announced here
  | failureReported here =>
    rw [here]
    simp [ahead, Server.Call.goto]
  | _ here => simp [here, ahead] at early

/-- How many steps an errand has left at most until it has signalled, or given
up its handles without a signal. -/
def left (met : List Finding) (handles : Nat) (point : Server.Point) : Nat :=
  if .broke ∈ met then trailing handles point else 4 + ahead handles point

/-- **An errand comes nearer to its end** with each step of its call. -/
theorem Abreast.nearer {handles : Nat} (abreast : Abreast c met c.point)
    (move : Move config world t s c s₁ c') (silent : callSignals port c = [])
    (cloned : c.point = .attemptStart → handles ≠ 1) (few : handles ≤ 2) :
    left (met ++ findings s.phase world c.point) handles c'.point < left met handles c.point := by
  have meets := Move.meets move
  by_cases broken : .broke ∈ met
  · have trails := abreast.trails move broken handles
    simpa [left, broken] using trails
  by_cases breaks : .broke ∈ findings s.phase world c.point
  · obtain ⟨here, there⟩ : (c.point = .build ∨ c.point = .bind) ∧ c'.point = .cleanUp .crash := by
      generalize findings s.phase world c.point = more at breaks meets
      cases meets with
      | broke here there => exact ⟨here, there⟩
      | other others => exact absurd breaks others.2.2
      | _ => simp at breaks
    rw [left, left, if_pos (List.mem_append_right met breaks), if_neg broken, there]
    have behind : trailing handles (.cleanUp .crash) = handles + 12 := rfl
    have before : 11 ≤ ahead handles c.point := by
      rcases here with here | here <;> simp [here, ahead]
    omega
  · have unbroken : .broke ∉ met ++ findings s.phase world c.point := by simp [broken, breaks]
    have advances := abreast.advances move silent unbroken cloned
    simpa [left, broken, breaks] using advances

/-- **Nobody keeps an errand waiting** that has not signalled. -/
theorem Abreast.goesOn {bindings : List Address} (abreast : Abreast c met c.point)
    (present : s.calls[t]? = some c) (custody : Custody s)
    (settled : Server.Settled config s bindings) (silent : callSignals port c = [])
    (unended : c.ending = none) (world : World) :
    (s.step config (.advance t world)).isSome = true := by
  have stands := settled.standing c (List.mem_of_getElem? present)
  have free (begun : .beginStart ∈ c.won) (elsewhere : c.point.locks = false) :
      s.lockedBy.isSome = false := by
    simp [custody.unlocked settled present begun elsewhere]
  show (s.advance config world t).isSome = true
  unfold System.advance
  simp only [present, Option.bind_eq_bind, Option.bind_some]
  cases here : c.point with
  | ended ending => simp [Server.Call.ending, here] at unended
  | awaitLoop g =>
    -- Its start has been told to somebody.
    rw [here] at abreast
    obtain ⟨won, outcome⟩ := abreast
    rw [callSignals_of_init port won, List.map_eq_nil_iff] at silent
    cases outcome (.answer (.ok ())) <;> simp [*] at silent
  | store g | lock g =>
    rw [here] at stands
    simp [free (stands.past rfl) (by rw [here]; rfl)]
  | takeAborted ending =>
    rw [here] at stands
    simp [free stands.1.2.1 (by rw [here]; rfl)]
  | take after port =>
    rw [here] at abreast stands
    cases after with
    | reply => exact abreast.elim
    | finish ending => simp [free stands.1.1.2.1 (by rw [here]; rfl)]
  | attemptInit | attemptStart | lookUp | inspect | cleanUp | abort | attemptStop =>
    dsimp only
    split <;> rfl
  | build | bind =>
    dsimp only
    split
    · rfl
    · split <;> rfl
  | markStarted | publishPool | publishAddress | spawn | unlock | announce | reportFailure
  | readPort | shut | confirm => rfl

end PacketServer.Boot
