import PacketServer.Proofs.Server.Orderly
import PacketServer.Proofs.Server.Verdicts

/-!
# What a call relies on while others go on

The calls on a server share its phase, its slot, the slot's lock and the thread
groups. For each point of a call it is said what the call knows of them, as far
as it can rely on it whatever the others do meanwhile.

Few steps change what is shared, and each of them belongs to a role: to the
start that won, before or behind its marking of the server, or to the stop that
won. Two calls do not have the same role, and the two roles do not take from
each other what they rely on.

## Main results

* `Move.winnable` — the edges that a call can have won at a point.
* `Touch.holding` — what a call relies on stays behind the step of another.
-/

namespace PacketServer.Server

variable {config : Config} {world : World} {s s₁ s' : System} {bindings : List Address}
  {t j : Nat} {c c' d : Call} {point : Point}

/-! ## What a call can have won -/

/-- The edges that a call can have won at a point. -/
def Point.winnable : Point → List Transition
  | .attemptInit | .attemptStop .reply => []
  | .attemptStart => [.init]
  | .build | .store _ | .bind | .lookUp _ | .publishPool _ | .publishAddress _ | .lock _
  | .inspect _ | .markStarted .. | .reportFailure _ => [.init, .beginStart]
  | .spawn .. | .unlock .. | .announce .. | .awaitLoop _ | .cleanUp _ | .abort _
  | .attemptStop (.finish _) => [.init, .beginStart, .markStarted]
  | .takeAborted _ | .shut _ _ _ none => [.init, .beginStart, .markStarted, .abortStart]
  | .readPort _ | .take .. | .shut _ _ _ (some _) | .confirm .. =>
    [.init, .beginStart, .markStarted, .beginStop]
  | .ended _ => [.init, .beginStart, .markStarted, .abortStart, .beginStop]

theorem mem_winnable_ended (edge : Transition) (ending : Ending) :
    edge ∈ (Point.ended ending).winnable := by
  cases edge <;> simp [Point.winnable]

theorem mem_winnable_answered (edge : Transition) (after : After) (result : Except Fault Unit) :
    edge ∈ (after.answered result).winnable := by
  cases after <;> exact mem_winnable_ended ..

theorem Move.winnable (move : Move config world t s c s₁ c')
    (known : ∀ edge ∈ c.won, edge ∈ c.point.winnable) :
    ∀ edge ∈ c'.won, edge ∈ c'.point.winnable := by
  intro edge won
  have before : edge ∈ c.won → edge ∈ c.point.winnable := known edge
  cases move with
  | notInitialized here | notBegun here | clean here | notAborted here =>
    exact mem_winnable_ended ..
  | stopLost here | confirmed here => exact mem_winnable_answered ..
  | initialized here opens =>
    rw [here] at before
    obtain rfl : edge = .init := by
      simpa [Point.winnable] using (List.mem_append.mp won).imp_left before
    show _ ∈ (if c.kind = .boot then Point.attemptStart else .returned (.ok ())).winnable
    split <;> simp [Point.winnable]
  | begun here | marked here | aborted here =>
    -- What could have been won before, and the edge that was won.
    rw [here] at before
    exact List.mem_append.mpr ((List.mem_append.mp won).imp_left before)
  | @stopBegun after here =>
    rw [here] at before
    have either := (List.mem_append.mp won).imp_left before
    cases after with
    | reply =>
      obtain rfl : edge = .beginStop := by simpa [Point.winnable] using either
      simp [Point.winnable, Call.goto]
    | finish ending => exact List.mem_append.mpr either
  | abortedTaken here free =>
    rw [here] at before
    show edge ∈ (After.taken _ s.slot _).winnable
    cases s.slot with
    | none => exact mem_winnable_ended ..
    | some g => exact before won
  | taken here free =>
    rw [here] at before
    show edge ∈ (After.taken _ s.slot _).winnable
    cases s.slot with
    | none => exact before won
    | some g => exact before won
  | @shut stage next g after port here goesOn =>
    rw [here] at before
    cases port <;> exact before won
  | @shutLast stage g after port here last =>
    rw [here] at before
    cases port with
    | none => cases after <;> exact mem_winnable_ended ..
    | some port => exact before won
  | _ here =>
    have old := before won
    rw [here] at old
    revert old
    simp only [Point.winnable, Call.goto]
    grind

/-! ## What calls share -/

/-- What the calls share of the groups. -/
structure Shared where
  phase : Phase
  slot : Option Nat
  lockedBy : Option Nat
  groups : List Groups

def System.shared (s : System) : Shared := ⟨s.phase, s.slot, s.lockedBy, s.groups⟩

namespace Shared

/-- Groups were built, and they are such. -/
def Built (x : Shared) (P : Groups → Prop) : Prop := ∃ g, x.groups = [g] ∧ P g

/-- No groups were built. -/
def Unbuilt (x : Shared) : Prop := x.groups = [] ∧ x.slot = none

/-- Groups were built and put into the slot, and nobody touched them. -/
def Stored (x : Shared) : Prop := x.groups = [.fresh] ∧ x.slot = some 0

/-- The loop is over: it broke off, or the groups were taken and the workers
are down. -/
def Released (x : Shared) : Prop :=
  x.Built fun g => g.loop = .broken ∨ (x.slot = none ∧ g.workersUp = false)

/-- The groups in the slot are untouched by a shutdown, and their loop is
spawned by the time that the lock is free. -/
def Serves (x : Shared) : Prop :=
  x.slot = some 0 ∧ x.Built fun g => g.shutdowns = 0 ∧ (x.lockedBy = none → g.loop ≠ .absent)

theorem Built.of_groups {x : Shared} {P : Groups → Prop} {g : Groups} (built : x.Built P)
    (one : x.groups = [g]) : P g := by
  obtain ⟨g', one', holds⟩ := built
  obtain rfl : g' = g := by simpa [one] using one'.symm
  exact holds

end Shared

/-- What the call of number `t` relies on at a point. -/
def Holding (x : Shared) (t : Nat) (c : Call) : Point → Prop
  | .attemptInit | .attemptStart | .attemptStop .reply => True
  | .build => x.phase = .starting ∧ x.Unbuilt
  | .store g => x.phase = .starting ∧ g = 0 ∧ x.groups = [.fresh] ∧ x.slot = none
  | .bind | .lookUp _ | .publishPool _ | .publishAddress _ | .lock _ =>
    x.phase = .starting ∧ x.Stored
  | .inspect _ => x.phase = .starting ∧ x.Stored ∧ x.lockedBy = some t
  | .markStarted _ g => x.phase = .starting ∧ x.Stored ∧ x.lockedBy = some t ∧ g = 0
  | .spawn _ g => .markStarted ∈ c.won ∧ x.Stored ∧ x.lockedBy = some t ∧ g = 0
  | .unlock _ g =>
    .markStarted ∈ c.won ∧ x.lockedBy = some t ∧ g = 0 ∧ x.slot = some 0 ∧
      x.Built fun g => g.shutdowns = 0 ∧ g.loop ≠ .absent
  | .announce _ g | .awaitLoop g => .markStarted ∈ c.won ∧ g = 0
  | .reportFailure _ | .abort _ => x.phase = .starting ∧ (x.Unbuilt ∨ x.Stored)
  | .cleanUp _ =>
    (x.phase = .starting ∧ (x.Unbuilt ∨ x.Stored)) ∨ (.markStarted ∈ c.won ∧ x.Released)
  | .takeAborted _ => .abortStart ∈ c.won ∧ (x.Unbuilt ∨ x.Stored)
  | .attemptStop (.finish _) => .markStarted ∈ c.won ∧ x.Released
  | .readPort _ | .take .. => x.Serves
  | .shut stage g _ port =>
    g = 0 ∧ x.slot = none ∧ x.Built stage.Awaits ∧ (port = none → .abortStart ∈ c.won)
  | .confirm .. => x.slot = none ∧ x.Built Groups.Down
  | .ended _ =>
    (.beginStart ∈ c.won → x.phase = .shutdown ∧ (x.Unbuilt ∨ x.Released) ∧
        (.abortStart ∈ c.won → x.slot = none ∧ ∀ g ∈ x.groups, g.Down)) ∧
      (.beginStop ∈ c.won → x.slot = none ∧ x.Built Groups.Down)

/-! ## What other calls do to it -/

/-- What a step of the call of number `t` does to what the calls share, by the
role that the call has. -/
inductive Touch (x : Shared) (c : Call) : Shared → Prop
  | nothing : Touch x c x
  | early {y : Shared} (early : x.phase = .created ∨ x.phase = .initialized) : Touch x c y
  | starting {y : Shared} (begun : .beginStart ∈ c.won) (starting : x.phase = .starting) :
      Touch x c y
  | aborting {y : Shared} (begun : .beginStart ∈ c.won) (aborted : .abortStart ∈ c.won) :
      Touch x c y
  | spawning (begun : .beginStart ∈ c.won) (stored : x.Stored) :
      Touch x c { x with groups := [{ Groups.fresh with loop := .waiting }] }
  | unlocking (begun : .beginStart ∈ c.won) (full : x.slot = some 0)
      (built : x.Built fun g => g.shutdowns = 0 ∧ g.loop ≠ .absent) :
      Touch x c { x with lockedBy := none }
  | stopping (started : x.phase = .started) : Touch x c { x with phase := .shutdown }
  | taking (stopped : .beginStop ∈ c.won) (free : x.lockedBy = none) :
      Touch x c { x with slot := none }
  | shutting {stage : ShutdownStage} {g : Groups} (stopped : .beginStop ∈ c.won)
      (empty : x.slot = none) (built : x.groups = [g]) :
      Touch x c { x with groups := [stage.run g] }

section

variable {x y : Shared} {localAddress : Option Address}

theorem Shared.Released.taken (released : x.Released) :
    ({ x with slot := none } : Shared).Released := by
  obtain ⟨g, built, isOver⟩ := released
  refine ⟨g, built, ?_⟩
  rcases isOver with broken | ⟨-, down⟩
  · exact .inl broken
  · exact .inr ⟨rfl, down⟩

theorem Shared.Released.shut {stage : ShutdownStage} {g : Groups} (released : x.Released)
    (built : x.groups = [g]) :
    ({ x with groups := [stage.run g] } : Shared).Released := by
  refine ⟨_, rfl, ?_⟩
  rcases released.of_groups built with broken | ⟨empty, down⟩
  · exact .inl (stage.run_broken broken)
  · exact .inr ⟨empty, stage.run_workers down⟩

/-- A call without a role relies on nothing. -/
theorem Holding.idle (stands : Standing config bindings localAddress d point)
    (unbegun : .beginStart ∉ d.won) (unstopped : .beginStop ∉ d.won) (x : Shared) :
    Holding x j d point := by
  cases point with
  | attemptInit | attemptStart => trivial
  | attemptStop after =>
    cases after with
    | reply => trivial
    | finish ending => exact absurd stands.1.2.1 unbegun
  | readPort | take | confirm => exact absurd (stands.past rfl) unstopped
  | shut stage g after port =>
    cases port with
    | none =>
      obtain ⟨ending, -, begun, -⟩ := stands
      exact absurd begun.2.1 unbegun
    | some port => exact absurd (stands.past rfl) unstopped
  | ended ending =>
    exact ⟨fun begun => absurd begun unbegun, fun stopped => absurd stopped unstopped⟩
  | _ => exact absurd (stands.past rfl) unbegun

/-- A stop that begins changes the phase only, and nobody relies on `started`. -/
theorem Holding.stopping (holds : Holding x j d point) (started : x.phase = .started) :
    Holding { x with phase := .shutdown } j d point := by
  have late : x.phase ≠ .starting := by simp [started]
  cases point with
  | build | store | bind | lookUp | publishPool | publishAddress | lock | inspect | markStarted
  | reportFailure | abort => exact absurd holds.1 late
  | cleanUp ending =>
    rcases holds with ⟨starting, -⟩ | isOver
    · exact absurd starting late
    · exact .inr isOver
  | ended ending => exact ⟨fun begun => ⟨rfl, (holds.1 begun).2⟩, holds.2⟩
  | attemptStop after => cases after <;> exact holds
  | _ => exact holds

/-- While a stop goes on, the start has marked the server, and unless it has the
lock of a full slot it relies only on a loop that is over, or on groups that were
not built. -/
theorem Holding.behind_stop (holds : Holding x j d point)
    (stands : Standing config bindings localAddress d point) (phase : x.phase = .shutdown)
    (phase' : y.phase = .shutdown) (unaborted : .abortStart ∉ d.won)
    (unstopped : .beginStop ∉ d.won) (unserved : x.slot = some 0 → x.lockedBy ≠ some j)
    (unbuilt : x.Unbuilt → y.Unbuilt) (released : x.Released → y.Released) :
    Holding y j d point := by
  have late : x.phase ≠ .starting := by simp [phase]
  cases point with
  | build | store | bind | lookUp | publishPool | publishAddress | lock | inspect | markStarted
  | reportFailure | abort => exact absurd holds.1 late
  | spawn address g =>
    obtain ⟨-, ⟨-, full⟩, locked, -⟩ := holds
    exact absurd locked (unserved full)
  | unlock address g =>
    obtain ⟨-, locked, -, full, -⟩ := holds
    exact absurd locked (unserved full)
  | cleanUp ending =>
    rcases holds with ⟨starting, -⟩ | ⟨marked, isOver⟩
    · exact absurd starting late
    · exact .inr ⟨marked, released isOver⟩
  | takeAborted ending => exact absurd holds.1 unaborted
  | readPort | take | confirm => exact absurd (stands.past rfl) unstopped
  | shut stage g after port =>
    cases port with
    | none => exact absurd (holds.2.2.2 rfl) unaborted
    | some port => exact absurd (stands.past rfl) unstopped
  | attemptStop after =>
    cases after with
    | reply => trivial
    | finish ending => exact ⟨holds.1, released holds.2⟩
  | ended ending =>
    refine ⟨fun begun => ?_, fun stopped => absurd stopped unstopped⟩
    obtain ⟨-, isOver, -⟩ := holds.1 begun
    exact ⟨phase', isOver.imp unbuilt released, fun aborted => absurd aborted unaborted⟩
  | _ => exact holds

/-- A stop that has begun meanwhile waits for the lock when the loop is spawned
and when the lock is given up. -/
theorem Holding.serving (holds : Holding x j d point)
    (stands : Standing config bindings localAddress d point) (full : x.slot = some 0)
    (unbegun : .beginStart ∉ d.won) {y : Shared} (serves : x.Serves → y.Serves) :
    Holding y j d point := by
  cases point with
  | attemptInit | attemptStart => trivial
  | attemptStop after =>
    cases after with
    | reply => trivial
    | finish ending => exact absurd stands.1.2.1 unbegun
  | readPort | take => exact serves holds
  | confirm => exact absurd (full.symm.trans holds.1) (by simp)
  | shut stage g after port => exact absurd (full.symm.trans holds.2.1) (by simp)
  | ended ending =>
    refine ⟨fun begun => absurd begun unbegun, fun stopped => ?_⟩
    have empty := (holds.2 stopped).1
    simp [full] at empty
  | _ => exact absurd (stands.past rfl) unbegun

/-- **What a call relies on stays** behind the step of another call. -/
theorem Touch.holding (touch : Touch s.shared c y) (winners : Winners s)
    (first : s.calls[t]? = some c) (second : s.calls[j]? = some d) (other : j ≠ t)
    (holds : Holding s.shared j d d.point)
    (stands : Standing config bindings localAddress d d.point) : Holding y j d d.point := by
  have apart {edge : Transition} (won : edge ∈ c.won) : edge ∉ d.won :=
    fun won' => other (winners.unique second first won' won)
  by_cases begun : .beginStart ∈ d.won
  · obtain ⟨notCreated, notInitialized⟩ := winners.begun second begun
    have phase (stopped : .beginStop ∈ c.won) : s.shared.phase = .shutdown :=
      winners.shutdown first stopped rfl
    have unaborted (stopped : .beginStop ∈ c.won) : .abortStart ∉ d.won :=
      fun aborted => (winners.aborted second first aborted).2 stopped
    cases touch with
    | nothing => exact holds
    | early early =>
      rcases early with created | initialized
      · exact absurd created notCreated
      · exact absurd initialized notInitialized
    | starting begun' | aborting begun' | spawning begun' | unlocking begun' =>
      exact absurd begun (apart begun')
    | stopping started => exact holds.stopping started
    | taking stopped free =>
      exact holds.behind_stop stands (phase stopped) (phase stopped) (unaborted stopped)
        (apart stopped) (fun _ => by simp [free]) (fun unbuilt => ⟨unbuilt.1, rfl⟩)
        Shared.Released.taken
    | shutting stopped empty built =>
      exact holds.behind_stop stands (phase stopped) (phase stopped) (unaborted stopped)
        (apart stopped) (fun full => by simp [empty] at full)
        (fun unbuilt => by simp [unbuilt.1] at built) (·.shut built)
  by_cases stopped : .beginStop ∈ d.won
  · have phase : s.shared.phase = .shutdown := winners.shutdown second stopped rfl
    cases touch with
    | nothing => exact holds
    | early early => simp [phase] at early
    | starting begun' starting => simp [phase] at starting
    | aborting begun' aborted => exact absurd stopped (winners.aborted first second aborted).2
    | stopping started => simp [phase] at started
    | taking stopped' | shutting stopped' => exact absurd stopped (apart stopped')
    | spawning begun' stored =>
      apply holds.serving stands stored.2 begun
      intro serves
      exact ⟨serves.1, _, rfl, rfl, fun _ => by simp⟩
    | unlocking begun' full built =>
      apply holds.serving stands full begun
      intro serves
      obtain ⟨g, built, unshut, spawned⟩ := built
      exact ⟨full, g, built, unshut, fun _ => spawned⟩
  exact .idle stands begun stopped y

end

end PacketServer.Server
