import PacketServer.Config.Builder

/-!
# What becomes of collected settings

Every setting writes some fields, and what a builder holds in a field is what
the last setting wrote that writes it. Settings that were collected are
accepted if one of them wrote the port and the fields meet all constraints;
what was not written has its usual value. So settings of different fields can
change places, and one whose fields are all written again later on can be left
out.

## Main results

* `Builder.holds_setAll` — a builder holds the last writes.
* `Builder.toConfig_setAll` — settings are judged by their last writes alone.
* `Config.validate_eq_error_iff` — the fault is that of the first constraint
  that does not hold.
* `settings_collected` — what becomes of any settings.
-/

namespace PacketServer

/-! ## Fields -/

namespace Config

/-- A field of the settings. -/
inductive Field
  | port | host | transport | osName | workerThreads | buffers | keepAlive | backlog | maxFrame
  | grace | optionsHook | workerHook
deriving DecidableEq

/-- What a field can have as its value. -/
@[reducible]
def Field.Value : Field → Type
  | port => Port
  | host => Ip
  | transport => Preference
  | osName => Option String
  | workerThreads => Option Nat
  | buffers => BufferPolicy
  | keepAlive => Bool
  | backlog | maxFrame | grace => Nat
  | optionsHook => Option (SocketOptions → SocketOptions)
  | workerHook => Option (WorkerGroup → WorkerGroup)

/-- The value of a field. -/
def get (c : Config) : (f : Field) → f.Value
  | .port => c.port
  | .host => c.host
  | .transport => c.transport
  | .osName => c.osName
  | .workerThreads => c.workerThreads
  | .buffers => c.buffers
  | .keepAlive => c.keepAlive
  | .backlog => c.backlog
  | .maxFrame => c.maxFrame
  | .grace => c.grace
  | .optionsHook => c.optionsHook
  | .workerHook => c.workerHook

/-- The settings with these values in their fields. -/
def ofValues (value : (f : Field) → f.Value) : Config where
  port := value .port
  host := value .host
  transport := value .transport
  osName := value .osName
  workerThreads := value .workerThreads
  buffers := value .buffers
  keepAlive := value .keepAlive
  backlog := value .backlog
  maxFrame := value .maxFrame
  grace := value .grace
  optionsHook := value .optionsHook
  workerHook := value .workerHook

theorem get_ofValues (value : (f : Field) → f.Value) (f : Field) :
    (ofValues value).get f = value f := by
  cases f <;> rfl

theorem ofValues_get (c : Config) : ofValues c.get = c := rfl

end Config

open Config (Field)

/-! ## Writes -/

/-- What a setting writes into a field, if it writes it. -/
def Setting.write? : Setting → (f : Field) → Option f.Value
  | .port p, .port => some p
  | .host ip, .host => some ip
  | .bind address, .host => some address.ip
  | .bind address, .port => some address.port
  | .transport preference, .transport => some preference
  | .osName name, .osName => some (some name)
  | .unknownOs, .osName => some none
  | .workerThreads n, .workerThreads => some (some n)
  | .buffers policy, .buffers => some policy
  | .keepAlive enabled, .keepAlive => some enabled
  | .backlog n, .backlog => some n
  | .maxFrame n, .maxFrame => some n
  | .grace ns, .grace => some ns
  | .options hook, .optionsHook => some (some hook)
  | .workerGroup hook, .workerHook => some (some hook)
  | _, _ => none

/-- What the last setting writes into a field that writes it. -/
def lastWrite (settings : List Setting) (f : Field) : Option f.Value :=
  settings.reverse.findSome? (·.write? f)

/-- No field is written by both. -/
def Setting.Apart (a b : Setting) : Prop := ∀ f, a.write? f = none ∨ b.write? f = none

section

variable {settings first second : List Setting} {f : Field}

theorem lastWrite_append (first second : List Setting) (f : Field) :
    lastWrite (first ++ second) f = (lastWrite second f).or (lastWrite first f) := by
  rw [lastWrite, List.reverse_append, List.findSome?_append]
  rfl

theorem lastWrite_cons (s : Setting) (settings : List Setting) (f : Field) :
    lastWrite (s :: settings) f = (lastWrite settings f).or (s.write? f) := by
  rw [lastWrite, List.reverse_cons, List.findSome?_append, List.findSome?_singleton]
  rfl

theorem lastWrite_eq_none_iff :
    lastWrite settings f = none ↔ ∀ s ∈ settings, s.write? f = none := by
  simp [lastWrite]

/-- Settings that stand one behind the other and write different fields can
change places. -/
theorem lastWrite_swap {a b : Setting} (apart : a.Apart b) (front behind : List Setting)
    (f : Field) :
    lastWrite (front ++ a :: b :: behind) f = lastWrite (front ++ b :: a :: behind) f := by
  simp only [lastWrite_append, lastWrite_cons, Option.or_assoc]
  rcases apart f with none | none <;> simp [none]

/-- A setting whose fields are all written again leaves no trace. -/
theorem lastWrite_overwritten {a : Setting} {behind : List Setting}
    (again : ∀ f, a.write? f ≠ none → ∃ s ∈ behind, s.write? f ≠ none) (front : List Setting)
    (f : Field) : lastWrite (front ++ a :: behind) f = lastWrite (front ++ behind) f := by
  simp only [lastWrite_append, lastWrite_cons, Option.or_assoc]
  cases written : lastWrite behind f with
  | some value => rfl
  | none =>
    have silent : a.write? f = none := by
      refine Classical.byContradiction fun writes => ?_
      obtain ⟨s, member, writes⟩ := again f writes
      exact writes (lastWrite_eq_none_iff.mp written s member)
    simp [silent]

end

/-! ## Builders -/

namespace Builder

/-- What a builder holds in a field. -/
def holds (b : Builder) : (f : Field) → Option f.Value
  | .port => b.port
  | .host => b.host
  | .transport => some b.transport
  | .osName => b.osName
  | .workerThreads => b.workerThreads.map some
  | .buffers => b.buffers
  | .keepAlive => b.keepAlive
  | .backlog => b.backlog
  | .maxFrame => b.maxFrame
  | .grace => b.grace
  | .optionsHook => b.options.map some
  | .workerHook => b.workerGroup.map some

theorem holds_set (b : Builder) (s : Setting) (f : Field) :
    (b.set s).holds f = (s.write? f).or (b.holds f) := by
  cases s <;> cases f <;> rfl

/-- **A builder holds the last writes**, and below them what it held before. -/
theorem holds_setAll (b : Builder) (settings : List Setting) (f : Field) :
    (b.setAll settings).holds f = (lastWrite settings f).or (b.holds f) := by
  induction settings generalizing b with
  | nil => rfl
  | cons s settings ih =>
    show ((b.set s).setAll settings).holds f = _
    rw [ih, holds_set, lastWrite_cons, Option.or_assoc]

/-- Settings of which a builder's come before the usual ones. -/
theorem get_below (b : Builder) {usual : Config} (held : b.port = some usual.port)
    (threads : usual.workerThreads = none) (options : usual.optionsHook = none)
    (worker : usual.workerHook = none) (f : Field) :
    ({ usual with
        transport := b.transport
        workerThreads := b.workerThreads
        host := b.host.getD usual.host
        osName := b.osName.getD usual.osName
        buffers := b.buffers.getD usual.buffers
        keepAlive := b.keepAlive.getD usual.keepAlive
        backlog := b.backlog.getD usual.backlog
        maxFrame := b.maxFrame.getD usual.maxFrame
        grace := b.grace.getD usual.grace
        optionsHook := b.options
        workerHook := b.workerGroup } : Config).get f = (b.holds f).getD (usual.get f) := by
  cases f with
  | port => simp only [Config.get, holds, held, Option.getD_some]
  | workerThreads => cases set : b.workerThreads <;> simp [Config.get, holds, set, threads]
  | optionsHook => cases set : b.options <;> simp [Config.get, holds, set, options]
  | workerHook => cases set : b.workerGroup <;> simp [Config.get, holds, set, worker]
  | _ => rfl

/-- What is not held has its usual value. -/
theorem get_fill (b : Builder) (hostName : Option String) {port : Port} (held : b.port = some port)
    (f : Field) :
    (b.fill hostName port).get f = (b.holds f).getD ((Config.ofPort hostName port).get f) :=
  get_below b held rfl rfl rfl f

/-- All that a builder holds from the beginning is the usual preference. -/
theorem holds_empty {usual : Config} (portable : usual.transport = .portable) (f : Field) :
    (holds {} f).getD (usual.get f) = usual.get f := by
  cases f with
  | transport => exact portable.symm
  | _ => rfl

/-- The last writes, put in the place of the usual values. -/
def collected (hostName : Option String) (port : Port) (settings : List Setting) : Config :=
  .ofValues fun f => (lastWrite settings f).getD ((Config.ofPort hostName port).get f)

/-- **Settings are judged by their last writes alone.** -/
theorem toConfig_setAll (hostName : Option String) (settings : List Setting) :
    (setAll {} settings).toConfig hostName =
      match lastWrite settings .port with
      | none => .error (.config (.missingField "port"))
      | some port =>
        match (collected hostName port settings).validate with
        | .ok () => .ok (collected hostName port settings)
        | .error e => .error e := by
  have held : (setAll {} settings).port = lastWrite settings .port :=
    (holds_setAll {} settings .port).trans (Option.or_none ..)
  unfold toConfig
  cases written : lastWrite settings .port with
  | none => simp only [held.trans written]
  | some port =>
    have held := held.trans written
    have filled : (setAll {} settings).fill hostName port = collected hostName port settings := by
      rw [← Config.ofValues_get ((setAll {} settings).fill hostName port), collected]
      congr 1
      funext f
      rw [get_fill _ hostName held, holds_setAll, Option.getD_or, holds_empty rfl]
    cases judged : (collected hostName port settings).validate <;>
      simp only [held, filled, judged]

end Builder

/-! ## Constraints -/

namespace Config

variable {c : Config} {e : Fault}

/-- What a constraint demands. -/
def Constraint.Holds (c : Config) : Constraint → Prop
  | workerThreads => c.workerThreads ≠ some 0
  | framePositive => 0 < c.maxFrame
  | frameBounded => c.maxFrame < frameBound
  | backlog => 0 < c.backlog
  | bufferSize => 0 < c.buffers.bufferSize
  | capacity => ∀ size, c.buffers ≠ .pooled 0 size
  | grace => 0 < c.grace

theorem Constraint.violated_eq_false_iff (constraint : Constraint) :
    violated c constraint = false ↔ constraint.Holds c := by
  cases constraint with
  | capacity =>
    simp only [violated, Holds]
    split
    · rename_i size pooled
      simp [pooled]
    · rename_i other
      simpa using other
  | _ => simp [violated, Holds, Nat.pos_iff_ne_zero]

theorem validate_ok_iff_holds :
    c.validate = .ok () ↔ ∀ constraint, Constraint.Holds c constraint := by
  rw [validate_ok_iff]
  exact forall_congr' fun constraint => constraint.violated_eq_false_iff

/-- **The fault is that of the first constraint that does not hold.** -/
theorem validate_eq_error_iff :
    c.validate = .error e ↔ ∃ before constraint after,
      Constraint.all = before ++ constraint :: after ∧
        (∀ earlier ∈ before, Constraint.Holds c earlier) ∧ ¬ Constraint.Holds c constraint ∧
        e = .config (.validation constraint.message) := by
  have found : c.validate = .error e ↔ ∃ constraint, c.firstViolation = some constraint ∧
      e = .config (.validation constraint.message) := by
    unfold validate
    cases c.firstViolation with
    | none => simp
    | some constraint => simp [eq_comm]
  rw [found]
  simp only [firstViolation, List.find?_eq_some_iff_append, ← Constraint.violated_eq_false_iff,
    Bool.not_eq_false, Bool.not_eq_true']
  constructor
  · rintro ⟨constraint, ⟨violated, before, after, all, met⟩, told⟩
    exact ⟨before, constraint, after, all, met, violated, told⟩
  · rintro ⟨before, constraint, after, all, met, violated, told⟩
    exact ⟨constraint, ⟨violated, before, after, all, met⟩, told⟩

end Config

/-! ## Any settings -/

/-- What becomes of settings on a host whose system has the given name. -/
def Setting.outcome (hostName : Option String) (settings : List Setting) : Except Fault Config :=
  (Builder.setAll {} settings).toConfig hostName

/-- What is known of the outcome of settings. -/
structure Collected (hostName : Option String) (settings : List Setting) : Prop where
  /-- A missing port is reported before anything else. -/
  missing : (∀ s ∈ settings, s.write? .port = none) →
    Setting.outcome hostName settings = .error (.config (.missingField "port"))
  /-- Settings are accepted if the port was written and all constraints hold. -/
  accepts : (∃ config, Setting.outcome hostName settings = .ok config) ↔
    ∃ port, lastWrite settings .port = some port ∧
      ∀ constraint, Config.Constraint.Holds (Builder.collected hostName port settings) constraint
  /-- A field has the value that the last setting wrote that writes it, or its
  usual value. -/
  values : ∀ config, Setting.outcome hostName settings = .ok config →
    ∃ port, lastWrite settings .port = some port ∧ ∀ f,
      config.get f = (lastWrite settings f).getD ((Config.ofPort hostName port).get f)
  /-- The fault is that of the first constraint that does not hold. -/
  refuses : ∀ port, lastWrite settings .port = some port → ∀ fault,
    (Setting.outcome hostName settings = .error fault ↔ ∃ before constraint after,
      Config.Constraint.all = before ++ constraint :: after ∧
        (∀ earlier ∈ before,
          Config.Constraint.Holds (Builder.collected hostName port settings) earlier) ∧
        ¬ Config.Constraint.Holds (Builder.collected hostName port settings) constraint ∧
        fault = .config (.validation constraint.message))
  /-- Settings of different fields can change places. -/
  commutes : ∀ front a b behind, settings = front ++ a :: b :: behind → a.Apart b →
    Setting.outcome hostName (front ++ b :: a :: behind) = Setting.outcome hostName settings
  /-- A setting whose fields are all written again leaves no trace. -/
  overwritten : ∀ front a behind, settings = front ++ a :: behind →
    (∀ f, a.write? f ≠ none → ∃ s ∈ behind, s.write? f ≠ none) →
      Setting.outcome hostName (front ++ behind) = Setting.outcome hostName settings

/-- Settings with the same last writes have the same outcome. -/
theorem Setting.outcome_congr {hostName : Option String} {settings others : List Setting}
    (same : ∀ f, lastWrite settings f = lastWrite others f) :
    outcome hostName settings = outcome hostName others := by
  have same : lastWrite settings = lastWrite others := funext same
  simp only [outcome, Builder.toConfig_setAll, Builder.collected, same]

/-- **What becomes of any settings**, in whatever order they were made. -/
theorem settings_collected (hostName : Option String) (settings : List Setting) :
    Collected hostName settings := by
  have judged := Builder.toConfig_setAll hostName settings
  refine
    { missing := fun silent => ?_
      accepts := ?_
      values := fun config accepted => ?_
      refuses := fun port written fault => ?_
      commutes := ?_
      overwritten := ?_ }
  · simp only [Setting.outcome, judged, lastWrite_eq_none_iff.mpr silent]
  · rw [Setting.outcome, judged]
    cases lastWrite settings .port with
    | none => simp
    | some port =>
      simp only [Option.some.injEq, exists_eq_left', ← Config.validate_ok_iff_holds]
      cases (Builder.collected hostName port settings).validate <;> simp
  · rw [Setting.outcome, judged] at accepted
    cases written : lastWrite settings .port with
    | none => simp [written] at accepted
    | some port =>
      simp only [written] at accepted
      refine ⟨port, rfl, fun f => ?_⟩
      split at accepted
      · rw [← Except.ok.inj accepted, Builder.collected, Config.get_ofValues]
      · cases accepted
  · rw [← Config.validate_eq_error_iff, Setting.outcome, judged, written]
    cases checked : (Builder.collected hostName port settings).validate <;> simp [checked]
  · rintro front a b behind rfl apart
    exact Setting.outcome_congr fun f => (lastWrite_swap apart front behind f).symm
  · rintro front a behind rfl again
    exact Setting.outcome_congr fun f => (lastWrite_overwritten again front f).symm

end PacketServer
