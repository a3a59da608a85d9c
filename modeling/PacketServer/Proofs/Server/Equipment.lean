import PacketServer.Proofs.Connection.Conduct
import PacketServer.Proofs.Pipeline.Naming
import PacketServer.Server.Basic

/-!
# What the connections of a server are equipped with

A specification remembers whether a decoder was given, and limits leave a given
decoder alone. The limit in a server's settings is set behind all changes of
its specification, so it could as well have been set before them, in the place
of every limit among them: no trace is left of those. What a connection decodes
with is then the decoder given last, or the usual one with the limit of the
settings.

## Main results

* `limitFrames_changeAll` — the last limit can be set first, without the others.
* `given?_changeAll` — a decoder that was given stays until another is.
* `Connection.pipeline_run` — a connection keeps its pipeline.
* `Server.connections_equipped` — what the connections of a server are equipped with.
-/

namespace PacketServer

namespace Spec

variable {σ ν : Type} {s : Spec σ ν}

theorem changeAll_append (s : Spec σ ν) (first second : List (Change σ ν)) :
    s.changeAll (first ++ second) = (s.changeAll first).changeAll second := List.foldl_append

/-- Whether the change sets a limit. -/
def Change.isLimit : Change σ ν → Bool
  | .limit _ => true
  | _ => false

/-- The decoder that was given, if one was. -/
def given? (s : Spec σ ν) : Option (Decoder σ) := if s.customDecoder then some s.decoder else none

/-! ## Limits -/

/-- All that a limit changes is a decoder that was not given. -/
theorem limitFrames_eq (s : Spec σ ν) (limit : Nat) :
    s.limitFrames limit = { s with decoder := s.given?.getD (.packets limit) } := by
  by_cases given : s.customDecoder = true
  · rw [limitFrames, given?, if_pos given, if_pos given]
    rfl
  · rw [limitFrames, given?, if_neg given, if_neg given]
    rfl

theorem given?_limitFrames (s : Spec σ ν) (limit : Nat) :
    (s.limitFrames limit).given? = s.given? := by
  by_cases given : s.customDecoder = true
  · rw [limitFrames, if_pos given]
  · rw [limitFrames, if_neg given, given?, given?, if_neg given, if_neg given]

/-- The check of a specification does not look at limits. -/
theorem validate_limitFrames (s : Spec σ ν) (limit : Nat) :
    (s.limitFrames limit).validate = s.validate := by
  rw [limitFrames_eq]
  rfl

/-- Of two limits the later one counts. -/
theorem limitFrames_limitFrames (s : Spec σ ν) (first second : Nat) :
    (s.limitFrames first).limitFrames second = s.limitFrames second := by
  rw [limitFrames_eq (s.limitFrames first), given?_limitFrames, limitFrames_eq, limitFrames_eq]

/-- A limit can be set before any change that sets none. -/
theorem limitFrames_change {c : Change σ ν} (other : c.isLimit = false) (limit : Nat) :
    (s.change c).limitFrames limit = (s.limitFrames limit).change c := by
  rw [limitFrames_eq, limitFrames_eq]
  cases c with
  | limit n => cases other
  | _ => rfl

/-- **The last limit can be set first**, without the limits before it. -/
theorem limitFrames_changeAll (s : Spec σ ν) (changes : List (Change σ ν)) (limit : Nat) :
    (s.changeAll changes).limitFrames limit =
      (s.limitFrames limit).changeAll (changes.filter (!·.isLimit)) := by
  induction changes generalizing s with
  | nil => rfl
  | cons c changes ih =>
    show ((s.change c).changeAll changes).limitFrames limit = _
    rw [ih]
    cases kind : c.isLimit with
    | true =>
      obtain ⟨n, rfl⟩ : ∃ n, c = .limit n := by
        cases c with
        | limit n => exact ⟨n, rfl⟩
        | _ => cases kind
      -- The limit that was set first is overwritten by the one that is set now.
      rw [List.filter_cons_of_neg (by simp [kind]), change, limitFrames_limitFrames]
    | false =>
      rw [List.filter_cons_of_pos (by simp [kind]), limitFrames_change kind]
      rfl

/-! ## Decoder, encoder and handler -/

/-- What none of the changes touches is kept by all of them. -/
theorem changeAll_keeps {α : Type} (part : Spec σ ν → α) {changes : List (Change σ ν)}
    (kept : ∀ c ∈ changes, ∀ s : Spec σ ν, part (s.change c) = part s) (s : Spec σ ν) :
    part (s.changeAll changes) = part s := by
  induction changes generalizing s with
  | nil => rfl
  | cons c changes ih =>
    have later := ih (fun d member => kept d (List.mem_cons_of_mem c member)) (s.change c)
    exact later.trans (kept c List.mem_cons_self s)

/-- **A decoder that was given stays** until another one is given. -/
theorem given?_changeAll {changes : List (Change σ ν)} (others : ∀ d, .decoder d ∉ changes)
    (s : Spec σ ν) : (s.changeAll changes).given? = s.given? := by
  refine changeAll_keeps given? (fun c member s => ?_) s
  cases c with
  | decoder d => exact absurd member (others d)
  | limit n => exact s.given?_limitFrames n
  | _ => rfl

/-- An encoder stays until another one is given. -/
theorem encoder_changeAll {changes : List (Change σ ν)} (others : ∀ e, .encoder e ∉ changes)
    (s : Spec σ ν) : (s.changeAll changes).encoder = s.encoder := by
  refine changeAll_keeps (·.encoder) (fun c member s => ?_) s
  cases c with
  | encoder e => exact absurd member (others e)
  | limit n => rw [change, limitFrames_eq]
  | _ => rfl

/-- No change touches the handler. -/
theorem handler_changeAll (s : Spec σ ν) (changes : List (Change σ ν)) :
    (s.changeAll changes).handler = s.handler := by
  refine changeAll_keeps (·.handler) (fun c _ s => ?_) s
  cases c with
  | limit n => rw [change, limitFrames_eq]
  | _ => rfl

end Spec

/-! ## Connections -/

/-- A connection keeps its pipeline from the greeting to the farewell. -/
theorem Connection.pipeline_run {σ ν : Type} (k : Connection σ ν) (polls : List Poll)
    (pool : BufferPool) : (k.run polls pool).2.1.pipeline = k.pipeline := by
  obtain ⟨acts, serves⟩ := k.serve_serves polls
  exact serves.pipeline

namespace Server

variable {σ ν : Type} {config : Config} {spec other : Spec σ ν}

/-- A server is made if settings and specification pass their checks. -/
theorem ofConfig_eq_ok_iff (server : Server σ ν) :
    ofConfig config spec = .ok server ↔ config.validate = .ok () ∧ spec.validate = .ok () ∧
      server = { config := config, spec := spec.limitFrames config.maxFrame } := by
  unfold ofConfig
  cases config.validate <;> cases spec.validate <;> simp [eq_comm]

/-- Specifications that the limit of the settings makes the same make the same
server. -/
theorem ofConfig_congr
    (same : spec.limitFrames config.maxFrame = other.limitFrames config.maxFrame) :
    ofConfig config spec = ofConfig config other := by
  have checked : spec.validate = other.validate := by
    rw [← spec.validate_limitFrames config.maxFrame, same, Spec.validate_limitFrames]
  rw [ofConfig, ofConfig, checked, same]

/-- The server of a handler, of the changes that were made to its specification,
and of settings. -/
def ofChanges (config : Config) (handler : Handler σ ν) (changes : List (Spec.Change σ ν)) :
    Except Fault (Server σ ν) :=
  ofConfig config ((Spec.ofHandler handler).changeAll changes)

/-- What a connection is equipped with by settings, a handler, and the changes
of its specification. -/
structure Equipped (config : Config) (handler : Handler σ ν) (changes : List (Spec.Change σ ν))
    (p : Pipeline σ ν) : Prop where
  /-- The decoder is the one that was given last, whatever limits were set before
  and behind it. -/
  decoder : ∀ before d after, changes = before ++ .decoder d :: after →
    (∀ other, .decoder other ∉ after) → p.decoder = d
  /-- If none was given it is the usual one, and its limit that of the settings. -/
  usualDecoder : (∀ d, .decoder d ∉ changes) → p.decoder = .packets config.maxFrame
  /-- The encoder is the one that was given last. -/
  encoder : ∀ before e after, changes = before ++ .encoder e :: after →
    (∀ other, .encoder other ∉ after) → p.encoder = e
  /-- If none was given it is the usual one. -/
  usualEncoder : (∀ e, .encoder e ∉ changes) → p.encoder = .packets
  handler : p.handler = handler
  /-- The inserted stages of either direction keep the order of their insertion. -/
  inbound : p.inbound = (changes.filterMap Spec.Change.stage?).filter (·.direction = .inbound)
  outbound : p.outbound = (changes.filterMap Spec.Change.stage?).filter (·.direction = .outbound)
  /-- The names show the order of insertion of all of them. -/
  names : p.names = decoderName :: encoderName ::
    ((changes.filterMap Spec.Change.stage?).map (·.name) ++ [handlerName])

/-- What is known of servers whose specification was made by these changes. -/
structure Equips (config : Config) (handler : Handler σ ν) (changes : List (Spec.Change σ ν)) :
    Prop where
  /-- There is a server if the settings and the names of stages are accepted. -/
  accepts : (∃ server, ofChanges config handler changes = .ok server) ↔
    config.validate = .ok () ∧ ((Spec.ofHandler handler).changeAll changes).validate = .ok ()
  /-- Every pipeline that it assembles is equipped so. -/
  assembles : ∀ server, ofChanges config handler changes = .ok server →
    Equipped config handler changes server.spec.assemble
  /-- Every connection of it is, to its end. -/
  serves : ∀ server, ofChanges config handler changes = .ok server →
    ∀ context user stream cancelled polls pool, Equipped config handler changes
      ((Connection.ofSpec server.spec context user stream cancelled).run polls pool).2.1.pipeline
  /-- No limit that was set in the specification leaves a trace. -/
  unlimited : ∀ others, others.filter (!·.isLimit) = changes.filter (!·.isLimit) →
    ofChanges config handler others = ofChanges config handler changes

/-- A specification is assembled to what its changes and the limit of the
settings equip it with. -/
theorem equipped_assemble (config : Config) (handler : Handler σ ν)
    (changes : List (Spec.Change σ ν)) :
    Equipped config handler changes
      (((Spec.ofHandler handler).changeAll changes).limitFrames config.maxFrame).assemble := by
  have inserted : ((Spec.ofHandler handler).changeAll changes).stages =
      changes.filterMap Spec.Change.stage? := Spec.inserted_changeAll _ changes
  rw [Spec.limitFrames_eq]
  refine
    { decoder := ?_
      usualDecoder := fun absent => ?_
      encoder := ?_
      usualEncoder := fun absent => Spec.encoder_changeAll absent _
      handler := Spec.handler_changeAll _ changes
      inbound := by rw [← inserted]; rfl
      outbound := by rw [← inserted]; rfl
      names := by rw [← inserted]; rfl }
  · rintro before d after rfl others
    have given : ((Spec.ofHandler handler).changeAll (before ++ .decoder d :: after)).given? =
        some d := by
      rw [Spec.changeAll_append]
      exact Spec.given?_changeAll others
        (((Spec.ofHandler handler).changeAll before).withDecoder d)
    exact congrArg (·.getD (.packets config.maxFrame)) given
  · have ungiven : ((Spec.ofHandler handler).changeAll changes).given? = none :=
      Spec.given?_changeAll absent (Spec.ofHandler handler)
    exact congrArg (·.getD (.packets config.maxFrame)) ungiven
  · rintro before e after rfl others
    rw [Spec.changeAll_append]
    exact Spec.encoder_changeAll others (((Spec.ofHandler handler).changeAll before).withEncoder e)

/-- **What the connections of a server are equipped with**, however often
decoder, encoder and limits were set among the stages, and in whatever order. -/
theorem connections_equipped (config : Config) (handler : Handler σ ν)
    (changes : List (Spec.Change σ ν)) : Equips config handler changes := by
  have assembles (server : Server σ ν) (made : ofChanges config handler changes = .ok server) :
      Equipped config handler changes server.spec.assemble := by
    obtain ⟨-, -, rfl⟩ := (ofConfig_eq_ok_iff server).mp made
    exact equipped_assemble config handler changes
  refine
    { accepts := ?_
      assembles := assembles
      serves := fun server made context user stream cancelled polls pool => ?_
      unlimited := fun others same => ofConfig_congr ?_ }
  · constructor
    · rintro ⟨server, made⟩
      obtain ⟨accepted, named, -⟩ := (ofConfig_eq_ok_iff server).mp made
      exact ⟨accepted, named⟩
    · rintro ⟨accepted, named⟩
      exact ⟨_, (ofConfig_eq_ok_iff _).mpr ⟨accepted, named, rfl⟩⟩
  · rw [Connection.pipeline_run]
    exact assembles server made
  · rw [Spec.limitFrames_changeAll, Spec.limitFrames_changeAll, same]

/-- Limits on both sides of a decoder do not touch it, and without the decoder
the limit of the settings goes before both. -/
theorem connections_equipped_with_limits_around_a_decoder :
    let gate : Stage Unit Unit :=
      { name := "gate", direction := .inbound, run := fun _ s p => { value := some p, state := s } }
    let config : Config := { Config.ofPort none (.number 3000) with maxFrame := 16 }
    let given : List (Spec.Change Unit Unit) :=
      [.limit 5, .decoder (.packets 7), .stage gate, .limit 9]
    let ungiven : List (Spec.Change Unit Unit) := [.limit 5, .stage gate, .limit 9]
    (∃ server, ofChanges config .echo given = .ok server ∧
      server.spec.assemble.decoder = .packets 7 ∧ server.spec.assemble.inbound = [gate]) ∧
    (∃ server, ofChanges config .echo ungiven = .ok server ∧
      server.spec.assemble.decoder = .packets 16 ∧ server.spec.assemble.inbound = [gate]) := by
  intro gate config given ungiven
  constructor
  · have known := connections_equipped config .echo given
    obtain ⟨server, made⟩ := known.accepts.mpr ⟨by decide, by decide⟩
    have equipped := known.assembles server made
    exact ⟨server, made, equipped.decoder [.limit 5] _ [.stage gate, .limit 9] rfl (by simp),
      equipped.inbound⟩
  · have known := connections_equipped config .echo ungiven
    obtain ⟨server, made⟩ := known.accepts.mpr ⟨by decide, by decide⟩
    have equipped := known.assembles server made
    exact ⟨server, made, equipped.usualDecoder (by simp [ungiven]), equipped.inbound⟩

end Server

end PacketServer
