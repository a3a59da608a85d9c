import PacketServer.Pipeline.Basic

/-!
# Describing a pipeline

A specification names the parts of a connection's pipeline. Decoder, encoder
and handler are always there, in this order; stages are inserted between
encoder and handler and keep the order of their insertion.

The limit on bodies applies to the usual decoder only: once a decoder was
given, limits leave it alone.

## Main results

* `names_eq` — the names are those of the three fixed parts around the
  inserted ones.
-/

namespace PacketServer

/-- The name of the decoder. -/
def decoderName : String := "decoder"

/-- The name of the encoder. -/
def encoderName : String := "encoder"

/-- The name of the handler. -/
def handlerName : String := "handler"

/-- What a connection's pipeline is made of. -/
structure Spec (σ ν : Type) where
  decoder : Decoder σ
  encoder : Encoder σ
  handler : Handler σ ν
  /-- The inserted stages, the earliest first. -/
  stages : List (Stage σ ν)
  /-- Whether the decoder was given. -/
  customDecoder : Bool

namespace Spec

variable {σ ν : Type}

/-- A handler behind the usual decoder and encoder. -/
def ofHandler (handler : Handler σ ν) : Spec σ ν where
  decoder := .packets Packet.defaultLimit
  encoder := .packets
  handler := handler
  stages := []
  customDecoder := false

/-- Uses another decoder. -/
def withDecoder (s : Spec σ ν) (decoder : Decoder σ) : Spec σ ν :=
  { s with decoder := decoder, customDecoder := true }

/-- Uses another encoder. -/
def withEncoder (s : Spec σ ν) (encoder : Encoder σ) : Spec σ ν :=
  { s with encoder := encoder }

/-- Inserts a stage behind those inserted before. -/
def insert (s : Spec σ ν) (stage : Stage σ ν) : Spec σ ν :=
  { s with stages := s.stages ++ [stage] }

/-- Limits the bodies that the usual decoder takes. -/
def limitFrames (s : Spec σ ν) (limit : Nat) : Spec σ ν :=
  if s.customDecoder then s else { s with decoder := .packets limit }

/-- A change of a specification. -/
inductive Change (σ ν : Type)
  | decoder (decoder : Decoder σ)
  | encoder (encoder : Encoder σ)
  | stage (stage : Stage σ ν)
  | limit (limit : Nat)

/-- Makes one change. -/
def change (s : Spec σ ν) : Change σ ν → Spec σ ν
  | .decoder d => s.withDecoder d
  | .encoder e => s.withEncoder e
  | .stage stage => s.insert stage
  | .limit limit => s.limitFrames limit

/-- Makes changes one after the other. -/
def changeAll (s : Spec σ ν) (changes : List (Change σ ν)) : Spec σ ν :=
  changes.foldl change s

/-- The names of all parts, in the order of the pipeline. -/
def names (s : Spec σ ν) : List String :=
  [decoderName, encoderName] ++ s.stages.map (·.name) ++ [handlerName]

/-- The first of `names` that is empty, or is among those seen before it. -/
def firstNameFault : (seen : List String) → (names : List String) → Option ConfigError
  | _, [] => none
  | seen, name :: names =>
    if name = "" then some (.validation "pipeline stage name must not be empty")
    else if name ∈ seen then some (.invalidValue "pipeline stage" name)
    else firstNameFault (name :: seen) names

/-- Refuses a stage whose name is empty, or is that of a fixed part or of an
earlier stage. -/
def validate (s : Spec σ ν) : Except ConfigError Unit :=
  match firstNameFault [decoderName, encoderName, handlerName] (s.stages.map (·.name)) with
  | some fault => .error fault
  | none => .ok ()

/-- A list of names in a log. -/
def namesText (names : List String) : String := Text.bracketed (names.map Text.quoted)

/-- A specification in a log. -/
def text (s : Spec σ ν) : String :=
  Text.record "PipelineSpec"
    [("stages", namesText s.names), ("custom_decoder", Text.truth s.customDecoder)]

theorem names_eq (s : Spec σ ν) :
    s.names = decoderName :: encoderName :: (s.stages.map (·.name) ++ [handlerName]) := by
  simp [names]

end Spec

end PacketServer
