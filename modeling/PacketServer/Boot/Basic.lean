import PacketServer.Fault
import PacketServer.Text.Record

/-!
# Booting job by job

A chain runs its jobs in order. Each job is given a handle, through which it
signals that the chain shall proceed or abort; only its first signal counts. A
job that gives all its handles up without a signal was interrupted. The chain
ends well if the first event of every job is to proceed.

## Main results

* `run_append` — a chain is run part by part.
-/

namespace PacketServer.Boot

/-- Why a chain stopped. -/
inductive BootFault
  /-- A job aborted it: what the job was doing, and what went wrong. -/
  | job (message : String) (cause : Option Fault)
  /-- A job ended without a signal. -/
  | interrupted (job : String)
deriving DecidableEq

/-- The wording of a fault. -/
def BootFault.message : BootFault → String
  | job message _ => message
  | interrupted name => "boot job `" ++ name ++ "` ended without signalling"

/-- What a job tells its chain. -/
inductive Signal
  | proceed
  | abort (fault : BootFault)
deriving DecidableEq

/-- What a job's handle signals when it is told an outcome as a listener. -/
def Signal.ofOutcome {α : Type} (job : String) : Except Fault α → Signal
  | .ok _ => .proceed
  | .error cause => .abort (.job ("boot job `" ++ job ++ "` failed") (some cause))

/-- The first event of a job that sends these signals and then gives its
handles up. -/
def firstEvent (job : String) (signals : List Signal) : Signal :=
  signals.head?.getD (.abort (.interrupted job))

/-- A job: its name, and what it signals and makes of the world when it is
run. -/
structure Job (σ : Type) where
  name : String
  run : σ → List Signal × σ

variable {σ : Type}

/-- Runs jobs until the first event of one is not to proceed. -/
def run : List (Job σ) → σ → Except BootFault Unit × σ
  | [], s => (.ok (), s)
  | job :: jobs, s =>
    let (signals, s) := job.run s
    match firstEvent job.name signals with
    | .proceed => run jobs s
    | .abort fault => (.error fault, s)

/-- A chain is run part by part. -/
theorem run_append (first second : List (Job σ)) (s : σ) :
    run (first ++ second) s =
      match run first s with
      | (.ok (), s) => run second s
      | (.error fault, s) => (.error fault, s) := by
  induction first generalizing s with
  | nil => rfl
  | cons job jobs ih =>
    simp only [List.cons_append, run]
    split
    · exact ih _
    · rfl

/-- The names of jobs. -/
def names (jobs : List (Job σ)) : List String := jobs.map (·.name)

/-- A chain in a log. -/
def chainText (jobs : List (Job σ)) : String :=
  Text.record "BootChain" [("jobs", Text.bracketed ((names jobs).map Text.quoted))]

/-- A job's handle in a log. -/
def handleText (job : String) : String := Text.record "Next" [("job", Text.quoted job)]

end PacketServer.Boot
