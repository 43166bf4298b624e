import RadioData.Frequency
import RadioData.SystemError
/-!
# Tuners and what is asked of them

A tuner answers five calls, each of which can fail. `Tuner σ` is any machine with states `σ` that
does so; it may change its state on every call, failed ones included. A `Script` is a sequence of
calls in which later calls depend on earlier answers. Running a script makes its calls one after the
other; the first failure ends the run and is its result, so nothing is tried again and nothing is
skipped.
-/

namespace RadioData

/-- A call to a tuner. -/
inductive Call where
  /-- Ask for the tuned frequency. -/
  | frequency
  /-- Tune to a frequency in device units. -/
  | tune (units : UInt32)
  /-- Look for the next station. -/
  | seek (d : Direction)
  /-- Ask for the strength of the signal. -/
  | signal
  /-- Ask for the name of the device. -/
  | name
  deriving DecidableEq, Repr

/-- What a successful call gives. Frequencies are in device units. -/
abbrev Call.Answer : Call → Type
  | .frequency => UInt32
  | .tune _ => Unit
  | .seek _ => Unit
  | .signal => Int32
  | .name => String

/-- Why a tuner cannot be opened or a call failed. -/
inductive TunerError where
  /-- The device file could not be opened. -/
  | cannotOpen (path : String) (cause : SystemError)
  /-- The device is no tuner. -/
  | notATuner (path : String)
  /-- The system refused a request to the device. -/
  | requestFailed (request : String) (number : Nat)
  /-- The device does not respond. -/
  | unavailable (reason : String)
  /-- Any other failure of the system. -/
  | system (cause : SystemError)
  deriving DecidableEq, Repr

/-- The wording of a failure. -/
def TunerError.message : TunerError → String
  | .cannotOpen path cause => s!"failed to open {path}: {cause.message}"
  | .notATuner path => s!"{path} is not a radio tuner"
  | .requestFailed request number => s!"{request} failed: {SystemError.terse number}"
  | .unavailable reason => s!"tuner unavailable: {reason}"
  | .system cause => s!"I/O error: {cause.message}"

/-- A machine with states `σ` that answers the calls. -/
abbrev Tuner (σ : Type) : Type := (c : Call) → σ → Except TunerError c.Answer × σ

/-- Calls to be made in order, ending in a result. -/
inductive Script (α : Type) where
  /-- No more calls. -/
  | done (result : α)
  /-- Make a call and go on with its answer. -/
  | call (c : Call) (next : c.Answer → Script α)

namespace Script

/-- Makes the calls of a script. The first failure is the result. -/
def run {σ α : Type} (t : Tuner σ) : Script α → σ → Except TunerError α × σ
  | .done result, s => (.ok result, s)
  | .call c next, s =>
    match t c s with
    | (.ok answer, s) => run t (next answer) s
    | (.error e, s) => (.error e, s)

end Script

end RadioData
