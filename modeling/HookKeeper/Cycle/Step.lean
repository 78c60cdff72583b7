import HookKeeper.Api.Client
import HookKeeper.Operator.Error
import HookKeeper.Recorder

/-!
# Steps of a cycle

A step talks to the cluster, publishes events through the recorder of the
operator, and may fail.  What the recorder remembers outlives a failure.  The
main statements say how `start` turns a step into a program.
-/

namespace HookKeeper

/-- A step of a cycle. -/
abbrev Step := ExceptT OperatorError (StateT Recorder Program)

namespace Step

/-- The step of a program that publishes nothing. -/
def ofProgram (program : Program (Except OperatorError α)) : Step α :=
  ExceptT.mk fun recorder => program.bind fun result => .done (result, recorder)

/-- The step of requests, with the failure that theirs becomes. -/
def request
    (wrap : ApiError → OperatorError)
    (program : Program (Except ApiError α)) : Step α :=
  ofProgram (program.bind fun result => .done (result.mapError wrap))

/-- The step that requests something and goes on whether or not it fails. -/
def attempt (program : Program (Except ApiError α)) :
    Step (Except ApiError α) :=
  ofProgram (program.bind fun result => .done (.ok result))

/-- The step that publishes an event about an object. -/
def publish [ClusterObject α] (object : α) (notice : Notice) : Step Unit :=
  ExceptT.mk fun recorder =>
    (recorder.publish notice (.of object)).bind fun after =>
      .done (.ok (), after)

/-- The step of a value that may be a failure. -/
def ofExcept (result : Except OperatorError α) : Step α :=
  ofProgram (.done result)

def start
    (step : Step α)
    (recorder : Recorder) :
    Program (Except OperatorError α × Recorder) :=
  step.run.run recorder

@[simp]
theorem start_pure
    (result : α)
    (recorder : Recorder) :
    start (pure result) recorder = .done (.ok result, recorder) := rfl

@[simp]
theorem start_throw
    (error : OperatorError)
    (recorder : Recorder) :
    start (throw error : Step α) recorder = .done (.error error, recorder) :=
  rfl

/-- Steps in a row end with the first failure, and the recorder is handed on. -/
@[simp]
theorem start_bind (step : Step α) (follow : α → Step β) (recorder : Recorder) :
    start (step >>= follow) recorder =
      (step.start recorder).bind fun outcome =>
        match outcome.1 with
        | .ok result => (follow result).start outcome.2
        | .error error => .done (.error error, outcome.2) := by
  show (step.start recorder).bind _ = _
  congr 1
  funext outcome
  obtain ⟨result, after⟩ := outcome
  cases result <;> rfl

@[simp]
theorem start_ofProgram
    (program : Program (Except OperatorError α))
    (recorder : Recorder) :
    (ofProgram program).start recorder =
      program.bind fun result => .done (result, recorder) := rfl

@[simp]
theorem start_ofExcept
    (result : Except OperatorError α)
    (recorder : Recorder) :
    (ofExcept result).start recorder = .done (result, recorder) := rfl

end Step

end HookKeeper
