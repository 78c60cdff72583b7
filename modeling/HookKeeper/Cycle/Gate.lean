import HookKeeper.Api.Client
import HookKeeper.Operator.Error

/-!
# Waiting for the operator resource to be served

The operator starts once the cluster serves its resource.  It asks in rounds,
as often as it takes and whatever the answers are, with a delay after each that
doubles from ten seconds up to a minute.
-/

namespace HookKeeper.Gate

/-- Whether the cluster serves the operator resource. -/
def served : Except ApiError (List OperatorResource) → Except OperatorError Bool
  | .ok _ => .ok true
  | .error failure =>
      match failure with
      | .refused refusal =>
          if refusal.code = 404 then .ok false
          else .error (.cluster (.refused refusal))
      | other => .error (.cluster other)

/-- Ask whether the cluster serves the operator resource. -/
def check : Program (Except OperatorError Bool) := do
  let listed ← Client.list OperatorResource "" [("limit", "1")]
  return served listed

/-- The delay before the second attempt, in seconds. -/
def firstDelay : Nat := 10

/-- The longest delay, in seconds. -/
def longestDelay : Nat := 60

/-- The delay after another. -/
def nextDelay (delay : Nat) : Nat := min longestDelay (delay * 2)

/-- The delay after the attempt with a number, counted from zero. -/
def delayAfter : Nat → Nat
  | 0 => firstDelay
  | attempt + 1 => nextDelay (delayAfter attempt)

/--
How a round of waiting ends: with the result of all of it, or with the delay of
the next one.
-/
inductive Round where
  | ended (result : Except OperatorError Unit)
  | again (delay : Nat)

/--
One round of waiting; it lets its delay pass unless the resource is served.
-/
def round (delay : Nat) : Program Round := do
  match ← check with
  | .ok true => return .ended (.ok ())
  | _ => .pause delay (return .again (nextDelay delay))

/--
Against a host, waiting that goes on with a delay ends with a result and leaves
a state behind: round follows round, without a limit, until one is the last.
-/
inductive EndsFrom (host : Host σ) :
    Nat → σ → Except OperatorError Unit → σ → Prop where
  | ended
      (last : (round delay).run host state = (.ended result, after)) :
      EndsFrom host delay state result after
  | again
      (turn : (round delay).run host state = (.again next, later))
      (rest : EndsFrom host next later result after) :
      EndsFrom host delay state result after

/-- Against a host, waiting ends with a result and leaves a state behind. -/
def Ends
    (host : Host σ)
    (state : σ)
    (result : Except OperatorError Unit)
    (after : σ) : Prop :=
  EndsFrom host firstDelay state result after

/--
Whether waiting is over within a number of attempts, the next of which has a
delay.
-/
def awaitFrom (delay : Nat) : Nat → Program Bool
  | 0 => .done false
  | attempts + 1 => do
      match ← round delay with
      | .ended _ => return true
      | .again next => awaitFrom next attempts

/-- Whether waiting is over within a number of attempts. -/
def await (attempts : Nat) : Program Bool := awaitFrom firstDelay attempts

/--
The number of attempts before a limit in seconds, of which `elapsed` have
passed.
-/
def attemptsFrom (limit elapsed : Nat) (attempt : Nat) : Nat → Nat
  | 0 => 0
  | fuel + 1 =>
      if elapsed < limit then
        attemptsFrom limit (elapsed + delayAfter attempt) (attempt + 1) fuel + 1
      else 0

/-- The number of attempts that are made before a limit in seconds. -/
def attemptsWithin (limit : Nat) : Nat := attemptsFrom limit 0 0 (limit + 1)

end HookKeeper.Gate
