import HookKeeper.Api.Answer
import HookKeeper.Api.Request
import HookKeeper.Instant

/-!
# Programs that talk to the cluster

A program is done, or sends a request and goes on with the answer, or reads
the clock, or lets some seconds pass.  Requests about objects and requests that
publish events are told apart.  A program is run against a host: a state with
a reply to each request, a clock, and the passing of time.
-/

namespace HookKeeper

/-- What a request is about. -/
inductive Channel where
  | objects
  | events
  deriving DecidableEq, Repr

/-- A program with a result. -/
inductive Program (α : Type) where
  | done (result : α)
  | ask (channel : Channel) (request : Request) (next : Answer → Program α)
  | now (next : Moment → Program α)
  | pause (seconds : Nat) (next : Program α)

namespace Program

/-- The program that goes on with the result of another. -/
def bind : Program α → (α → Program β) → Program β
  | .done result, follow => follow result
  | .ask channel request next, follow =>
      .ask channel request fun answer => (next answer).bind follow
  | .now next, follow => .now fun moment => (next moment).bind follow
  | .pause seconds next, follow => .pause seconds (next.bind follow)

instance : Monad Program where
  pure := .done
  bind := bind

@[simp]
theorem pure_eq (result : α) : (pure result : Program α) = .done result := rfl

@[simp]
theorem bind_eq
    (program : Program α)
    (follow : α → Program β) :
    program >>= follow = program.bind follow := rfl

/-- A program followed by its own result is the program. -/
theorem bind_done (program : Program α) : program.bind .done = program := by
  induction program with
  | done result => rfl
  | ask channel request next ih => simp [bind, ih]
  | now next ih => simp [bind, ih]
  | pause seconds next ih => simp [bind, ih]

/-- It does not matter how three programs in a row are grouped. -/
theorem bind_assoc
    (program : Program α)
    (first : α → Program β)
    (second : β → Program γ) :
    (program.bind first).bind second = program.bind fun result =>
        (first result).bind second := by
  induction program with
  | done result => rfl
  | ask channel request next ih => simp [bind, ih]
  | now next ih => simp [bind, ih]
  | pause seconds next ih => simp [bind, ih]

instance : LawfulMonad Program :=
  LawfulMonad.mk' Program bind_done (fun _ _ => rfl) bind_assoc

/-- The clock reading at which a program goes on. -/
def moment : Program Moment := .now .done

end Program

/-- What a program is run against. -/
structure Host (σ : Type) where
  /-- The answer to a request, and the state after it. -/
  answer : σ → Channel → Request → Answer × σ
  /-- The reading of the clock. -/
  clock : σ → Moment
  /-- The state after some seconds. -/
  wait : σ → Nat → σ

/-- The result of a program run against a host, and the state after it. -/
def Program.run (host : Host σ) : Program α → σ → α × σ
  | .done result, state => (result, state)
  | .ask channel request next, state =>
      let (answer, after) := host.answer state channel request
      (next answer).run host after
  | .now next, state => (next (host.clock state)).run host state
  | .pause seconds next, state => next.run host (host.wait state seconds)

/-- Programs in a row run in a row. -/
theorem Program.run_bind
    (host : Host σ)
    (program : Program α)
    (follow : α → Program β)
    (state : σ) :
    (program.bind follow).run host state =
      (follow (program.run host state).1).run host
          (program.run host state).2 := by
  induction program generalizing state with
  | done result => rfl
  | ask channel request next ih => simp only [bind, run, ih]
  | now next ih => simp only [bind, run, ih]
  | pause seconds next ih => simp only [bind, run, ih]

end HookKeeper
