import HookKeeper.Cycle.Step

/-!
# Traces of programs and steps

A program that talks to the cluster is known from outside by its trace: the
requests that it sends, the answers that they get, and the result.  Any answer
may come to any request and the clock may read anything, so whatever holds of
every trace holds against every host.  This module says what the traces of the
building blocks of a cycle look like, one inversion for each of them.
-/

namespace HookKeeper

/-- A request on a channel, and the answer that it got. -/
structure Exchange where
  channel : Channel
  request : Request
  answer : Answer
  deriving DecidableEq, Repr

namespace Program

/--
The requests of a program can get these answers, and it then ends with this
result.
-/
inductive Traces : Program α → List Exchange → α → Prop where
  | done (result : α) : Traces (.done result) [] result
  | ask
      (answer : Answer)
      (rest : Traces (next answer) exchanges result) :
      Traces (.ask channel request next)
        (⟨channel, request, answer⟩ :: exchanges) result
  | now
      (moment : Moment)
      (rest : Traces (next moment) exchanges result) :
      Traces (.now next) exchanges result
  | pause
      (rest : Traces next exchanges result) :
      Traces (.pause seconds next) exchanges result

/--
The requests of a program that is run against a host, with their answers, in
order.
-/
def exchanges (host : Host σ) : Program α → σ → List Exchange
  | .done _, _ => []
  | .ask channel request next, state =>
      let (answer, after) := host.answer state channel request
      ⟨channel, request, answer⟩ :: (next answer).exchanges host after
  | .now next, state => (next (host.clock state)).exchanges host state
  | .pause seconds next, state => next.exchanges host (host.wait state seconds)

/-- What a host answers is a trace of the program. -/
theorem traces_run
    (host : Host σ)
    (program : Program α)
    (state : σ) :
    program.Traces (program.exchanges host state)
        (program.run host state).1 := by
  induction program generalizing state with
  | done result => exact .done result
  | ask channel request next ih => exact .ask _ (ih _ _)
  | now next ih => exact .now _ (ih _ _)
  | pause seconds next ih => exact .pause (ih _)

/--
Programs in a row have the exchanges of the first and then those of the second.
-/
theorem exchanges_bind
    (host : Host σ)
    (program : Program α)
    (follow : α → Program β)
    (state : σ) :
    (program.bind follow).exchanges host state =
      program.exchanges host state ++
        (follow (program.run host state).1).exchanges host
            (program.run host state).2 := by
  induction program generalizing state with
  | done result => rfl
  | ask channel request next ih =>
      simp only [bind, exchanges, run, ih, List.cons_append]
  | now next ih => simp only [bind, exchanges, run, ih]
  | pause seconds next ih => simp only [bind, exchanges, run, ih]

theorem answer_of_mem
    {host : Host σ}
    {program : Program α}
    {state : σ}
    {exchange : Exchange}
    (member : exchange ∈ program.exchanges host state) :
    ∃ before,
        exchange.answer =
        (host.answer before exchange.channel exchange.request).1 := by
  induction program generalizing state with
  | done result => cases member
  | ask channel request next ih =>
      rcases List.mem_cons.1 member with rfl | later
      · exact ⟨state, rfl⟩
      · exact ih _ later
  | now next ih => exact ih _ member
  | pause seconds next ih => exact ih member

@[simp]
theorem traces_done_iff
    {value result : α}
    {exchanges : List Exchange} :
    (done value).Traces exchanges result ↔ exchanges = [] ∧ result = value := by
  constructor
  · intro trace
    cases trace
    exact ⟨rfl, rfl⟩
  · rintro ⟨rfl, rfl⟩
    exact .done _

theorem traces_ask_iff
    {channel : Channel}
    {request : Request}
    {next : Answer → Program α}
    {exchanges : List Exchange}
    {result : α} :
    (ask channel request next).Traces exchanges result ↔
      ∃ answer rest,
        exchanges = ⟨channel, request, answer⟩ :: rest ∧
            (next answer).Traces rest result := by
  constructor
  · intro trace
    cases trace with
    | ask answer rest => exact ⟨answer, _, rfl, rest⟩
  · rintro ⟨answer, rest, rfl, trace⟩
    exact .ask answer trace

theorem traces_now_iff
    {next : Moment → Program α}
    {exchanges : List Exchange}
    {result : α} :
    (now next).Traces exchanges result ↔
        ∃ moment, (next moment).Traces exchanges result := by
  constructor
  · intro trace
    cases trace with
    | now moment rest => exact ⟨moment, rest⟩
  · rintro ⟨moment, trace⟩
    exact .now moment trace

/--
A trace of programs in a row is a trace of the first and then one of the second.
-/
theorem traces_bind_iff
    {program : Program α}
    {follow : α → Program β}
    {exchanges : List Exchange}
    {result : β} :
    (program.bind follow).Traces exchanges result ↔
      ∃ value before after,
        exchanges = before ++ after ∧
          program.Traces before value ∧ (follow value).Traces after result := by
  constructor
  · intro trace
    induction program generalizing exchanges with
    | done value => exact ⟨value, [], exchanges, rfl, .done value, trace⟩
    | ask channel request next ih =>
        cases trace with
        | ask answer rest =>
            rcases ih answer rest with ⟨value, before, after, rfl, first, last⟩
            exact ⟨value, _ :: before, after, rfl, .ask answer first, last⟩
    | now next ih =>
        cases trace with
        | now moment rest =>
            rcases ih moment rest with ⟨value, before, after, rfl, first, last⟩
            exact ⟨value, before, after, rfl, .now moment first, last⟩
    | pause seconds next ih =>
        cases trace with
        | pause rest =>
            rcases ih rest with ⟨value, before, after, rfl, first, last⟩
            exact ⟨value, before, after, rfl, .pause first, last⟩
  · rintro ⟨value, before, after, rfl, first, last⟩
    induction first with
    | done value => exact last
    | ask answer rest ih => exact .ask answer (ih last)
    | now moment rest ih => exact .now moment (ih last)
    | pause rest ih => exact .pause (ih last)

end Program

/-! ## Requests about objects -/

/--
A request is sent, if it can be built, and what its answer carries is read; a
request that cannot be built is a failure without an exchange.
-/
inductive Call
    (request : Except RequestFault Request)
    (read : Datum → Option β) :
    Option Exchange → Except ApiError β → Prop where
  | unbuildable
      (fault : RequestFault)
      (unbuilt : request = .error fault) :
      Call request read none (.error (.unbuildable fault))
  | answered
      (sent : Request)
      (answer : Answer)
      (built : request = .ok sent) :
      Call request read (some ⟨.objects, sent, answer⟩) (answer.decode read)

namespace Client

theorem presence_eq_some_iff
    {found : Except ApiError β}
    {object : β} :
    presence found = .ok (some object) ↔ found = .ok object := by
  cases found with
  | ok given => simp [presence]
  | error failure =>
      cases failure with
      | refused refusal => by_cases absent : refusal.reason = "NotFound" <;>
          simp [presence, absent]
      | _ => simp [presence]

theorem traces_send_iff
    {request : Except RequestFault Request}
    {read : Datum → Option β}
    {exchanges : List Exchange}
    {outcome : Except ApiError β} :
    (send request read).Traces exchanges outcome ↔
      ∃ sent, Call request read sent outcome ∧ exchanges = sent.toList := by
  cases request with
  | error fault =>
      simp only [send, Program.traces_done_iff]
      constructor
      · rintro ⟨rfl, rfl⟩
        exact ⟨none, .unbuildable fault rfl, rfl⟩
      · rintro ⟨sent, call, rfl⟩
        cases call with
        | unbuildable _ unbuilt =>
            cases unbuilt
            exact ⟨rfl, rfl⟩
        | answered _ _ built => cases built
  | ok request =>
      simp only [send, Program.traces_ask_iff, Program.traces_done_iff]
      constructor
      · rintro ⟨answer, rest, rfl, rfl, rfl⟩
        exact ⟨_, .answered request answer rfl, rfl⟩
      · rintro ⟨sent, call, rfl⟩
        cases call with
        | unbuildable _ unbuilt => cases unbuilt
        | answered _ answer built =>
            cases built
            exact ⟨answer, [], rfl, rfl, rfl⟩

theorem traces_find?_iff
    {α : Type}
    [ClusterObject α]
    {namespaceName name : String}
    {exchanges : List Exchange}
    {outcome : Except ApiError (Option α)} :
    (find? α namespaceName name).Traces exchanges outcome ↔
      ∃ sent found,
        Call (Request.read (ClusterObject.collection α namespaceName) name)
            (ClusterObject.ofDatum? : Datum → Option α) sent found ∧
          exchanges = sent.toList ∧ outcome = presence found := by
  simp only [find?, Program.bind_eq, Program.pure_eq, Program.traces_bind_iff,
    Program.traces_done_iff, traces_send_iff]
  constructor
  · rintro ⟨found, _, _, rfl, ⟨sent, call, rfl⟩, rfl, rfl⟩
    exact ⟨sent, found, call, by simp, rfl⟩
  · rintro ⟨sent, found, call, rfl, rfl⟩
    exact ⟨found, sent.toList, [], by simp, ⟨sent, call, rfl⟩, rfl, rfl⟩

end Client

/-- Publishing talks to the cluster about events only. -/
theorem Recorder.events_of_traces_publish
    {recorder kept : Recorder}
    {notice : Notice}
    {regarding : ObjectReference}
    {exchanges : List Exchange}
    (trace : (recorder.publish notice regarding).Traces exchanges kept) :
    ∀ exchange ∈ exchanges, exchange.channel = .events := by
  rcases Program.traces_now_iff.1 trace with ⟨moment, trace⟩
  dsimp only at trace
  cases built : request regarding (recorder.event notice regarding moment) with
  | error fault =>
      rw [built] at trace
      rcases Program.traces_done_iff.1 trace with ⟨rfl, rfl⟩
      simp
  | ok request =>
      rw [built] at trace
      rcases Program.traces_ask_iff.1 trace with ⟨answer, rest, rfl, ended⟩
      have last : rest = [] := by
        split at ended <;> exact (Program.traces_done_iff.1 ended).1
      subst last
      simp

/-! ## Steps -/

namespace Step

/-- A step can have these exchanges and this result, from some recorder. -/
def Traces
    (step : Step α)
    (exchanges : List Exchange)
    (result : Except OperatorError α) : Prop :=
  ∃ recorder kept, (step.start recorder).Traces exchanges (result, kept)

def exchanges
    (host : Host σ)
    (state : σ)
    (recorder : Recorder)
    (step : Step α) : List Exchange :=
  (step.start recorder).exchanges host state

def outcome
    (host : Host σ)
    (state : σ)
    (recorder : Recorder)
    (step : Step α) : Except OperatorError α :=
  ((step.start recorder).run host state).1.1

theorem traces_run
    (host : Host σ)
    (state : σ)
    (recorder : Recorder)
    (step : Step α) :
    step.Traces (step.exchanges host state recorder)
        (step.outcome host state recorder) :=
  ⟨recorder, _, Program.traces_run host (step.start recorder) state⟩

@[simp]
theorem traces_pure_iff
    {value : α}
    {exchanges : List Exchange}
    {result : Except OperatorError α} :
    (pure value : Step α).Traces exchanges result ↔
        exchanges = [] ∧ result = .ok value := by
  simp only [Traces, start_pure, Program.traces_done_iff, Prod.mk.injEq]
  constructor
  · rintro ⟨recorder, kept, rfl, rfl, rfl⟩
    exact ⟨rfl, rfl⟩
  · rintro ⟨rfl, rfl⟩
    exact ⟨{}, {}, rfl, rfl, rfl⟩

@[simp]
theorem traces_throw_iff
    {error : OperatorError}
    {exchanges : List Exchange}
    {result : Except OperatorError α} :
    (throw error : Step α).Traces exchanges result ↔
      exchanges = [] ∧ result = .error error := by
  simp only [Traces, start_throw, Program.traces_done_iff, Prod.mk.injEq]
  constructor
  · rintro ⟨recorder, kept, rfl, rfl, rfl⟩
    exact ⟨rfl, rfl⟩
  · rintro ⟨rfl, rfl⟩
    exact ⟨{}, {}, rfl, rfl, rfl⟩

@[simp]
theorem traces_ofProgram_iff
    {program : Program (Except OperatorError α)}
    {exchanges : List Exchange}
    {result : Except OperatorError α} :
    (ofProgram program).Traces exchanges result ↔
        program.Traces exchanges result := by
  simp only [Traces, start_ofProgram, Program.traces_bind_iff,
    Program.traces_done_iff, Prod.mk.injEq]
  constructor
  · rintro ⟨recorder, kept, value, before, after, rfl, trace, rfl, rfl, rfl⟩
    simpa using trace
  · intro trace
    exact ⟨{}, {}, result, exchanges, [], by simp, trace, rfl, rfl, rfl⟩

@[simp]
theorem traces_ofExcept_iff
    {value : Except OperatorError α}
    {exchanges : List Exchange}
    {result : Except OperatorError α} :
    (ofExcept value).Traces exchanges result ↔
        exchanges = [] ∧ result = value := by
  simp [ofExcept]

/--
A request of a step is a trace of its program, with the failure that its own
becomes.
-/
theorem traces_request_iff
    {wrap : ApiError → OperatorError}
    {program : Program (Except ApiError α)}
    {exchanges : List Exchange}
    {result : Except OperatorError α} :
    (request wrap program).Traces exchanges result ↔
      ∃ outcome, program.Traces exchanges outcome ∧
          result = outcome.mapError wrap := by
  simp only [request, traces_ofProgram_iff, Program.traces_bind_iff,
    Program.traces_done_iff]
  constructor
  · rintro ⟨outcome, before, after, rfl, trace, rfl, rfl⟩
    exact ⟨outcome, by simpa using trace, rfl⟩
  · rintro ⟨outcome, trace, rfl⟩
    exact ⟨outcome, exchanges, [], by simp, trace, rfl, rfl⟩

theorem traces_attempt_iff
    {program : Program (Except ApiError α)}
    {exchanges : List Exchange}
    {result : Except OperatorError (Except ApiError α)} :
    (attempt program).Traces exchanges result ↔
      ∃ outcome, program.Traces exchanges outcome ∧ result = .ok outcome := by
  simp only [attempt, traces_ofProgram_iff, Program.traces_bind_iff,
    Program.traces_done_iff]
  constructor
  · rintro ⟨outcome, before, after, rfl, trace, rfl, rfl⟩
    exact ⟨outcome, by simpa using trace, rfl⟩
  · rintro ⟨outcome, trace, rfl⟩
    exact ⟨outcome, exchanges, [], by simp, trace, rfl, rfl⟩

/-- Telling about an object never fails, and talks about events only. -/
theorem Traces.of_publish
    [ClusterObject α]
    {object : α}
    {notice : Notice}
    {exchanges : List Exchange}
    {result : Except OperatorError Unit}
    (trace : (publish object notice).Traces exchanges result) :
    result = .ok () ∧ ∀ exchange ∈ exchanges, exchange.channel = .events := by
  rcases trace with ⟨recorder, kept, trace⟩
  rcases Program.traces_bind_iff.1 trace with
    ⟨after, before, rest, rfl, told, ended⟩
  rcases Program.traces_done_iff.1 ended with ⟨rfl, equal⟩
  have events := Recorder.events_of_traces_publish told
  exact ⟨(Prod.mk.inj equal).1, by simpa using events⟩

/--
Steps in a row fail as the first fails, or go on with what it gives; the
exchanges of the two follow each other.
-/
theorem Traces.of_bind
    {step : Step α}
    {follow : α → Step β}
    {exchanges : List Exchange}
    {result : Except OperatorError β}
    (trace : (step >>= follow).Traces exchanges result) :
    (∃ error, result = .error error ∧ step.Traces exchanges (.error error)) ∨
      ∃ value before after,
        exchanges = before ++ after ∧
          step.Traces before (.ok value) ∧
              (follow value).Traces after result := by
  rcases trace with ⟨recorder, kept, trace⟩
  rw [start_bind] at trace
  rcases Program.traces_bind_iff.1 trace with
    ⟨⟨outcome, handed⟩, before, after, rfl, first, last⟩
  cases outcome with
  | error error =>
      rcases Program.traces_done_iff.1 last with ⟨rfl, equal⟩
      refine .inl ⟨error, (Prod.mk.inj equal).1, recorder, handed, ?_⟩
      simpa using first
  | ok value =>
      exact .inr ⟨value, before, after, rfl, ⟨recorder, handed, first⟩,
        ⟨handed, kept, last⟩⟩

end Step

end HookKeeper
