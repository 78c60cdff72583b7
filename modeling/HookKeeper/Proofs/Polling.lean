import HookKeeper.Cycle.Gate
import HookKeeper.Proofs.Detection
import HookKeeper.Proofs.Trace
import HookKeeper.Server.Store
import Mathlib.Algebra.Group.Nat.Defs

/-!
# Polls until the resource is served

Waiting is known from outside by what it does: requests that get their answers,
and pauses after them.  What a host answers to one poll after another decides
the rest.  The main statement says that waiting comes to an end exactly with the
first poll that is answered by a list, always with success, and what was done
until then; the pauses keep their bounds however long it takes.
-/

namespace HookKeeper

/-- What a program does that can be seen from outside. -/
inductive Deed where
  | exchanged (exchange : Exchange)
  | paused (seconds : Nat)
  deriving DecidableEq, Repr

def Deed.isExchange : Deed → Bool
  | .exchanged _ => true
  | .paused _ => false

/-- A host that also keeps an account of what was done, the latest last. -/
def Host.recording (host : Host σ) : Host (σ × List Deed) where
  answer := fun (state, deeds) channel request =>
    let (answer, after) := host.answer state channel request
    (answer, after, deeds ++ [.exchanged ⟨channel, request, answer⟩])
  clock := fun (state, _) => host.clock state
  wait := fun (state, deeds) seconds =>
    (host.wait state seconds, deeds ++ [.paused seconds])

namespace Gate

/-! ## One poll -/

/-- The request of every poll. -/
def pollRequest : Request :=
  ⟨.get, ⟨"/apis/operator.openshift.io/v1/csisnapshotcontrollers",
    [("limit", "1")]⟩, none⟩

/-- The list of operator resources that an answer carries. -/
def listed (answer : Answer) : Except ApiError (List OperatorResource) :=
  answer.decode (Client.itemsOfDatum? OperatorResource.ofDatum?)

/-- An answer that lists operator resources. -/
def Lists (answer : Answer) : Prop := ∃ resources, listed answer = .ok resources

/-- An answer that is no list of operator resources, by what it is instead. -/
inductive Misses : Answer → Prop where
  | unserved
      {reply : Reply}
      (refused : reply.refuses = true)
      (code : reply.refusal.code = 404) :
      Misses (.reply reply)
  | refused
      {reply : Reply}
      (refused : reply.refuses = true)
      (code : reply.refusal.code ≠ 404) :
      Misses (.reply reply)
  | unreachable (reason : String) : Misses (.unreachable reason)
  | undecodable
      {reply : Reply}
      (accepted : reply.refuses = false)
      (fault : DecodeFault)
      (undecoded : reply.body.decode
        (Client.itemsOfDatum? OperatorResource.ofDatum?) =
        .error fault) :
      Misses (.reply reply)

/-- An answer that is none of these is a list. -/
theorem misses_iff {answer : Answer} : Misses answer ↔ ¬ Lists answer := by
  constructor
  · rintro missed ⟨resources, given⟩
    cases missed with
    | unserved refused code => simp [listed, Answer.decode, refused] at given
    | refused refused code => simp [listed, Answer.decode, refused] at given
    | unreachable reason => simp [listed, Answer.decode] at given
    | undecodable accepted fault undecoded =>
        simp [listed, Answer.decode, accepted, undecoded] at given
  · intro absent
    cases answer with
    | unreachable reason => exact .unreachable reason
    | reply reply =>
        cases refused : reply.refuses with
        | true =>
            by_cases code : reply.refusal.code = 404
            · exact .unserved refused code
            · exact .refused refused code
        | false =>
            cases decoded :
                reply.body.decode
                    (Client.itemsOfDatum? OperatorResource.ofDatum?) with
            | error fault => exact .undecodable refused fault decoded
            | ok resources =>
                exact absurd ⟨resources,
                  by simp [listed, Answer.decode, refused, decoded]⟩ absent

theorem served_eq_true_iff {outcome : Except ApiError (List OperatorResource)} :
    served outcome = .ok true ↔ ∃ resources, outcome = .ok resources := by
  cases outcome with
  | ok resources => simp [served]
  | error failure =>
      cases failure with
      | refused refusal => by_cases code : refusal.code = 404 <;>
          simp [served, code]
      | _ => simp [served]

section

variable {host : Host σ} {state : σ}

/-- The answer to a poll. -/
def polled (host : Host σ) (state : σ) : Answer :=
  (host.answer state .objects pollRequest).1

/-- The state of a host after a poll. -/
def afterPoll (host : Host σ) (state : σ) : σ :=
  (host.answer state .objects pollRequest).2

theorem run_check :
    check.run host state = (served (listed (polled host state)),
        afterPoll host state) := by
  have built : Request.list (ClusterObject.collection OperatorResource "")
    [("limit", "1")] =
      .ok pollRequest :=
    Request.list_plain (by decide) (by decide +kernel)
  have sent : Client.list OperatorResource "" [("limit", "1")] =
      .ask .objects pollRequest fun answer => .done (listed answer) := by
    rw [Client.list, built]
    rfl
  rw [check, sent]
  rfl

/-- A round that gets a list is the last one. -/
theorem run_round_of_lists
    (lists : Lists (polled host state))
    (delay : Nat) :
    (round delay).run host state = (.ended (.ok ()), afterPoll host state) := by
  have seen : served (listed (polled host state)) = .ok true :=
    served_eq_true_iff.2 lists
  rw [round, Program.bind_eq, Program.run_bind, run_check, seen]
  rfl

/-- A round that gets no list, whatever it gets, lets its delay pass. -/
theorem run_round_of_misses
    (missed : Misses (polled host state))
    (delay : Nat) :
    (round delay).run host state =
      (.again (nextDelay delay), host.wait (afterPoll host state) delay) := by
  have unseen : served (listed (polled host state)) ≠ .ok true :=
    fun seen => misses_iff.1 missed (served_eq_true_iff.1 seen)
  rw [round, Program.bind_eq, Program.run_bind, run_check]
  dsimp only
  split
  next seen => exact absurd seen unseen
  next => rfl

end

/-! ## One poll after another -/

/-- The delays double, up to a minute. -/
theorem delayAfter_eq (attempt : Nat) :
    delayAfter attempt = min (10 * 2 ^ attempt) 60 := by
  induction attempt with
  | zero => rfl
  | succ attempt ih =>
      rw [delayAfter, nextDelay, longestDelay, ih, Nat.pow_succ]
      omega

section

variable (host : Host σ) (start : σ)

/--
The state of a host before a poll, counted from zero, if no poll before it gets
a list.
-/
def stateAt : Nat → σ
  | 0 => start
  | poll + 1 => host.wait (afterPoll host (stateAt poll)) (delayAfter poll)

/--
The answer of a host to a poll, counted from zero, if no poll before it gets a
list.
-/
def answerAt (poll : Nat) : Answer := polled host (stateAt host start poll)

/-- The first poll that gets a list. -/
structure OpensAt (poll : Nat) : Prop where
  missed : ∀ earlier < poll, Misses (answerAt host start earlier)
  lists : Lists (answerAt host start poll)

variable {host start} {poll : Nat}

/-- Polls among which none is the first to get a list get none. -/
theorem misses_of_not_opensAt
    {limit : Nat}
    (closed : ∀ poll < limit, ¬ OpensAt host start poll)
    (within : poll < limit) : Misses (answerAt host start poll) := by
  induction poll using Nat.strongRecOn with
  | ind poll ih =>
      refine misses_iff.2 fun lists =>
        closed poll within ⟨fun earlier before => ?_, lists⟩
      exact ih earlier before (Nat.lt_trans before within)

/-! ## A limited number of polls -/

/-- Polls that get no list do not bring waiting to an end. -/
theorem run_await_add
    (missed : ∀ earlier < poll, Misses (answerAt host start earlier))
    (attempts : Nat) :
    (await (poll + attempts)).run host start =
      (awaitFrom (delayAfter poll) attempts).run host
          (stateAt host start poll) := by
  induction poll generalizing attempts with
  | zero => rw [Nat.zero_add]; rfl
  | succ poll ih =>
      have last : Misses (answerAt host start poll) :=
        missed poll (Nat.lt_succ_self poll)
      rw [Nat.succ_add_eq_add_succ,
        ih fun earlier before => missed earlier (Nat.lt_succ_of_lt before),
        awaitFrom, Program.bind_eq, Program.run_bind, run_round_of_misses last]
      rfl

theorem run_await_of_misses
    (missed : ∀ earlier < poll, Misses (answerAt host start earlier)) :
    (await poll).run host start = (false, stateAt host start poll) :=
  run_await_add missed 0

theorem run_await_of_opensAt
    (opens : OpensAt host start poll)
    {attempts : Nat}
    (enough : poll < attempts) :
    (await attempts).run host start =
        (true, afterPoll host (stateAt host start poll)) := by
  obtain ⟨more, rfl⟩ := Nat.exists_eq_add_of_lt enough
  rw [Nat.add_assoc, run_await_add opens.missed, awaitFrom, Program.bind_eq,
    Program.run_bind, run_round_of_lists opens.lists]
  rfl

/-! ## Waiting without a limit -/

variable {delay : Nat} {state after : σ} {result : Except OperatorError Unit}

/-- No round ends in anything but success. -/
theorem result_of_run_round
    (last : (round delay).run host state = (.ended result, after)) :
    result = .ok () := by
  by_cases lists : Lists (polled host state)
  · rw [run_round_of_lists lists] at last
    cases last
    rfl
  · rw [run_round_of_misses (misses_iff.2 lists)] at last
    cases last

/--
Waiting ends, always in success, exactly if it is over within some number of
attempts.
-/
theorem endsFrom_iff :
    EndsFrom host delay state result after ↔
      result = .ok () ∧ ∃ attempts,
          (awaitFrom delay attempts).run host state = (true, after) := by
  constructor
  · intro ends
    induction ends with
    | ended last =>
        refine ⟨result_of_run_round last, 1, ?_⟩
        rw [awaitFrom, Program.bind_eq, Program.run_bind, last]
        rfl
    | again turn rest ih =>
        obtain ⟨success, attempts, waited⟩ := ih
        refine ⟨success, attempts + 1, ?_⟩
        rw [awaitFrom, Program.bind_eq, Program.run_bind, turn]
        exact waited
  · rintro ⟨rfl, attempts, waited⟩
    induction attempts generalizing delay state with
    | zero => cases waited
    | succ attempts ih =>
        rw [awaitFrom, Program.bind_eq, Program.run_bind] at waited
        cases turn : (round delay).run host state with
        | mk outcome later =>
            rw [turn] at waited
            cases outcome with
            | ended result =>
                cases waited
                exact .ended (result_of_run_round turn ▸ turn)
            | again next => exact .again turn (ih waited)

/--
Waiting ends with the first poll that gets a list, in success, and in no other
way.
-/
theorem ends_iff :
    Ends host start result after ↔
      ∃ poll, OpensAt host start poll ∧ result = .ok () ∧
        after = afterPoll host (stateAt host start poll) := by
  rw [Ends, endsFrom_iff]
  constructor
  · rintro ⟨success, attempts, waited⟩
    by_cases ever : ∃ poll < attempts, OpensAt host start poll
    · obtain ⟨poll, enough, opens⟩ := ever
      have early := run_await_of_opensAt opens enough
      rw [await, waited] at early
      exact ⟨poll, opens, success, congrArg Prod.snd early⟩
    · have closed : ∀ poll < attempts, ¬ OpensAt host start poll :=
        fun poll within opens => ever ⟨poll, within, opens⟩
      have waiting := run_await_of_misses fun _ within =>
        misses_of_not_opensAt closed within
      rw [await, waited] at waiting
      cases waiting
  · rintro ⟨poll, opens, success, rfl⟩
    exact ⟨success, poll + 1,
      run_await_of_opensAt opens (Nat.lt_succ_self poll)⟩

end

/-! ## What is done meanwhile -/

/--
What is done before a poll, counted from zero, if no poll before it gets a list.
-/
def deedsBefore (answers : Nat → Answer) (poll : Nat) : List Deed :=
  (List.range poll).flatMap fun earlier =>
    [.exchanged ⟨.objects, pollRequest, answers earlier⟩,
      .paused (min (10 * 2 ^ earlier) 60)]

/-- What is done up to a poll and with it. -/
def deedsThrough (answers : Nat → Answer) (poll : Nat) : List Deed :=
  deedsBefore answers poll ++ [.exchanged ⟨.objects, pollRequest, answers poll⟩]

section

variable (answers : Nat → Answer) (poll : Nat)

theorem deedsBefore_succ :
    deedsBefore answers (poll + 1) =
      deedsThrough answers poll ++ [.paused (min (10 * 2 ^ poll) 60)] := by
  simp [deedsBefore, deedsThrough, List.range_succ]

theorem countP_isExchange_deedsThrough :
    (deedsThrough answers poll).countP Deed.isExchange = poll + 1 := by
  induction poll with
  | zero => rfl
  | succ poll ih =>
      rw [deedsThrough, deedsBefore_succ, List.countP_append,
        List.countP_append, ih]
      rfl

variable {answers poll}

theorem bounds_of_mem_deedsBefore
    {seconds : Nat}
    (member : Deed.paused seconds ∈ deedsBefore answers poll) :
    10 ≤ seconds ∧ seconds ≤ 60 := by
  rcases List.mem_flatMap.1 member with ⟨earlier, _, member⟩
  have pause : seconds = min (10 * 2 ^ earlier) 60 := by simpa using member
  have power : 1 ≤ 2 ^ earlier := Nat.one_le_two_pow
  omega

theorem bounds_of_mem_deedsThrough
    {seconds : Nat}
    (member : Deed.paused seconds ∈ deedsThrough answers poll) :
    10 ≤ seconds ∧ seconds ≤ 60 := by
  have earlier : Deed.paused seconds ∈ deedsBefore answers poll := by
    simpa [deedsThrough] using member
  exact bounds_of_mem_deedsBefore earlier

end

section

variable (host : Host σ) (start : σ) (poll : Nat)

theorem stateAt_recording :
    stateAt host.recording (start, []) poll =
      (stateAt host start poll, deedsBefore (answerAt host start) poll) := by
  induction poll with
  | zero => rfl
  | succ poll ih =>
      rw [stateAt, ih, deedsBefore_succ, ← delayAfter_eq]
      rfl

theorem answerAt_recording :
    answerAt host.recording (start, []) poll = answerAt host start poll := by
  rw [answerAt, stateAt_recording]
  rfl

variable {host start poll}

/-- Keeping an account does not change the answers. -/
theorem opensAt_recording :
    OpensAt host.recording (start, []) poll ↔ OpensAt host start poll := by
  constructor
  · rintro ⟨missed, lists⟩
    simp only [answerAt_recording] at missed lists
    exact ⟨missed, lists⟩
  · rintro ⟨missed, lists⟩
    refine ⟨?_, ?_⟩ <;> simpa only [answerAt_recording]

theorem afterPoll_recording :
    afterPoll host.recording (stateAt host.recording (start, []) poll) =
      (afterPoll host (stateAt host start poll),
          deedsThrough (answerAt host start) poll) := by
  rw [stateAt_recording]
  rfl

end

/-! ## Answers in a given order -/

/-- A host that gives answers one after another. -/
def answering (answers : Nat → Answer) : Host Nat where
  answer := fun count _ _ => (answers count, count + 1)
  clock := fun _ => ⟨0⟩
  wait := fun count _ => count

/-- Any answers can come to the polls, in any order. -/
theorem answerAt_answering
    (answers : Nat → Answer)
    (poll : Nat) :
    answerAt (answering answers) 0 poll = answers poll := by
  have count : stateAt (answering answers) 0 poll = poll := by
    induction poll with
    | zero => rfl
    | succ poll ih =>
        rw [stateAt, ih]
        rfl
  rw [answerAt, count]
  rfl

/-- One answer of every kind that is no list, and then an empty list. -/
def outage : Nat → Answer
  | 0 => .reply Store.notFound
  | 1 => .reply (Store.refuse 503 "overloaded" "ServiceUnavailable")
  | 2 => .unreachable "connection refused"
  | 3 => .reply ⟨200, .json (.object [])⟩
  | _ => .reply ⟨200, .json (({} : Store).listing "")⟩

theorem opensAt_outage : OpensAt (answering outage) 0 4 := by
  refine ⟨fun earlier before => ?_, ?_⟩
  · rw [answerAt_answering]
    match earlier, before with
    | 0, _ => exact .unserved rfl (by decide +kernel)
    | 1, _ => exact .refused rfl (by decide +kernel)
    | 2, _ => exact .unreachable _
    | 3, _ => exact .undecodable rfl .mismatched (by rfl)
  · rw [answerAt_answering]
    exact ⟨[], by rfl⟩

/-! ## The end of waiting -/

/--
Waiting ends with the first poll that gets a list, however many polls before it
get none and whatever they get instead: in success, after one request for each
poll and a pause after each of the others, which doubles from ten seconds up to
a minute.  It ends in no other way, and no pause is ever out of these bounds.
-/
theorem wait_ends_with_first_list
    (host : Host σ)
    (start : σ) :
    (∀ poll, OpensAt host start poll →
      (∃ after, Ends host.recording (start, []) (.ok ())
        (after, deedsThrough (answerAt host start) poll)) ∧
      (deedsThrough (answerAt host start) poll).countP Deed.isExchange =
        poll + 1) ∧
    (∀ result after deeds, Ends host.recording (start, []) result (after,
      deeds) →
      result = .ok () ∧
        ∃ poll, OpensAt host start poll ∧
          deeds = deedsThrough (answerAt host start) poll) ∧
    ∀ attempts ended after deeds,
      (await attempts).run host.recording (start, []) = (ended, after, deeds) →
        (ended = true ↔ ∃ poll < attempts, OpensAt host start poll) ∧
        (ended = false → deeds = deedsBefore (answerAt host start) attempts) ∧
        ∀ seconds, Deed.paused seconds ∈ deeds →
            10 ≤ seconds ∧ seconds ≤ 60 := by
  refine ⟨fun poll opens => ⟨?_, countP_isExchange_deedsThrough _ poll⟩, ?_, ?_⟩
  · refine ⟨afterPoll host (stateAt host start poll), ?_⟩
    exact ends_iff.2 ⟨poll, opensAt_recording.2 opens, rfl,
      afterPoll_recording.symm⟩
  · intro result after deeds ends
    rcases ends_iff.1 ends with ⟨poll, opens, rfl, left⟩
    rw [afterPoll_recording, Prod.mk.injEq] at left
    exact ⟨rfl, poll, opensAt_recording.1 opens, left.2⟩
  · intro attempts ended after deeds waited
    by_cases early : ∃ poll < attempts, OpensAt host start poll
    · obtain ⟨poll, enough, opens⟩ := early
      rw [run_await_of_opensAt (opensAt_recording.2 opens) enough,
        afterPoll_recording] at waited
      cases waited
      exact ⟨iff_of_true rfl ⟨poll, enough, opens⟩, nofun, fun _ =>
        bounds_of_mem_deedsThrough⟩
    · have closed : ∀ poll < attempts, ¬ OpensAt host start poll :=
        fun poll within opens => early ⟨poll, within, opens⟩
      have missed : ∀ poll < attempts,
          Misses (answerAt host.recording (start, []) poll) :=
        fun poll within =>
          answerAt_recording host start poll ▸ misses_of_not_opensAt
          closed within
      rw [run_await_of_misses missed, stateAt_recording] at waited
      cases waited
      refine ⟨iff_of_false Bool.false_ne_true early, fun _ => ?_, fun _ => ?_⟩
      · rfl
      · exact bounds_of_mem_deedsBefore

/--
Waiting through every kind of failure takes five requests and four pauses.
-/
theorem wait_ends_with_first_list_outage :
    OpensAt (answering outage) 0 4 ∧
      ∃ after, Ends (answering outage).recording (0, []) (.ok ()) (after, [
        .exchanged ⟨.objects, pollRequest, outage 0⟩, .paused 10,
        .exchanged ⟨.objects, pollRequest, outage 1⟩, .paused 20,
        .exchanged ⟨.objects, pollRequest, outage 2⟩, .paused 40,
        .exchanged ⟨.objects, pollRequest, outage 3⟩, .paused 60,
        .exchanged ⟨.objects, pollRequest, outage 4⟩]) :=
  ⟨opensAt_outage,
    ((wait_ends_with_first_list (answering outage) 0).1 4 opensAt_outage).1⟩

end Gate

end HookKeeper
