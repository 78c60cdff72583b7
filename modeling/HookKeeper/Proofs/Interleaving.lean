import HookKeeper.Proofs.Provenance
import HookKeeper.Proofs.Stock

/-!
# Calls of several instances at once

The requests of any number of calls reach one store in any order, and other
parties write to the store in between.  A call reads before it writes, and what
it writes names the version that it has read.  So a write that takes effect was
made from the document that it takes the place of, however long the call took.
The main statement says that no update is lost: what is stored of a status is
the result of the updates that took effect, one after another, and a call whose
write was refused fails.
-/

namespace HookKeeper

open HookKeeper.Json
open HookKeeper.Json.Value

/--
A turn at a store: a request of a call with its answer, or a write of another
party.
-/
structure Turn where
  before : Stock
  /--
  The call and its exchange; there is none if another party takes the turn.
  -/
  sent : Option (Nat × Exchange)
  after : Stock

def Turn.Admitted (turn : Turn) : Prop :=
  match turn.sent with
  | some (_, exchange) => turn.before.Serves exchange turn.after
  | none => turn.before.Suffers turn.after

/-- Turns one after another, from one state of the store to another. -/
inductive Run : Stock → List Turn → Stock → Prop where
  | done (stock : Stock) : Run stock [] stock
  | turn
      (turn : Turn)
      (admitted : turn.Admitted)
      (rest : Run turn.after turns final) :
      Run turn.before (turn :: turns) final

/-- The exchanges of a call among turns. -/
def exchangesOf (caller : Nat) (turns : List Turn) : List Exchange :=
  turns.filterMap fun turn =>
    turn.sent.bind fun sent => if sent.1 = caller then some sent.2 else none

/--
The turns of an interleaving lead from one state of the store to another, and
those of each call are the beginning of what the call does.
-/
structure Interleaving
    (tasks : Nat → Task)
    (initial : Stock)
    (turns : List Turn)
    (final : Stock) : Prop where
  run : Run initial turns final
  begun : ∀ caller, ∃ rest result,
    (tasks caller).step.Traces (exchangesOf caller turns ++ rest) result

/-! ## Turns in the middle -/

theorem Run.of_append
    {initial final : Stock}
    {past later : List Turn}
    (run : Run initial (past ++ later) final) :
    ∃ middle, Run initial past middle ∧ Run middle later final := by
  induction past generalizing initial with
  | nil => exact ⟨initial, .done initial, run⟩
  | cons first rest ih =>
      cases run with
      | turn _ admitted others =>
          rcases ih others with ⟨middle, early, late⟩
          exact ⟨middle, .turn first admitted early, late⟩

/--
A turn in the middle is admitted, and the turns before it lead to where it
starts.
-/
theorem Run.of_split
    {initial final : Stock}
    {past later : List Turn}
    {turn : Turn}
    (run : Run initial (past ++ turn :: later) final) :
    Run initial past turn.before ∧ turn.Admitted ∧
        Run turn.after later final := by
  rcases run.of_append with ⟨middle, early, late⟩
  cases late with
  | turn _ admitted others => exact ⟨early, admitted, others⟩

theorem Turn.Admitted.serves
    {turn : Turn}
    (admitted : turn.Admitted)
    {caller : Nat}
    {exchange : Exchange}
    (sent : turn.sent = some (caller, exchange)) :
    turn.before.Serves exchange turn.after := by
  rw [Admitted, sent] at admitted
  exact admitted

theorem exchangesOf_append
    (caller : Nat)
    (first second : List Turn) :
    exchangesOf caller (first ++ second) = exchangesOf caller first ++
        exchangesOf caller second :=
  List.filterMap_append

theorem exchangesOf_split
    {caller : Nat}
    {past later : List Turn}
    {turn : Turn}
    {exchange : Exchange}
    (sent : turn.sent = some (caller, exchange)) :
    exchangesOf caller (past ++ turn :: later) =
      exchangesOf caller past ++ exchange :: exchangesOf caller later := by
  rw [exchangesOf_append]
  simp [exchangesOf, sent]

theorem turn_of_mem_exchangesOf
    {caller : Nat}
    {turns : List Turn}
    {exchange : Exchange}
    (member : exchange ∈ exchangesOf caller turns) :
    ∃ turn ∈ turns, turn.sent = some (caller, exchange) := by
  rcases List.mem_filterMap.1 member with ⟨turn, taken, own⟩
  rcases Option.bind_eq_some_iff.1 own with ⟨⟨other, sent⟩, written, same⟩
  rcases Option.ite_none_right_eq_some.1 same with ⟨rfl, ⟨⟩⟩
  exact ⟨turn, taken, written⟩

/-- The first turns of an interleaving are one. -/
theorem Interleaving.beginning
    {tasks : Nat → Task}
    {initial middle final : Stock}
    {past later : List Turn}
    (interleaving : Interleaving tasks initial (past ++ later) final)
    (run : Run initial past middle) :
    Interleaving tasks initial past middle := by
  refine ⟨run, fun caller => ?_⟩
  rcases interleaving.begun caller with ⟨rest, result, trace⟩
  rw [exchangesOf_append, List.append_assoc] at trace
  exact ⟨_, result, trace⟩

/-! ## What a version stands for -/

/-- What a version stands for is the same after any turn. -/
theorem Turn.Admitted.knows
    {turn : Turn}
    (admitted : turn.Admitted)
    {path : String}
    {document : Document}
    (knows : turn.before.Knows path document) :
    turn.after.Knows path document := by
  cases sent : turn.sent with
  | none =>
      rw [Admitted, sent] at admitted
      exact knows.suffers admitted
  | some asked => exact knows.serves (admitted.serves sent)

/-- What a version stands for is the same after any turns. -/
theorem Run.knows
    {initial final : Stock}
    {turns : List Turn}
    (run : Run initial turns final)
    {path : String}
    {document : Document}
    (knows : initial.Knows path document) : final.Knows path document := by
  induction run with
  | done stock => exact knows
  | turn turn admitted _ ih => exact ih (admitted.knows knows)

/--
What a call has read was stored then, and what its version stands for is still
the same.
-/
theorem Run.stored_of_shown
    {caller : Nat}
    {initial now : Stock}
    {past : List Turn}
    (run : Run initial past now)
    {α : Type}
    [ClusterObject α]
    (kind : ReadSingly α)
    {object : α}
    (shown : ShownIn (exchangesOf caller past) α object) :
    ∃ reading ∈ past, ∃ read path document,
      reading.sent = some (caller, read) ∧ read.Shows α object ∧
        reading.before.documents path = some document ∧
          document.Shows α object ∧
          now.Knows path document := by
  rcases shown with ⟨read, member, shows⟩
  rcases turn_of_mem_exchangesOf member with ⟨reading, taken, sent⟩
  rcases List.append_of_mem taken with ⟨earlier, later, rfl⟩
  rcases run.of_split with ⟨_, admitted, rest⟩
  rcases (admitted.serves sent).shows kind shows with
    ⟨path, document, stored, is⟩
  exact ⟨reading, taken, read, path, document, sent, shows, stored, is,
    rest.knows (admitted.knows (.of_stored stored))⟩

/-! ## What writes take the place of -/

namespace Interleaving

variable {tasks : Nat → Task} {initial final : Stock}
  {turns past later : List Turn} {turn : Turn} {caller : Nat}
  {exchange : Exchange} {path : String}

theorem serves
    (interleaving : Interleaving tasks initial turns final)
    (split : turns = past ++ turn :: later)
    (sent : turn.sent = some (caller, exchange)) :
    turn.before.Serves exchange turn.after := by
  subst split
  exact interleaving.run.of_split.2.1.serves sent

/-- A write that takes effect is made from what its call has read before. -/
theorem makes
    (interleaving : Interleaving tasks initial turns final)
    (split : turns = past ++ turn :: later)
    (sent : turn.sent = some (caller, exchange))
    (commits : turn.before.Commits exchange.request path turn.after) :
    (tasks caller).Makes (ShownIn (exchangesOf caller past))
        exchange.request := by
  have about := (interleaving.serves split sent).about_objects commits
  rcases interleaving.begun caller with ⟨rest, result, trace⟩
  rw [split, exchangesOf_split sent, List.append_assoc,
    List.cons_append] at trace
  exact (Task.makes_of_traces trace about commits.method_ne_get).1

/--
A write that takes effect on a document is made from this very document, as the
same call has read it before.
-/
theorem replaces
    (interleaving : Interleaving tasks initial turns final)
    (split : turns = past ++ turn :: later)
    (sent : turn.sent = some (caller, exchange))
    (commits : turn.before.Commits exchange.request path turn.after)
    (other : exchange.request.method ≠ .post) :
    ∃ document, turn.before.documents path = some document ∧
      ∃ reading ∈ past, ∃ read,
        reading.sent = some (caller, read) ∧
          reading.before.documents path = some document ∧
          (tasks caller).Makes
            (fun α [ClusterObject α] object => read.Shows α object ∧
              document.Shows α object)
            exchange.request := by
  rcases (interleaving.makes split sent commits).source other with
    ⟨α, _, object, kind, shown, named, makes⟩
  subst split
  rcases interleaving.run.of_split.1.stored_of_shown kind shown with
    ⟨reading, taken, read, place, document, asked, shows, stored, is, knows⟩
  -- The body names the version that was read, and only the document read has
  -- that version.
  rcases knows.given with ⟨version, versioned, _⟩
  have sends : exchange.request.content.version? = some version := by
    rw [named, ← is.version kind, versioned]
  rcases commits.stored other sends with ⟨replaced, present, same⟩
  rcases knows.unique path replaced present (same.trans versioned.symm) with
    ⟨rfl, rfl⟩
  exact ⟨replaced, present, reading, taken, read, asked, stored,
    makes _ ⟨shows, is⟩⟩

end Interleaving

/-! ## What becomes of a status -/

def IsOperatorPath (path : String) : Prop :=
  (ClusterObject.collection OperatorResource "").toList <+: path.toList

instance : DecidablePred IsOperatorPath := fun _ =>
    inferInstanceAs (Decidable (_ <+: _))

/--
A write takes effect as an update: it patches the status to an edit of what
stood there.
-/
inductive Updates
    (task : Task)
    (request : Request)
    (before landed : OperatorStatus) : Prop where
  | patch
      (name : String)
      (edit : String → OperatorStatus → OperatorStatus)
      (now : String)
      (operator : OperatorResource)
      (edits : task.Edits name edit)
      (carried : request.body = some (operator.statusPatch (edit now before)))
      (lands : (edit now before).LandsAs before landed)

/--
The status at a path in the course of turns.  A write of a call that takes
effect there is an update of this call; other parties may put anything there,
and nobody else touches it.
-/
inductive Evolves
    (tasks : Nat → Task)
    (path : String) :
    Option OperatorStatus → List Turn → Option OperatorStatus → Prop where
  | done (status : Option OperatorStatus) : Evolves tasks path status [] status
  | updated
      (turn : Turn)
      (caller : Nat)
      (exchange : Exchange)
      (before landed : OperatorStatus)
      (sent : turn.sent = some (caller, exchange))
      (commits : turn.before.Commits exchange.request path turn.after)
      (updates : Updates (tasks caller) exchange.request before landed)
      (rest : Evolves tasks path (some landed) turns final) :
      Evolves tasks path (some before) (turn :: turns) final
  | overwritten
      (turn : Turn)
      (status : Option OperatorStatus)
      (outside : turn.sent = none)
      (rest : Evolves tasks path (turn.after.report? path) turns final) :
      Evolves tasks path status (turn :: turns) final
  | untouched
      (turn : Turn)
      (status : Option OperatorStatus)
      (same : turn.after.documents path = turn.before.documents path)
      (rest : Evolves tasks path status turns final) :
      Evolves tasks path status (turn :: turns) final

/-- A write of an applied object goes to no operator resource. -/
theorem Task.Makes.not_isOperatorPath
    {task : Task}
    {Shown : (α : Type) → [ClusterObject α] → α → Prop}
    {request : Request}
    (makes : task.Makes Shown request)
    (other : request.method ≠ .patch) :
    ¬ IsOperatorPath request.address.path ∧
      ∀ name, ¬ IsOperatorPath (request.address.path ++ "/" ++ name) := by
  have foreign {collection : String} (foreign : Request.IsForeign collection)
      (begins : ∀ start : List Char, start <+: collection.toList →
        (start.all fun c => c != '#' && c != '?') = true →
          start <+: request.address.path.toList) :
      ¬ IsOperatorPath request.address.path ∧
        ∀ name, ¬ IsOperatorPath (request.address.path ++ "/" ++ name) := by
    refine ⟨foreign.not_prefix begins, fun name =>
      foreign.not_prefix fun start within plain => ?_⟩
    rw [String.toList_append, String.toList_append, List.append_assoc]
    exact (begins start within plain).trans (List.prefix_append _ _)
  cases makes with
  | status _ _ _ _ _ _ _ built =>
      exact absurd (Request.of_patchStatus built).1 other
  | replacement _ _ _ _ _ _ applies _ built =>
      exact foreign applies.isForeign fun start => Request.replace_begins built
  | creation _ _ _ _ _ applies built =>
      exact foreign applies.isForeign fun start => Request.create_begins built

namespace Interleaving

variable {tasks : Nat → Task} {initial final : Stock}
  {turns past later : List Turn} {turn : Turn} {caller : Nat}
  {exchange : Exchange} {path : String}

/--
A write of a call that takes effect at an operator resource updates the status
there.
-/
theorem updates
    (interleaving : Interleaving tasks initial turns final)
    (split : turns = past ++ turn :: later)
    (sent : turn.sent = some (caller, exchange))
    (commits : turn.before.Commits exchange.request path turn.after)
    (operatorPath : IsOperatorPath path) :
    ∃ before landed,
      turn.before.report? path = some before ∧
        turn.after.report? path = some landed ∧
        Updates (tasks caller) exchange.request before landed := by
  have makes := interleaving.makes split sent commits
  have replaces := interleaving.replaces split sent commits
  cases commits with
  | created name document method target =>
      subst target
      exact absurd operatorPath
        ((makes.not_isOperatorPath (by simp [method])).2 name)
  | replaced stored document method target =>
      subst target
      exact absurd operatorPath (makes.not_isOperatorPath (by simp [method])).1
  | patched stored document method target present current merged puts =>
      rcases replaces (by simp [method]) with
        ⟨replaced, found, _, _, _, _, _, made⟩
      obtain rfl := Option.some.inj (present.symm.trans found)
      cases made with
      | status name edit operator now _ edits shown built =>
          -- The status that was edited is the one that the patch is merged
          -- into.
          have read : OperatorResource.ofDatum? (.ofValue stored.value) =
            some operator := shown.2
          have carried := (Request.of_patchStatus built).2
          rcases (edit now (operator.status.getD {})).toValue_eq with
            ⟨members, written, _⟩
          have given : exchange.request.content.member? "status" =
              some (.object (sortedMembers [] members)) := by
            rw [Request.content_of_body carried,
              OperatorResource.sorted_statusPatch, written, sorted]
            rfl
          rcases Document.report_of_status read
              (edit now (operator.status.getD {})) with
            ⟨landed, shows, lands⟩
          rw [written, sorted] at shows
          refine ⟨operator.status.getD {}, landed, ?_, ?_,
            .patch name edit now operator edits carried lands⟩
          · rw [Stock.report?, present, Option.bind_some,
              Document.report?_of_read read]
          · rw [Stock.report?, puts.documents, Function.update_self,
              Option.bind_some, Document.report?, merged _ given, shows]
      | replacement _ _ _ _ _ _ _ _ built =>
          cases (Request.of_replace built).1.symm.trans method
      | creation _ _ _ _ _ _ built =>
          cases (Request.of_create built).1.symm.trans method

/-- From any turn on the status at an operator resource evolves by updates. -/
theorem evolves
    (interleaving : Interleaving tasks initial turns final)
    (operatorPath : IsOperatorPath path)
    (split : turns = past ++ later)
    {middle : Stock}
    (run : Run middle later final) :
    Evolves tasks path (middle.report? path) later (final.report? path) := by
  -- The turns stay whole in the induction: a write is judged by all that its
  -- call has read.
  induction later generalizing past middle with
  | nil =>
      cases run
      exact .done _
  | cons turn rest ih =>
      cases run with
      | turn _ admitted others =>
          have further : turns = (past ++ [turn]) ++ rest := by
            simpa using split
          have evolved := ih further others
          have untouched
              (same : turn.after.documents path = turn.before.documents path) :
              Evolves tasks path (turn.before.report? path) (turn :: rest)
                (final.report? path) := by
            refine .untouched turn _ same ?_
            rwa [Stock.report?, same] at evolved
          cases sent : turn.sent with
          | none => exact .overwritten turn _ sent evolved
          | some asked =>
              rcases asked with ⟨caller, exchange⟩
              rcases (interleaving.serves split sent).outcome with
                same | ⟨other, commits, _⟩
              · exact untouched (by rw [same])
              by_cases here : path = other
              · subst here
                rcases interleaving.updates split sent commits operatorPath with
                  ⟨before, landed, stood, stands, updates⟩
                rw [stood]
                rw [stands] at evolved
                exact .updated turn caller exchange before landed sent commits
                  updates evolved
              · exact untouched (commits.elsewhere here)

/-- A write that is refused changes nothing, and its call fails of it. -/
theorem refused
    (interleaving : Interleaving tasks initial turns final)
    (split : turns = past ++ turn :: later)
    (sent : turn.sent = some (caller, exchange))
    (about : exchange.channel = .objects)
    (writes : exchange.request.method ≠ .get)
    {reply : Reply}
    (answered : exchange.answer = .reply reply)
    (refuses : reply.refuses = true) :
    turn.after = turn.before ∧
      ∀ rest result,
        (tasks caller).step.Traces (exchangesOf caller turns ++ rest) result →
        ∃ error, result = .error error ∧
          (tasks caller).FailsBy (.refused reply.refusal)
              exchange.request.method error := by
  constructor
  · rcases (interleaving.serves split sent).outcome with same | ⟨_, _, accepted⟩
    · exact same
    · cases refuses.symm.trans (accepted reply answered)
  · intro rest result trace
    rw [split, exchangesOf_split sent, List.append_assoc,
      List.cons_append] at trace
    exact (Task.makes_of_traces trace about writes).2 reply answered refuses

end Interleaving

/-! ## Requests to the store of the server -/

/--
What the store of the server makes of the requests of some callers, one after
another.
-/
def Store.serve (store : Store) :
    List (Nat × Request) → List (Nat × Exchange) × Store
  | [] => ([], store)
  | (caller, request) :: rest =>
      let (reply, after) := store.handle request
      let (others, final) := after.serve rest
      ((caller, ⟨.objects, request, .reply reply⟩) :: others, final)

/-- Whatever is asked of the store of the server, in any order, makes turns. -/
theorem Store.exists_run
    {store : Store}
    (orderly : store.Orderly)
    {requests : List (Nat × Request)}
    (objects : ∀ asked ∈ requests, Path.isEvent asked.2.address.path = false) :
    ∃ (turns : List Turn) (left : (store.serve requests).2.Orderly),
      Run (store.stock orderly) turns ((store.serve requests).2.stock left) ∧
        turns.map Turn.sent = (store.serve requests).1.map some := by
  induction requests generalizing store with
  | nil => exact ⟨[], orderly, .done _, rfl⟩
  | cons first rest ih =>
      rcases first with ⟨caller, request⟩
      rcases List.forall_mem_cons.1 objects with ⟨here, others⟩
      rcases answers_handle orderly request here with ⟨kept, serves⟩
      rcases ih kept others with ⟨turns, left, run, sent⟩
      let turn : Turn := ⟨store.stock orderly,
        some (caller, ⟨.objects, request, .reply (store.handle request).1⟩),
        (store.handle request).2.stock kept⟩
      exact ⟨turn :: turns, left, .turn turn serves run,
        by simp [turn, serve, sent]⟩

theorem exchangesOf_eq
    (caller : Nat)
    (turns : List Turn) :
    exchangesOf caller turns =
      (turns.map Turn.sent).filterMap fun sent =>
        sent.bind fun sent => if sent.1 = caller then some sent.2
            else none := by
  rw [List.filterMap_map]
  rfl

/--
Let calls and other parties take turns at a store in any order.  A replacement
or a patch of a call that takes effect takes the place of exactly the document
that it was made from, as the call had read it.  So what is stored of a status
comes about, at any time, by the updates that took effect one after another,
each an edit of what the one before it left.  And a write that is refused
changes nothing and ends its call with a failure.
-/
theorem no_lost_update
    {tasks : Nat → Task}
    {initial final : Stock}
    {turns : List Turn}
    (interleaving : Interleaving tasks initial turns final) :
    (∀ past turn later caller exchange path,
      turns = past ++ turn :: later → turn.sent = some (caller, exchange) →
        turn.before.Commits exchange.request path turn.after →
        exchange.request.method ≠ .post →
          ∃ document, turn.before.documents path = some document ∧
            ∃ reading ∈ past, ∃ read,
              reading.sent = some (caller, read) ∧
              reading.before.documents path = some document ∧
              (tasks caller).Makes
                (fun α [ClusterObject α] object =>
                  read.Shows α object ∧ document.Shows α object)
                exchange.request) ∧
    (∀ path past later middle, IsOperatorPath path → turns = past ++ later →
      Run initial past middle →
        Evolves tasks path (initial.report? path) past (middle.report? path)) ∧
    ∀ past turn later caller exchange reply,
      turns = past ++ turn :: later → turn.sent = some (caller, exchange) →
        exchange.channel = .objects → exchange.request.method ≠ .get →
        exchange.answer = .reply reply → reply.refuses = true →
          turn.after = turn.before ∧
            ∀ rest result,
              (tasks caller).step.Traces (exchangesOf caller turns ++ rest)
              result →
              ∃ error, result = .error error ∧
                (tasks caller).FailsBy (.refused reply.refusal)
                    exchange.request.method error := by
  refine ⟨?_, ?_, ?_⟩
  · intro past turn later caller exchange path split sent commits other
    exact interleaving.replaces split sent commits other
  · intro path past later middle operatorPath split run
    subst split
    exact (interleaving.beginning run).evolves operatorPath
      (List.nil_append past).symm run
  · intro past turn later caller exchange reply split sent about writes answered
      refuses
    exact interleaving.refused split sent about writes answered refuses

/--
Calls that mark the operator resource as degraded, each by a failure of its own.
-/
def racers (caller : Nat) : Task :=
  .updateStatus "cluster" fun now status =>
    status.setCondition
      (Health.degraded (some (if caller = 0 then "no webhook" else "no node")))
        now

def racePath : String :=
  "/apis/operator.openshift.io/v1/csisnapshotcontrollers/cluster"

def raceRead : Request := ⟨.get, ⟨racePath, []⟩, none⟩

def racePatch (caller : Nat) : Request :=
  ⟨.patch, ⟨racePath ++ "/status", []⟩, some (storedOperator.statusPatch
    (OperatorStatus.setCondition { observedGeneration := some 3 }
      (Health.degraded (some (if caller = 0 then "no webhook" else "no node")))
      "2023-11-14T22:13:20Z"))⟩

/-- Both calls read before either of them writes. -/
def race : List (Nat × Request) :=
  [(0, raceRead), (1, raceRead), (0, racePatch 0), (1, racePatch 1)]

/-- The stored document after the update of the first call. -/
def racedDocument : Value :=
  .object [("apiVersion", .text "operator.openshift.io/v1"),
    ("kind", .text "CSISnapshotController"),
    ("metadata", .object [("labels", .object [("team", .text "storage")]),
      ("name", .text "cluster"), ("resourceVersion", .text "8")]),
    ("spec", .object [("managementState", .text "Managed")]),
    ("status", .object [
      ("conditions",
        .array [.object [("lastTransitionTime", .text "2023-11-14T22:13:20Z"),
        ("message", .text "no webhook"), ("reason", .text "SyncError"),
        ("status", .text "True"),
        ("type", .text "CSISnapshotWebhookControllerDegraded")]]),
      ("generations", .array []), ("observedGeneration", .int 3),
        ("readyReplicas", .int 1)])]

theorem serve_race :
    storingServer.store.serve race =
      ([(0, ⟨.objects, raceRead, .reply ⟨200, .json storedDocument⟩⟩),
        (1, ⟨.objects, raceRead, .reply ⟨200, .json storedDocument⟩⟩),
        (0, ⟨.objects, racePatch 0, .reply ⟨200, .json racedDocument⟩⟩),
        (1, ⟨.objects, racePatch 1, .reply Store.conflict⟩)],
        ⟨[(racePath, racedDocument)], 8⟩) := by
  decide +kernel

theorem storing_orderly : storingServer.store.Orderly := by
  have single {path : String} {value : Value}
      (found : storingServer.store.find? path = some value) :
      path = racePath ∧ value = storedDocument := by
    have member := mem_of_lookup found
    simpa [storingServer, racePath] using member
  constructor
  case document =>
    intro path value found
    rcases single found with ⟨rfl, rfl⟩
    exact ⟨⟨storedDocument.members, by decide +kernel⟩, rfl⟩
  case versioned =>
    intro path value found
    rcases single found with ⟨rfl, rfl⟩
    exact ⟨7, by decide, by decide +kernel⟩
  case distinct =>
    intro path other value another found stored _
    exact (single found).1.trans (single stored).1.symm

/-- A server that shows a call of the race what the call is shown there. -/
def raceServer (caller : Nat) : Server :=
  if caller = 0 then storingServer
  else {
    storingServer with
    store := ⟨[(racePath, racedDocument)], 8⟩
    prepared := [⟨.get, racePath, .reply ⟨200, .json storedDocument⟩, none⟩] }

/-- In the race each call does what it does against its server. -/
theorem race_begun
    {turns : List Turn}
    (sent : turns.map Turn.sent = (storingServer.store.serve race).1.map some)
    (caller : Nat) :
    ∃ rest result,
        (racers caller).step.Traces (exchangesOf caller turns ++ rest)
        result := by
  rw [exchangesOf_eq, sent, serve_race]
  have whole (exchanges : List Exchange) (server : Server)
      (same : exchanges =
          (racers caller).step.exchanges Server.host server {}) :
      ∃ rest result,
          (racers caller).step.Traces (exchanges ++ rest) result := by
    rw [same]
    exact ⟨[], _, by rw [List.append_nil]; exact Step.traces_run _ _ _ _⟩
  match caller with
  | 0 => exact whole _ (raceServer 0) (by decide +kernel)
  | 1 => exact whole _ (raceServer 1) (by decide +kernel)
  -- No other call has sent anything yet.
  | other + 2 =>
      simp only [List.map_cons, List.map_nil, List.filterMap_cons,
        List.filterMap_nil, Option.bind_some]
      exact ⟨_, _, Step.traces_run Server.host storingServer {} _⟩

/--
Of two calls that race for the status, one lands its update and the other fails.
-/
theorem no_lost_update_race :
    ∃ turns final,
      Interleaving racers (storingServer.store.stock storing_orderly) turns
        final ∧
        Evolves racers racePath (some { observedGeneration := some 3 }) turns
          (some (OperatorStatus.setCondition { observedGeneration := some 3 }
            (Health.degraded (some "no webhook")) "2023-11-14T22:13:20Z")) ∧
        ∀ rest result,
          (racers 1).step.Traces (exchangesOf 1 turns ++ rest) result →
          ∃ error, result = .error error ∧
            (racers 1).FailsBy (.refused Store.conflict.refusal) .patch
                error := by
  rcases @Store.exists_run _ storing_orderly race (by decide +kernel) with
    ⟨turns, left, run, sent⟩
  have interleaving : Interleaving racers _ turns _ := ⟨run, race_begun sent⟩
  rcases no_lost_update interleaving with ⟨_, evolves, refused⟩
  refine ⟨turns, _, interleaving, ?_, ?_⟩
  · have evolved :=
      evolves racePath turns [] _ (by decide +kernel)
        (List.append_nil _).symm run
    rw [Store.report?_stock, Store.report?_stock, serve_race] at evolved
    have starts :
        ((storingServer.store.find? racePath).bind Value.document?).bind
          Document.report? =
          some { observedGeneration := some 3 } := by
      decide +kernel
    have ends :
        (((⟨[(racePath, racedDocument)], 8⟩ : Store).find? racePath).bind
            Value.document?).bind Document.report? =
          some (OperatorStatus.setCondition { observedGeneration := some 3 }
            (Health.degraded (some "no webhook")) "2023-11-14T22:13:20Z") := by
      decide +kernel
    rwa [starts, ends] at evolved
  · rw [serve_race] at sent
    have last : turns.map Turn.sent = [some (0, _), some (1, _), some (0, _)] ++
        [some (1, ⟨.objects, racePatch 1, .reply Store.conflict⟩)] :=
      sent
    rcases List.map_eq_append_iff.1 last with ⟨past, rest, split, _, only⟩
    rcases List.map_eq_singleton_iff.1 only with ⟨turn, rfl, asked⟩
    exact (refused past turn [] 1 _ Store.conflict split asked rfl
      (by decide) rfl rfl).2

end HookKeeper
