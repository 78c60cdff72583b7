import HookKeeper.Cluster.Object
import HookKeeper.Cycle.Step
import HookKeeper.Manifest.Rendering

/-!
# Applying objects

A live object has to be written when it lacks a wanted label or annotation, or
when its generation is not the one that was recorded for it.  A write layers
the wanted labels and annotations over the live ones, puts the wanted content
in place of the live one, and keeps everything else of the live object; the
certificates that were put into a live hook stay in it unless others are
wanted.

Applying an object reads the live one, decides what has to be done, and does
it: nothing, the creation of an absent object, or the replacement of one that
has to be written.  Every write is followed by one event about its result.
-/

/-! ## Wanted and live objects -/

namespace HookKeeper

/-- Whether every wanted entry is a live one. -/
def isCovered (wanted live : Option TextMap) : Bool :=
  match wanted with
  | none => true
  | some entries => entries.isSubmap (live.getD .empty)

/-- The live entries with the wanted ones over them. -/
def layered (wanted live : Option TextMap) : Option TextMap :=
  match wanted with
  | none => live
  | some entries => some ((live.getD .empty).layer entries)

namespace ObjectMeta

/-- Whether an object has another generation than the one recorded for it. -/
def isEdited (live : ObjectMeta) (recorded : Option Int64) : Bool :=
  match recorded with
  | none => false
  | some generation => live.generation != some generation

/-- Whether a live object has to be written. -/
def needsUpdate (live wanted : ObjectMeta) (recorded : Option Int64) : Bool :=
  live.isEdited recorded || !isCovered wanted.labels live.labels
    || !isCovered wanted.annotations live.annotations

/-- The live metadata with the wanted labels and annotations over it. -/
def merged (live wanted : ObjectMeta) : ObjectMeta :=
  { live with
    labels := layered wanted.labels live.labels
    annotations := layered wanted.annotations live.annotations }

end ObjectMeta

/--
The Deployment to write: the live one with the wanted metadata and
specification.
-/
def Deployment.merged (live wanted : Deployment) : Deployment :=
  { live with
    metadata := live.metadata.merged wanted.metadata
    spec := wanted.spec }

/--
The hook with the certificates of the first live hook of its name, unless it has
its own.
-/
def Hook.keepingBundle (hook : Hook) (live : List Hook) : Hook :=
  match hook.clientConfig.caBundle with
  | some _ => hook
  | none =>
      match live.find? fun other => other.name == hook.name with
      | none => hook
      | some other =>
          { hook with
            clientConfig :=
              { hook.clientConfig with
                caBundle := other.clientConfig.caBundle } }

/-- The hooks to write. -/
def Hook.merged (live wanted : Option (List Hook)) : Option (List Hook) :=
  wanted.map fun hooks =>
    match live with
    | none => hooks
    | some others => hooks.map fun hook => hook.keepingBundle others

/--
The registration to write: the live one with the wanted metadata and hooks.
-/
def Registration.merged (live wanted : Registration) : Registration :=
  { live with
    metadata := live.metadata.merged wanted.metadata
    webhooks := Hook.merged live.webhooks wanted.webhooks }

end HookKeeper

/-! ## Plans and writes -/

namespace HookKeeper

/-- What has to be done to apply an object. -/
inductive ApplyPlan (α : Type) where
  | create (object : α)
  | keep (live : α)
  | replace (object : α)
  deriving Repr

/-- The plan for a wanted object, given the live one. -/
def ApplyPlan.of
    [ClusterObject α]
    (merge : α → α → α)
    (wanted : α)
    (recorded : Option Int64) : Option α → ApplyPlan α
  | none => .create wanted
  | some live =>
      if (ClusterObject.metadata live).needsUpdate
          (ClusterObject.metadata wanted) recorded then
        .replace (merge live wanted)
      else .keep live

/-- The live object after an apply, and whether it was written. -/
structure Applied (α : Type) where
  live : α
  changed : Bool
  deriving DecidableEq, Repr

/-- The two ways to write an object. -/
inductive Write where
  | creation
  | update
  deriving DecidableEq, Repr

namespace Write

/-- How a write that succeeded is told. -/
def doneWord : Write → String
  | .creation => "Created"
  | .update => "Updated"

/-- How a write that failed is told. -/
def failedWord : Write → String
  | .creation => "CreateFailed"
  | .update => "UpdateFailed"

/-- What is told about a write that succeeded. -/
def doneNotice (write : Write) (kind name : String) : Notice :=
  ⟨.normal, kind ++ write.doneWord,
    write.doneWord ++ " " ++ kind ++ " " ++ name⟩

/-- What is told about a write that failed. -/
def failedNotice (write : Write) (kind : String) (cause : ApiError) : Notice :=
  ⟨.warning, kind ++ write.failedWord, cause.message⟩

end Write

namespace Step

variable {α : Type} [ClusterObject α]

/-- Write an object and tell the result. -/
def commit
    (write : Write)
    (name : String)
    (sent : α)
    (program : Program (Except ApiError α)) : Step (Applied α) := do
  match ← attempt program with
  | .ok live =>
      publish live (write.doneNotice (ClusterObject.kind α) name)
      return ⟨live, true⟩
  | .error cause =>
      publish sent (write.failedNotice (ClusterObject.kind α) cause)
      throw (.apply (ClusterObject.kind α) name cause)

/-- Do what a plan says. -/
def carryOut (namespaceName name : String) : ApplyPlan α → Step (Applied α)
  | .create object =>
      commit .creation name object (Client.create namespaceName object)
  | .keep live => return ⟨live, false⟩
  | .replace object =>
      commit .update name object (Client.replace namespaceName name object)

/-- Apply an object of a namespace, with the way to merge it into a live one. -/
def apply
    (namespaceName : String)
    (merge : α → α → α)
    (wanted : α)
    (recorded : Option Int64) : Step (Applied α) := do
  let name := (ClusterObject.metadata wanted).anyName
  let live ← request (.apply (ClusterObject.kind α) name)
    (Client.find? α namespaceName name)
  carryOut namespaceName name (.of merge wanted recorded live)

/-- Apply a Deployment, with the hash of its specification. -/
def applyDeployment
    (wanted : Deployment)
    (recorded : Option Int64) : Step (Applied Deployment) :=
  apply (wanted.metadata.namespaceName.getD "") Deployment.merged wanted.stamped
    recorded

def applyRegistration
    (wanted : Registration)
    (recorded : Option Int64) : Step (Applied Registration) :=
  apply "" Registration.merged wanted recorded

end Step

end HookKeeper
