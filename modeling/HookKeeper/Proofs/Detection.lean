import HookKeeper.Proofs.Faithful
import HookKeeper.Proofs.Quiescence
import Mathlib.Data.List.TakeWhile

/-!
# Changes of content are noticed

A live object that carries the hash of other content than is wanted is written,
whatever generation is recorded for it.  Names of objects are plain where the
requests for them are given in full.
-/

namespace HookKeeper

open HookKeeper.Json
open HookKeeper.Manifest

/-! ## Requests for plain names -/

/-- A name of lower-case letters, digits, dashes and dots. -/
structure IsPlainName (name : String) : Prop where
  given : name ≠ ""
  short : name.utf8ByteSize ≤ 253
  plain : ∀ character ∈ name.toList,
    character.isLower = true ∨ character.isDigit = true ∨ character = '-' ∨
      character = '.'

namespace Address

/-- A character of a path that marks no end of it. -/
def isPlainChar (character : Char) : Bool :=
  isPathChar character && character != '#' && character != '?'

/--
A target of plain characters is its own path, with no parameters but those
added.
-/
theorem ofTarget_plain
    {target : String}
    {added : Option (List (String × String))}
    (plain : target.toList.all isPlainChar = true)
    (short :
        target.utf8ByteSize +
        ((added.map fun entries => addedLength entries + 1).getD 0) ≤ longest) :
    ofTarget target added = .ok ⟨target, added.getD []⟩ := by
  have passes : ∀ character ∈ target.toList,
      (isPathChar character = true ∧ (character != '#') = true) ∧
          (character != '?') = true := by
    simpa [isPlainChar] using plain
  have shown : target.toList.takeWhile (· != '#') = target.toList :=
    List.takeWhile_eq_self_iff.2 fun character member =>
      (passes character member).1.2
  have path : target.toList.takeWhile (· != '?') = target.toList :=
    List.takeWhile_eq_self_iff.2 fun character member =>
      (passes character member).2
  have tail : target.toList.dropWhile (· != '?') = [] :=
    List.dropWhile_eq_nil_iff.2 fun character member =>
      (passes character member).2
  have valid : target.toList.all isPathChar = true :=
    List.all_eq_true.2 fun character member => (passes character member).1.1
  unfold ofTarget
  simp only [shown, path, tail, valid]
  rw [if_neg (by omega)]
  simp [parameters]

end Address

theorem IsPlainName.all
    {name : String}
    (named : IsPlainName name) :
    name.toList.all Address.isPlainChar = true := by
  refine List.all_eq_true.2 fun character member => ?_
  have code : (97 ≤ character.toNat ∧ character.toNat ≤ 122) ∨
      (48 ≤ character.toNat ∧ character.toNat ≤ 57) ∨
        character.toNat = 45 ∨ character.toNat = 46 := by
    rcases named.plain character member with lower | digit | rfl | rfl
    · rcases Bool.and_eq_true_iff.1 lower with ⟨least, most⟩
      exact .inl ⟨of_decide_eq_true least, of_decide_eq_true most⟩
    · rcases Bool.and_eq_true_iff.1 digit with ⟨least, most⟩
      exact .inr (.inl ⟨of_decide_eq_true least, of_decide_eq_true most⟩)
    · decide
    · decide
  have apart {other : Char} (differs : character.toNat ≠ other.toNat) :
      character ≠ other :=
    fun same => differs (congrArg Char.toNat same)
  have unmarked : character ≠ '#' :=
    apart (by simp only [Char.reduceToNat]; omega)
  have unasked : character ≠ '?' :=
    apart (by simp only [Char.reduceToNat]; omega)
  simp [Address.isPlainChar, Address.isPathChar, unmarked, unasked]
  omega

/-- A collection has a plain path, short enough for any plain name after it. -/
def IsPlainCollection (collection : String) : Prop :=
  collection.toList.all Address.isPlainChar = true ∧
    collection.utf8ByteSize ≤ 300

theorem isPlainCollection_deployments
    {namespaceName : String}
    (named : IsPlainName namespaceName) :
    IsPlainCollection (ClusterObject.collection Deployment namespaceName) := by
  have short := named.short
  have size : (ClusterObject.collection Deployment namespaceName).utf8ByteSize =
      25 + namespaceName.utf8ByteSize + 12 := by
    simp only [ClusterObject.collection, String.utf8ByteSize_append]
    rfl
  refine ⟨?_, by omega⟩
  simp only [ClusterObject.collection, String.toList_append, List.all_append,
    named.all]
  decide

theorem isPlainCollection_registrations :
    IsPlainCollection (ClusterObject.collection Registration "") := by
  constructor <;> decide

namespace Request

variable {collection name : String}

theorem ofTarget_plain
    (plain : IsPlainCollection collection)
    (named : IsPlainName name)
    (added : Option (List (String × String)))
    (few : ((added.map fun entries => Address.addedLength entries + 1).getD 0) ≤
        100) :
    Address.ofTarget (collection ++ "/" ++ name) added =
      .ok ⟨collection ++ "/" ++ name, added.getD []⟩ := by
  have size : (collection ++ "/" ++ name).utf8ByteSize =
      collection.utf8ByteSize + 1 + name.utf8ByteSize := by
    rw [String.utf8ByteSize_append, String.utf8ByteSize_append]
    rfl
  have short := named.short
  have little := plain.2
  refine Address.ofTarget_plain ?_ (by rw [size, Address.longest]; omega)
  simp only [String.toList_append, List.all_append, plain.1, named.all]
  decide

theorem read_plain
    (plain : IsPlainCollection collection)
    (named : IsPlainName name) :
    read collection name = .ok ⟨.get, ⟨collection ++ "/" ++ name, []⟩,
        none⟩ := by
  simp only [read, target, if_neg named.given]
  show Address.ofTarget _ none >>= _ = _
  rw [ofTarget_plain plain named none (by decide)]
  rfl

theorem replace_plain
    (plain : IsPlainCollection collection)
    (named : IsPlainName name)
    (object : Value) :
    replace collection name object =
      .ok ⟨.put, ⟨collection ++ "/" ++ name, author⟩, some object⟩ := by
  simp only [replace, target, if_neg named.given]
  show Address.ofTarget _ (some author) >>= _ = _
  rw [ofTarget_plain plain named (some author) (by decide +kernel)]
  rfl

/-- A list is asked for at the path of its collection, with its parameters. -/
theorem list_plain
    {collection : String}
    {parameters : List (String × String)}
    (plain : collection.toList.all Address.isPlainChar = true)
    (short : collection.utf8ByteSize + (Address.addedLength parameters + 1) ≤
        Address.longest) :
    list collection parameters = .ok ⟨.get, ⟨collection, parameters⟩,
        none⟩ := by
  have address : Address.ofTarget collection (some parameters) =
      .ok ⟨collection, parameters⟩ :=
    Address.ofTarget_plain plain short
  rw [list, address]
  rfl

end Request

/-! ## Objects that have to be written -/

theorem ObjectMeta.anyName_of_name
    {metadata : ObjectMeta}
    {name : String}
    (known : metadata.name = some name) : metadata.anyName = name := by
  simp [anyName, known]

/-- A live object with another stamp than the wanted one has to be written. -/
theorem ObjectMeta.needsUpdate_of_stamp
    {live wanted : ObjectMeta}
    {hash : String}
    (wants : wanted.stamp? = some hash)
    (other : live.stamp? ≠ some hash)
    (recorded : Option Int64) : live.needsUpdate wanted recorded = true := by
  cases needed : live.needsUpdate wanted recorded with
  | true => rfl
  | false =>
      have covers := (needsUpdate_eq_false_iff.1 needed).2.2
      exact absurd (isCovered_iff.1 covers _ _ wants) other

/--
An object is read and then replaced, and nothing but events is sent after that.
-/
def Replaces
    (path : String)
    (body : Value)
    (exchanges : List Exchange) : Prop :=
  ∃ answer reply told,
    exchanges =
        ⟨.objects, ⟨.get, ⟨path, []⟩, none⟩, answer⟩ ::
          ⟨.objects, ⟨.put, ⟨path, Request.author⟩, some body⟩, reply⟩ :: told ∧
      ∀ exchange ∈ told, exchange.channel = .events

namespace Step

variable {α : Type} [ClusterObject α] {namespaceName : String} {wanted : α}

/-- An apply begins with reading the live object. -/
theorem head?_exchanges_apply
    (host : Host σ)
    (state : σ)
    (recorder : Recorder)
    (merge : α → α → α)
    (recorded : Option Int64)
    {read : Request}
    (built : Request.read (ClusterObject.collection α namespaceName)
        (ClusterObject.metadata wanted).anyName = .ok read) :
    ((apply namespaceName merge wanted recorded).exchanges host state
      recorder).head? =
      some ⟨.objects, read, (host.answer state .objects read).1⟩ := by
  simp only [exchanges, apply, start_bind, request, start_ofProgram,
    Client.find?, Client.send, built]
  rfl

/-- An object that was found and has to be written is replaced. -/
theorem apply_replaces
    (host : Host σ)
    (state : σ)
    (recorder : Recorder)
    (merge : α → α → α)
    (recorded : Option Int64)
    {name : String}
    (named : IsPlainName name)
    (plain : IsPlainCollection (ClusterObject.collection α namespaceName))
    (known : (ClusterObject.metadata wanted).anyName = name)
    {live : α}
    (found :
      (host.answer state .objects ⟨.get,
        ⟨ClusterObject.collection α namespaceName ++ "/" ++ name, []⟩,
        none⟩).1.decode (ClusterObject.ofDatum? : Datum → Option α) = .ok live)
    (due : (ClusterObject.metadata live).needsUpdate
        (ClusterObject.metadata wanted) recorded = true) :
    Replaces (ClusterObject.collection α namespaceName ++ "/" ++ name)
      (ClusterObject.toValue (merge live wanted))
      ((apply namespaceName merge wanted recorded).exchanges host state
          recorder) := by
  subst known
  have built := Request.read_plain plain named
  have head := head?_exchanges_apply host state recorder merge recorded built
  have trace :=
    traces_run host state recorder (apply namespaceName merge wanted recorded)
  rcases trace.of_apply with ⟨sent, outcome, call, shape⟩
  cases call with
  | unbuildable fault unbuilt => cases built.symm.trans unbuilt
  | answered request answer asked =>
      cases built.symm.trans asked
      generalize (host.answer state .objects _).1 = given at head found
      have first : answer = given := by
        split at shape
        next =>
          rw [shape.1] at head
          exact congrArg Exchange.answer (Option.some.inj head)
        next =>
          rcases shape with ⟨rest, whole, _⟩
          rw [whole] at head
          exact congrArg Exchange.answer (Option.some.inj head)
      rw [first, found] at shape
      rcases shape with ⟨rest, whole, last⟩
      rw [ApplyPlan.of, if_pos due] at last
      rcases last.of_commit with ⟨written, reply, told, call, events, rfl, _⟩
      cases call with
      | unbuildable fault unbuilt =>
          cases (Request.replace_plain plain named _).symm.trans unbuilt
      | answered request answer asked =>
          cases (Request.replace_plain plain named _).symm.trans asked
          exact ⟨_, answer, told, whole, events⟩

end Step

theorem Deployment.needsUpdate_of_spec
    {earlier wanted live : Deployment}
    (collisionFree : Digest.CollisionFree earlier.specBytes wanted.specBytes)
    (differs : earlier.spec.map DeploymentSpec.inWholeSeconds ≠
      wanted.spec.map DeploymentSpec.inWholeSeconds)
    (carries : live.metadata.stamp? = earlier.stamped.metadata.stamp?)
    (recorded : Option Int64) :
    live.metadata.needsUpdate wanted.stamped.metadata recorded = true := by
  refine ObjectMeta.needsUpdate_of_stamp (ObjectMeta.stamp?_stamped _ _)
    (fun same => ?_) recorded
  rw [carries, stamped, ObjectMeta.stamp?_stamped] at same
  exact differs ((specHash_inj collisionFree).1 (Option.some.inj same))

theorem Registration.needsUpdate_of_hooks
    {template : String}
    {earlier wanted live : Registration}
    (rendered : renderRegistration template = .ok wanted)
    (collisionFree : Digest.CollisionFree earlier.hooksBytes wanted.hooksBytes)
    (differs : earlier.webhooks ≠ wanted.webhooks)
    (carries : live.metadata.stamp? = earlier.stamped.metadata.stamp?)
    (recorded : Option Int64) :
    live.metadata.needsUpdate wanted.metadata recorded = true := by
  rcases Request.ok_of_bind rendered with ⟨given, _, same⟩
  cases same
  refine ObjectMeta.needsUpdate_of_stamp (ObjectMeta.stamp?_stamped _ _)
    (fun same => ?_) recorded
  rw [carries, stamped, ObjectMeta.stamp?_stamped] at same
  exact differs ((hooksHash_inj collisionFree).1 (Option.some.inj same))

/--
Against any host and whatever generation is recorded, a Deployment is written
when the live one carries the hash of another specification, with the
specification that is wanted; and a rendered registration is written when the
live one carries the hash of other hooks.  The names are plain and the digest
does not collide on the two contents.
-/
theorem changed_content_is_written
    (host : Host σ)
    (state : σ)
    (recorder : Recorder)
    (recorded : Option Int64)
    (name : String)
    (named : IsPlainName name) :
    (∀ (namespaceName : String) (earlier wanted live : Deployment),
      IsPlainName namespaceName →
      wanted.metadata.name = some name →
      wanted.metadata.namespaceName = some namespaceName →
      earlier.spec.map DeploymentSpec.inWholeSeconds ≠
        wanted.spec.map DeploymentSpec.inWholeSeconds →
      Digest.CollisionFree earlier.specBytes wanted.specBytes →
      let path :=
        "/apis/apps/v1/namespaces/" ++ namespaceName ++ "/deployments" ++
          "/" ++ name
      (host.answer state .objects ⟨.get, ⟨path, []⟩, none⟩).1.decode
        Deployment.ofDatum? =
        .ok live →
      live.metadata.stamp? = earlier.stamped.metadata.stamp? →
      ∃ sent : Deployment,
        sent.spec = wanted.spec ∧
          Replaces path sent.toValue
            ((Step.applyDeployment wanted recorded).exchanges host state
              recorder)) ∧
    (∀ (template : String) (earlier wanted live : Registration),
      renderRegistration template = .ok wanted →
      wanted.metadata.name = some name →
      earlier.webhooks ≠ wanted.webhooks →
      Digest.CollisionFree earlier.hooksBytes wanted.hooksBytes →
      let path :=
        "/apis/admissionregistration.k8s.io/v1/validatingwebhookconfigurations"
          ++ "/" ++ name
      (host.answer state .objects ⟨.get, ⟨path, []⟩, none⟩).1.decode
        Registration.ofDatum? =
        .ok live →
      live.metadata.stamp? = earlier.stamped.metadata.stamp? →
      Replaces path (live.merged wanted).toValue
        ((Step.applyRegistration wanted recorded).exchanges host state
            recorder)) := by
  constructor
  · intro namespaceName earlier wanted live plain known within differs
      collisionFree path found carries
    refine ⟨live.merged wanted.stamped, rfl, ?_⟩
    have due :=
      Deployment.needsUpdate_of_spec collisionFree differs carries recorded
    have known : (ClusterObject.metadata wanted.stamped).anyName = name :=
      ObjectMeta.anyName_of_name known
    unfold Step.applyDeployment
    rw [within, Option.getD_some]
    exact Step.apply_replaces host state recorder Deployment.merged
      recorded named (isPlainCollection_deployments plain) known found due
  · intro template earlier wanted live rendered known differs collisionFree path
      found carries
    have due :=
      Registration.needsUpdate_of_hooks rendered collisionFree differs carries
        recorded
    have known : (ClusterObject.metadata wanted).anyName = name :=
      ObjectMeta.anyName_of_name known
    exact Step.apply_replaces host state recorder Registration.merged
      recorded named isPlainCollection_registrations known found due

/-- A Deployment with a number of pods. -/
def bareDeployment (replicas : Int32) : Deployment :=
  { metadata :=
      { name := some "w", namespaceName := some "n", generation := some 1 }
    spec := some { replicas := some replicas } }

/-- A registration with hooks of these names. -/
def bareRegistration (names : List String) : Registration :=
  { metadata := { name := some "w" }
    webhooks := some (names.map fun name => { name }) }

/--
A host that shows a Deployment with one pod and a registration without hooks.
-/
def earlierHost : Host Unit where
  answer := fun _ _ request =>
    if request.address.path = "/apis/apps/v1/namespaces/n/deployments/w" then
      (.reply ⟨200, .json (bareDeployment 1).stamped.toValue⟩, ())
    else (.reply ⟨200, .json (bareRegistration []).stamped.toValue⟩, ())
  clock := fun _ => ⟨0⟩
  wait := fun _ _ => ()

/--
A second pod and a first hook are written though the generation is the recorded
one.
-/
theorem changed_content_is_written_once :
    (∃ sent : Deployment,
      sent.spec = (bareDeployment 2).spec ∧
        Replaces "/apis/apps/v1/namespaces/n/deployments/w" sent.toValue
          ((Step.applyDeployment (bareDeployment 2) (some 1)).exchanges
            earlierHost () {})) ∧
      Replaces
        "/apis/admissionregistration.k8s.io/v1/validatingwebhookconfigurations/w"
        ((bareRegistration []).stamped.merged
          (bareRegistration ["h"]).stamped).toValue
        ((Step.applyRegistration (bareRegistration ["h"]).stamped
          (some 1)).exchanges earlierHost () {}) := by
  have named : IsPlainName "w" := ⟨by decide, by decide, by simp⟩
  have within : IsPlainName "n" := ⟨by decide, by decide, by simp⟩
  rcases changed_content_is_written earlierHost () {} (some 1) "w" named with
    ⟨deployments, registrations⟩
  constructor
  · exact deployments "n" (bareDeployment 1) (bareDeployment 2)
      (bareDeployment 1).stamped within rfl rfl (by decide) (fun same =>
        absurd same (by decide +kernel)) (by decide +kernel) rfl
  · exact registrations "metadata: {name: w}\nwebhooks: [{name: h}]"
      (bareRegistration []) (bareRegistration ["h"]).stamped
      (bareRegistration []).stamped (by decide +kernel) rfl
      (by decide) (fun same => absurd same (by decide +kernel))
        (by decide +kernel) rfl

end HookKeeper
