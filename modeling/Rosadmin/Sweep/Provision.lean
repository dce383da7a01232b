import Rosadmin.Db.Directory
import Rosadmin.GoogleGroup
import Rosadmin.GroupNaming

/-!
# Provisioning

Every body's two groups and the main group are ensured, then each body whose
two groups resolved is linked.
-/

namespace Rosadmin
open Foundation

structure ProvisionConfig where
  domain : Str
  mainGroupName : Str
  massCreationTripwire : Int

structure ProvisionReport where
  created : Nat
  adopted : Nat
  alreadyLinked : Nat
  diverged : Nat
  refusedOverCap : Nat
  failed : Nat
  deriving DecidableEq

structure PlannedGroup where
  email : Email
  name : Str
  /-- Missing for the main group, which links nothing. -/
  bodyId : Option UUID
  kind : Option GroupKind
  deriving DecidableEq

section
variable (config : ProvisionConfig)

def planKind (body : LeadershipBodiesRow) (kind : GroupKind) :
    Except GroupNameTooLong PlannedGroup := do
  let email ← googleGroupEmail body.name body.bodyType kind config.domain
  let name ← googleGroupName body.name body.bodyType kind
  return ⟨email, name, some body.id, some kind⟩

def planBody (body : LeadershipBodiesRow) : Except GroupNameTooLong (List PlannedGroup) :=
  [GroupKind.leaders, .editors].mapM (planKind config body)

def isLinked (body : LeadershipBodiesRow) : Bool :=
  body.leaderGoogleGroupEmail.isSome && body.memberGoogleGroupEmail.isSome

/-- One more body: its groups if it is unlinked and can be named, a failure if it cannot. -/
def planPendingBody (plan : List PlannedGroup × Nat) (body : LeadershipBodiesRow) :
    List PlannedGroup × Nat :=
  if isLinked body then plan
  else match planBody config body with
    | .ok groups => (plan.1 ++ groups, plan.2)
    | .error _ => (plan.1, plan.2 + 1)

def planPending (mainEmail : Email) (bodies : List LeadershipBodiesRow) : List PlannedGroup × Nat :=
  bodies.foldl (planPendingBody config) ([⟨mainEmail, config.mainGroupName, none, none⟩], 0)

end

def hasDiverged (seen : ProvisionedGroup) : Bool :=
  !(secureSettings.items.all (fun e => seen.settings.get? e.1 = some e.2) &&
    seen.labels.items.isPerm securityLabel.items)

/-- Whether an armed run must refuse this batch of creations. -/
def tripwireRefuses (bootstrapped : Bool) (creations : Nat) (cap : Int) : Bool :=
  bootstrapped && cap < creations

structure BodyLinks where
  leaders : Option Email
  editors : Option Email

def BodyLinks.put (links : BodyLinks) (email : Email) : GroupKind → BodyLinks
  | .leaders => { links with leaders := some email }
  | .editors => { links with editors := some email }

structure Minting (σ : Type) where
  created : Nat
  adopted : Nat
  diverged : Nat
  failed : Nat
  bodyLinks : Dict UUID BodyLinks
  port : σ

def Minting.start {σ : Type} (failed : Nat) (port : σ) : Minting σ :=
  ⟨0, 0, 0, failed, Dict.empty, port⟩

/-- Link one body, unless one side failed to provision or an address is another body's. -/
def linkBody (dryRun : Bool) (state : Nat × Database) (entry : UUID × BodyLinks) : Nat × Database :=
  match entry.2.leaders, entry.2.editors with
  | some leaders, some editors =>
    if dryRun then state
    else match state.2.setBodyLink entry.1 leaders editors with
      | some (_, db) => (state.1, db)
      | none => (state.1 + 1, state.2)
  | _, _ => (state.1 + 1, state.2)

/-- What a provisioning run leaves. A failing existence read is not caught. -/
structure Provisioned (σ : Type) where
  report : Except Failure ProvisionReport
  db : Database
  bootstrapped : Bool
  port : σ

section
variable {σ : Type} (provisioner : GroupProvisioner σ)

def missingGroups : List PlannedGroup → σ → Except Failure (List PlannedGroup) × σ
  | [], port => (.ok [], port)
  | group :: groups, port =>
    andThen (provisioner.groupExists group.email port) fun found port =>
      andThen (missingGroups groups port) fun rest port =>
        (.ok (if found then rest else group :: rest), port)

def mintGroup (creating : List Email) (m : Minting σ) (group : PlannedGroup) : Minting σ :=
  match provisioner.ensure group.email group.name m.port with
  | (.error _, port) => { m with failed := m.failed + 1, port }
  | (.ok seen, port) =>
    let m := if group.email ∈ creating then { m with created := m.created + 1, port }
      else { m with
        adopted := m.adopted + 1, diverged := m.diverged + (if hasDiverged seen then 1 else 0),
        port }
    match group.bodyId, group.kind with
    | some bodyId, some kind =>
      { m with bodyLinks := m.bodyLinks.update bodyId fun links =>
        (links.getD ⟨none, none⟩).put group.email kind }
    | _, _ => m

variable (locale : Locale) (config : ProvisionConfig) (mainEmail : Email) (dryRun : Bool)

def provision (db : Database) (bootstrapped : Bool) (port : σ) : Provisioned σ :=
  let bodies := db.allBodies locale
  let alreadyLinked := bodies.countP isLinked
  let pending := planPending config mainEmail bodies
  match missingGroups provisioner pending.1 port with
  | (.error failure, port) => ⟨.error failure, db, bootstrapped, port⟩
  | (.ok toCreate, port) =>
    if tripwireRefuses bootstrapped toCreate.length config.massCreationTripwire then
      ⟨.ok ⟨0, 0, alreadyLinked, 0, toCreate.length, pending.2⟩, db, bootstrapped, port⟩
    else
      let minted := pending.1.foldl (mintGroup provisioner (toCreate.map (·.email)))
        (.start pending.2 port)
      let linked := minted.bodyLinks.items.foldl (linkBody dryRun) (minted.failed, db)
      ⟨.ok ⟨minted.created, minted.adopted, alreadyLinked, minted.diverged, 0, linked.1⟩, linked.2,
        bootstrapped || (0 < minted.created && !dryRun), minted.port⟩

end

end Rosadmin
