import Rosadmin.Foundation.Fallible
import Rosadmin.GroupSync

/-!
# One Workspace group

Creating a group is several calls: the insert, a poll until it is visible, the
patches of its labels and of its settings, a poll of those. An error may strike
at any of them, before or after Google performed it.
-/

namespace Rosadmin
open Foundation

def secureSettings : Dict Str Str where
  items := [
    (str "whoCanJoin", str "INVITED_CAN_JOIN"),
    (str "whoCanViewMembership", str "ALL_OWNERS_CAN_VIEW"),
    (str "whoCanViewGroup", str "ALL_OWNERS_CAN_VIEW"),
    (str "whoCanInvite", str "ALL_OWNERS_CAN_INVITE"),
    (str "whoCanAdd", str "ALL_OWNERS_CAN_ADD"),
    (str "whoCanPostMessage", str "ALL_OWNERS_CAN_POST"),
    (str "whoCanLeaveGroup", str "NONE_CAN_LEAVE"),
    (str "whoCanContactOwner", str "ALL_OWNERS_CAN_CONTACT"),
    (str "allowExternalMembers", str "false"),
    (str "allowWebPosting", str "false"),
    (str "showInGroupDirectory", str "false"),
    (str "includeInGlobalAddressList", str "false"),
    (str "membersCanPostAsTheGroup", str "false"),
    (str "messageModerationLevel", str "MODERATE_ALL_MESSAGES"),
    (str "spamModerationLevel", str "REJECT")]
  nodup := by decide +kernel

def securityLabel : Dict Str Str where
  items := [
    (str "cloudidentity.googleapis.com/groups.discussion_forum", []),
    (str "cloudidentity.googleapis.com/groups.security", [])]
  nodup := by decide +kernel

/-- What `build_remote` does when the address is taken. -/
inductive ExistsBehavior where
  | error | replace | link
  deriving DecidableEq, Repr

structure RemoteGroup where
  name : Str
  description : Str
  settings : Dict Str Str
  labels : Dict Str Str

structure GoogleGroupBuilder where
  email : Email
  name : Str
  description : Str
  settings : Dict Str Str
  labels : Dict Str Str
  existsBehavior : ExistsBehavior

inductive Failure where
  | http (error : HttpError)
  | propagationTimeout
  deriving DecidableEq

/-- What becomes of one call: Google answers it, or an error strikes, before or after Google
performed it. -/
inductive Fate where
  | answered
  | struck (performed : Bool) (failure : Failure)
  deriving DecidableEq

def Fate.performed : Fate → Bool
  | answered => true
  | struck performed _ => performed

/-- Google as one run meets it: the fate of each of its calls, and what a group holds that nobody
has configured. -/
structure GoogleCalls where
  fates : Nat → Fate
  freshSettings : Dict Str Str
  freshLabels : Dict Str Str

structure Google where
  groups : Dict Email RemoteGroup
  calls : Nat

abbrev Groups := Dict Email RemoteGroup

/-! ### Single calls -/

def getGroup (email : Email) (groups : Groups) : Except HttpError RemoteGroup × Groups :=
  match groups.get? email with
  | some group => (.ok group, groups)
  | none => (.error ⟨404, []⟩, groups)

def deleteGroup (email : Email) (groups : Groups) : Except HttpError Unit × Groups :=
  if email ∈ groups then (.ok (), groups.erase email) else (.error ⟨404, []⟩, groups)

def patchLabels (email : Email) (labels : Dict Str Str) (groups : Groups) :
    Except HttpError Unit × Groups :=
  match groups.get? email with
  | some group => (.ok (), groups.set email { group with labels })
  | none => (.error ⟨404, []⟩, groups)

def patched (settings patch : Dict Str Str) : Dict Str Str :=
  patch.items.foldl (fun d e => d.set e.1 e.2) settings

def patchSettings (email : Email) (settings : Dict Str Str) (groups : Groups) :
    Except HttpError Unit × Groups :=
  match groups.get? email with
  | some group => (.ok (),
      groups.set email { group with settings := patched group.settings settings })
  | none => (.error ⟨404, []⟩, groups)

section
variable (google : GoogleCalls)

def insertGroup (b : GoogleGroupBuilder) (groups : Groups) : Except HttpError Unit × Groups :=
  if b.email ∈ groups then (.error ⟨409, []⟩, groups)
  else (.ok (), groups.set b.email ⟨b.name, b.description, google.freshSettings,
    google.freshLabels⟩)

def call {α : Type} (perform : Groups → Except HttpError α × Groups) (g : Google) :
    Except Failure α × Google :=
  match google.fates g.calls with
  | .answered => ((perform g.groups).1.mapError .http, ⟨(perform g.groups).2, g.calls + 1⟩)
  | .struck performed failure =>
      (.error failure, ⟨if performed then (perform g.groups).2 else g.groups, g.calls + 1⟩)

/-- `_poll_until`: it only reads. -/
def poll (g : Google) : Except Failure Unit × Google :=
  call google (fun groups => (.ok (), groups)) g

/-! ### A group's life -/

def rawCreate (b : GoogleGroupBuilder) (g : Google) : Except Failure Unit × Google :=
  andThen (call google (insertGroup google b) g) fun _ => poll google

def rawConfigure (b : GoogleGroupBuilder) (g : Google) : Except Failure Unit × Google :=
  andThen (call google (patchLabels b.email b.labels) g) fun _ g =>
    andThen (call google (patchSettings b.email b.settings) g) fun _ => poll google

/-- A 404 on the initial fetch is ignored. -/
def rawDelete (email : Email) (g : Google) : Except Failure Unit × Google :=
  let deleted := andThen (call google (getGroup email) g) fun _ g =>
    andThen (call google (deleteGroup email) g) fun _ => poll google
  match deleted with
  | (.error (.http error), g) => if error.statusCode = 404 then (.ok (), g)
      else (.error (.http error), g)
  | other => other

structure ProvisionedGroup where
  settings : Dict Str Str
  labels : Dict Str Str

def rawFetch (email : Email) (g : Google) : Except Failure ProvisionedGroup × Google :=
  andThen (call google (getGroup email) g) fun _ g =>
    andThen (call google (getGroup email) g) fun settings g =>
      andThen (call google (getGroup email) g) fun labels g =>
        (.ok ⟨settings.settings, labels.labels⟩, g)

/-- What follows the creation: the adoption of a taken address, or the configuration. -/
def afterCreate (b : GoogleGroupBuilder) : Except Failure Unit → Google →
    Except Failure ProvisionedGroup × Google
  | .error (.http error), g =>
    -- Adopt: the existing group is handed back untouched, configuring nothing.
    if b.existsBehavior = .link ∧ error.statusCode = 409 then rawFetch google b.email g
      else (.error (.http error), g)
  | .error .propagationTimeout, g => (.error .propagationTimeout, g)
  | .ok (), g => andThen (rawConfigure google b g) fun _ g => (.ok ⟨b.settings, b.labels⟩, g)

def buildRemote (b : GoogleGroupBuilder) (g : Google) : Except Failure ProvisionedGroup × Google :=
  andThen (if b.existsBehavior = .replace then rawDelete google b.email g
    else (.ok (), g)) fun _ g =>
    let created := rawCreate google b g
    afterCreate google b created.1 created.2

def groupExists (email : Email) (g : Google) : Except Failure Bool × Google :=
  match call google (getGroup email) g with
  | (.ok _, g) => (.ok true, g)
  | (.error (.http error), g) => if error.statusCode = 404 then (.ok false, g)
      else (.error (.http error), g)
  | (.error .propagationTimeout, g) => (.error .propagationTimeout, g)

end

def provisionDescription : Str :=
  str "Managed by rosadmin: membership is reconciled from the records. Do not edit membership by hand."

structure GroupProvisioner (σ : Type) where
  groupExists : Email → σ → Except Failure Bool × σ
  ensure : Email → Str → σ → Except Failure ProvisionedGroup × σ

/-- A builder with `secure_defaults`, adopting what is there. -/
def secureBuilder (email : Email) (name : Str) : GoogleGroupBuilder :=
  ⟨email, name, provisionDescription, secureSettings, securityLabel, .link⟩

def googleGroupProvisioner (google : GoogleCalls) : GroupProvisioner Google where
  groupExists := groupExists google
  ensure := fun email name => buildRemote google (secureBuilder email name)

end Rosadmin
