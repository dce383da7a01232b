import Rosadmin.Db.Mutations
import Rosadmin.Foundation.Fallible
import Rosadmin.Web.Models
import Rosadmin.Web.Sessions

/-!
# The records-backed directory and its mutations

Every one of them but the search begins by resolving the member behind the
principal. A mutation that commits spawns the mirror that will call Google.
-/

namespace Rosadmin.Web
open Foundation

def displayName (row : MemberRow) : Str := fullName row.firstName row.lastName row.alternateName

def unknownPrincipal : Fault := .raise 404 .notFound (str "unknown principal")

def unknownGroup : Fault := .raise 404 .notFound (str "unknown group")

def notAMember : Fault := .raise 404 .notAMember (str "not a member")

/-- The acting member behind a session. A banned member resolves to no one. -/
def resolveMember (db : Database) (principal : Principal) : Except Fault MemberRow :=
  match intOfStr principal.discordId with
  -- `int` raises
  | none => .error .unhandled
  | some discordId => match db.memberByDiscord discordId with
    | none => .error unknownPrincipal
    | some row => if row.banned then .error unknownPrincipal else .ok row

section
variable (locale : Locale) (db : Database)

def search (email : Str) : Except Fault SearchResponse :=
  if sendable email then
    match db.memberByEmail locale email with
    | none => .ok (.miss .notFound)
    | some row =>
      if row.banned then .ok (.miss .notFound)
      else match row.standing with
        | .lapsed => .ok (.miss .duesExpired)
        | .goodStanding => .ok (.hit ⟨row.id, displayName row, row.email⟩)
  else .error .unhandled

def displayNameFor (principal : Principal) : Except Fault Str := do
  let member ← resolveMember db principal
  return displayName member

def summariesFor (principal : Principal) : Except Fault (List GroupSummary) := do
  let member ← resolveMember db principal
  return (db.bodiesLedBy locale member.id).map (fun body => ⟨body.id, body.name, body.bodyType⟩)

/-- One more row of a body's roster; the first one brings the body. -/
def enroll (bodies : Dict UUID Group) (row : LedBodyMemberRow) : Dict UUID Group :=
  bodies.update row.bodyId fun found =>
    let group := found.getD ⟨⟨row.bodyId, row.bodyName, row.bodyType⟩, []⟩
    { group with
      members := group.members ++
        [⟨⟨row.memberId, fullName row.firstName row.lastName row.alternateName, row.email⟩,
          row.role⟩] }

def groupsFor (principal : Principal) : Except Fault (List Group) := do
  let member ← resolveMember db principal
  let bodies := (db.ledBodiesWithMembers locale member.id).foldl enroll Dict.empty
  return bodies.items.map fun e =>
    { e.2 with members := e.2.members.insertionSort (fun a b => a.fullName ≤ b.fullName) }

end

/-! ### Mutations -/

inductive MirrorOperation where
  | add | remove
  deriving DecidableEq, Repr

/-- A Google call a committed write has spawned, with all it will need. -/
structure Mirror where
  operation : MirrorOperation
  actorId : UUID
  groupId : UUID
  memberId : UUID
  target : MemberRow
  groupEmail : Option Email
  deriving DecidableEq

structure Panel where
  db : Database
  mirrorTasks : List Mirror

/-- A non-leader and an unknown body answer identically. -/
def requireLeader (db : Database) (principal : Principal) (groupId : UUID) :
    Except Fault MemberRow := do
  let actor ← resolveMember db principal
  ensure (db.isLeaderOf actor.id groupId) unknownGroup
  return actor

/-- The body's member-group address; an empty one is none. -/
def memberGroupEmail (db : Database) (groupId : UUID) : Option Email :=
  ((db.bodyLink groupId).bind (·.memberGoogleGroupEmail)).filter (fun email => !email.isEmpty)

def eligibleAdd (db : Database) (principal : Principal) (groupId memberId : UUID) :
    Except Fault (MemberRow × MemberRow) := do
  let actor ← requireLeader db principal groupId
  match db.memberRowById memberId with
  | none => .error (.raise 404 .memberNotFound (str "no such member"))
  | some target =>
    -- A ban is refused exactly as a lapse is.
    if target.banned ∨ target.standing ≠ .goodStanding then
      .error (.raise 409 .memberNotEligible (str "member is not in good standing"))
    else .ok (actor, target)

def eligibleRemove (db : Database) (principal : Principal) (groupId memberId : UUID) :
    Except Fault (MemberRow × MemberRow) := do
  let actor ← requireLeader db principal groupId
  match db.memberRowById memberId with
  | none => .error notAMember
  | some target => .ok (actor, target)

def addMember (now : Time) (principal : Principal) (groupId memberId : UUID) (s : Panel) :
    Except Fault GroupMember × Panel :=
  match eligibleAdd s.db principal groupId memberId with
  | .error fault => (.error fault, s)
  | .ok (actor, target) => match s.db.claimAndAddMember groupId memberId now actor.id with
    | (none, db) => (.error unknownGroup, { s with db })
    | (some .isLeader, db) =>
        (.error (.raise 409 .alreadyLeader (str "already a leader of this group")), { s with db })
    | (some .alreadyPresent, db) => (.error (.raise 409 .alreadyMember (str "already a member")),
        { s with db })
    | (some .inserted, db) =>
      (.ok ⟨⟨target.id, displayName target, target.email⟩, .member⟩,
        { db, mirrorTasks := s.mirrorTasks ++
          [⟨.add, actor.id, groupId, memberId, target, memberGroupEmail db groupId⟩] })

def removeMember (principal : Principal) (groupId memberId : UUID) (s : Panel) :
    Except Fault Unit × Panel :=
  match eligibleRemove s.db principal groupId memberId with
  | .error fault => (.error fault, s)
  | .ok (actor, target) => match s.db.claimAndRemoveMember groupId memberId with
    | (none, db) | (some .notAMember, db) => (.error notAMember, { s with db })
    | (some .isLeader, db) =>
      (.error (.raise 403 .leaderNotRemovable
        (str "leaders are managed by the membership records, not the panel")), { s with db })
    | (some .removed, db) =>
      (.ok (),
        { db,
          mirrorTasks := s.mirrorTasks ++
            [⟨.remove, actor.id, groupId, memberId, target, memberGroupEmail db groupId⟩] })

end Rosadmin.Web
