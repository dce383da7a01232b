import Rosadmin.GroupSync

/-!
# The tables

One record a table row, and the constraints the migrations put on the tables.
-/

namespace Rosadmin
open Foundation

/-- What the driver can send as `text` and the server can hold: no NUL, no lone surrogate. -/
def sendable (s : Str) : Bool := s.all (fun c => c != 0 && !(Nat.ble 0xd800 c && Nat.ble c 0xdfff))

structure MemberColumns where
  stId : Int
  firstName : Option Str
  lastName : Option Str
  alternateName : Option Str
  email : Email
  alternateEmail : Option Email
  discordUserId : Option Int
  standing : Standing
  isChapterLeader : Bool
  leadershipAssessment : LeadershipAssessment
  deriving DecidableEq

structure MembersRow extends MemberColumns where
  id : UUID
  deriving DecidableEq

def MembersRow.addresses (row : MembersRow) : SyncAddresses := ⟨row.email, row.alternateEmail⟩

def plainMember (id : UUID) (email : Email) : MembersRow :=
  { stId := id, firstName := none, lastName := none, alternateName := none, email,
    alternateEmail := none, discordUserId := none, standing := .goodStanding,
    isChapterLeader := false, leadershipAssessment := .nonLeader, id }

structure LeadershipBodiesRow where
  id : UUID
  name : Str
  bodyType : Str
  leaderGoogleGroupEmail : Option Email
  memberGoogleGroupEmail : Option Email
  deriving DecidableEq

inductive Role where
  | leader | member
  deriving DecidableEq, Repr

structure BodyMembershipsRow where
  memberId : UUID
  bodyId : UUID
  role : Role
  addedBy : Option UUID
  manuallyAddedAt : Option Time
  deriving DecidableEq

structure MemberBansRow where
  memberId : UUID
  bannedAt : Time
  note : Str
  deriving DecidableEq

structure Database where
  members : List MembersRow
  leadershipBodies : List LeadershipBodiesRow
  bodyMemberships : List BodyMembershipsRow
  memberBans : List MemberBansRow
  /-- Where `gen_random_uuid` stands: no id of the tables has been reached yet. -/
  nextId : UUID
  deriving DecidableEq

def Database.empty : Database := ⟨[], [], [], [], 0⟩

/-- `id IN (SELECT member_id FROM member_bans)` -/
def Database.banned (db : Database) (id : UUID) : Bool :=
  (db.memberBans.map (·.memberId)).contains id

/-- The constraints of `members`; no id has been reached by the supply of ids yet. -/
structure MembersTable (members : List MembersRow) (nextId : UUID) : Prop where
  ids : (members.map (·.id)).Nodup
  stIds : (members.map (·.stId)).Nodup
  emails : (members.map (·.email)).Nodup
  discordIds : (members.filterMap (·.discordUserId)).Nodup
  fresh : ∀ r ∈ members, r.id < nextId

structure LeadershipBodiesTable (bodies : List LeadershipBodiesRow) (nextId : UUID) : Prop where
  ids : (bodies.map (·.id)).Nodup
  names : (bodies.map (fun b => (b.name, b.bodyType))).Nodup
  linkedPair : ∀ b ∈ bodies, b.leaderGoogleGroupEmail.isNone = b.memberGoogleGroupEmail.isNone
  leaderGroupEmails : (bodies.filterMap (·.leaderGoogleGroupEmail)).Nodup
  memberGroupEmails : (bodies.filterMap (·.memberGoogleGroupEmail)).Nodup
  fresh : ∀ b ∈ bodies, b.id < nextId

structure BodyMembershipsTable (db : Database) : Prop where
  keys : (db.bodyMemberships.map (fun r => (r.memberId, r.bodyId))).Nodup
  member : ∀ r ∈ db.bodyMemberships, r.memberId ∈ db.members.map (·.id)
  body : ∀ r ∈ db.bodyMemberships, r.bodyId ∈ db.leadershipBodies.map (·.id)
  adder : ∀ r ∈ db.bodyMemberships, ∀ id ∈ r.addedBy, id ∈ db.members.map (·.id)
  manualProvenance : ∀ r ∈ db.bodyMemberships, r.addedBy.isSome = true →
    r.manuallyAddedAt.isSome = true

structure MemberBansTable (db : Database) : Prop where
  ids : (db.memberBans.map (·.memberId)).Nodup
  member : ∀ r ∈ db.memberBans, r.memberId ∈ db.members.map (·.id)
  note : ∀ r ∈ db.memberBans, r.note ≠ []

structure Database.Valid (db : Database) : Prop where
  members : MembersTable db.members db.nextId
  bodies : LeadershipBodiesTable db.leadershipBodies db.nextId
  memberships : BodyMembershipsTable db
  bans : MemberBansTable db

theorem Database.empty_valid : Database.empty.Valid := by
  constructor <;> constructor <;> decide

end Rosadmin
