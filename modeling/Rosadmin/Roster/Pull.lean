import Rosadmin.Db.Schema
import Rosadmin.Foundation.Fallible
import Rosadmin.Foundation.Table

/-!
# The roster pull

The body of the pull's transaction: each member is upserted under a savepoint,
an account merge is completed where a duplicate blocks it, a member that still
clashes is skipped, and the leader rows and the lapses follow at the end. Any
other error aborts the whole of it.
-/

namespace Rosadmin
open Foundation

inductive DbError where
  | uniqueViolation | cardinalityViolation | foreignKeyViolation | notNullViolation | dataError
      | programmingError
  | operationalError
  deriving DecidableEq, Repr

/-- What the driver and the server make of values the schema does not foresee. -/
structure Server where
  /-- What a value that is neither `None` nor a string becomes in a `text` column, if it can be
  assigned to one. -/
  assign : Json → Option Str
  /-- Whether such a value can be compared with one too, as the text it is assigned as. -/
  comparable : Json → Bool
  /-- Whether the indexes over a column can hold the text. -/
  indexable : Str → Bool

/-! ### Parameters -/

def bindBigint (n : Int) : Except DbError Int := do
  ensure (-2 ^ 63 ≤ n && n < 2 ^ 63) .dataError
  return n

def bindText (s : Str) : Except DbError Str := do
  ensure (sendable s) .dataError
  return s

section
variable (server : Server)

def bindKey (s : Str) : Except DbError Str := do
  let s ← bindText s
  ensure (server.indexable s) .operationalError
  return s

def bindJson : Json → Except DbError (Option Str)
  | .null => .ok none
  | .str s => (bindText s).map some
  | value => match server.assign value with
    | some text => .ok (some text)
    | none => .error .programmingError

/-- `email` is `NOT NULL UNIQUE`. -/
def bindEmail (value : Json) : Except DbError Email := do
  match ← bindJson server value with
  | none => .error .notNullViolation
  | some email => bindKey server email

def bindMember (member : Member) : Except DbError MemberColumns := do
  let stId ← bindBigint member.stId
  let firstName ← bindJson server member.firstName
  let lastName ← bindJson server member.lastName
  let alternateName ← bindJson server member.alternateName
  let email ← bindEmail server member.email
  let alternateEmail ← member.alternateEmail.mapM bindText
  let discordUserId ← member.discordId.mapM bindBigint
  return { stId, firstName, lastName, alternateName, email, alternateEmail, discordUserId, standing := member.standing,
           isChapterLeader := member.isChapterLeader,
           leadershipAssessment := assess member.isChapterLeader member.leads }

def Server.compares : Json → Bool
  | .null | .str _ => true
  | value => server.comparable value

/-- The value `email = %s` compares with; `NULL` equals nothing. -/
def compareEmail (value : Json) : Except DbError (Option Str) := do
  ensure (server.compares value) .programmingError
  bindJson server value

end

/-! ### Statements on `members` -/

/-- The row holds the email or the Discord id; `NULL` equals nothing. -/
def MembersRow.holds (row : MembersRow) (email : Option Str) (discordId : Option Int) : Bool :=
  email = some row.email || (discordId.isSome && row.discordUserId = discordId)

def MemberColumns.clashesWith (cols : MemberColumns) (row : MembersRow) : Bool :=
  row.stId ≠ cols.stId && row.holds (some cols.email) cols.discordUserId

namespace Database

/-- `INSERT .. ON CONFLICT (st_id) DO UPDATE .. RETURNING id` -/
def upsertMember (db : Database) (cols : MemberColumns) : Except DbError (UUID × Database) := do
  ensure (!db.members.any cols.clashesWith) .uniqueViolation
  match db.members.find? (·.stId = cols.stId) with
  | some row => .ok (row.id, { db with
      members := update (·.stId = cols.stId) (fun row => { row with toMemberColumns := cols })
        db.members })
  | none => .ok (db.nextId, { db with
      members := db.members ++ [⟨cols, db.nextId⟩], nextId := db.nextId + 1 })

/-- The id of the body under the name and type, inserted if it is not there. -/
def upsertBody (db : Database) (name bodyType : Str) : UUID × Database :=
  match db.leadershipBodies.find? (fun b => b.name = name && b.bodyType = bodyType) with
  | some body => (body.id, db)
  | none => (db.nextId, { db with
      leadershipBodies := db.leadershipBodies ++ [⟨db.nextId, name, bodyType, none, none⟩]
      nextId := db.nextId + 1 })

/-- The rows holding an email or a Discord id whose own st_id is absent from the roster. -/
def mergeDuplicatesOf (db : Database) (email : Option Str) (discordId : Option Int)
    (roster : List Int) : List MembersRow :=
  (db.members.filter (fun row => row.holds email discordId && row.stId ∉ roster)).insertionSort
    (fun a b => a.stId ≤ b.stId)

def rekeyMember (db : Database) (id : UUID) (stId : Int) : Database :=
  { db with members := update (·.id = id) (fun row => { row with stId }) db.members }

/-- The manual adds move over; a body the target already belongs to keeps the target's own row. -/
def carryManualAdds (db : Database) (intoId fromId : UUID) : Database :=
  { db with
    bodyMemberships := db.bodyMemberships ++
      (db.bodyMemberships.filter (fun row => row.memberId = fromId && row.role = .member &&
        !db.bodyMemberships.any (fun own => own.memberId = intoId && own.bodyId = row.bodyId))).map
          (fun row => { row with memberId := intoId }) }

def carryAttribution (db : Database) (intoId fromId : UUID) : Database :=
  { db with bodyMemberships :=
      update (·.addedBy = some fromId) (fun row => { row with addedBy := some intoId }) db.bodyMemberships }

/-- A ban on the folded row is carried onto the target; one already there stands. -/
def carryBan (db : Database) (intoId fromId : UUID) : Database :=
  { db with
    memberBans := db.memberBans ++ (if db.banned intoId then []
      else (db.memberBans.filter (·.memberId = fromId)).map
        (fun ban => { ban with memberId := intoId })) }

/-- The delete cascades to the row's memberships and ban, and blanks the attribution of its adds. -/
def deleteMember (db : Database) (id : UUID) : Database :=
  { db with
    members := db.members.filter (·.id ≠ id)
    bodyMemberships := update (·.addedBy = some id) (fun row => { row with addedBy := none })
      (db.bodyMemberships.filter (·.memberId ≠ id))
    memberBans := db.memberBans.filter (·.memberId ≠ id) }

def foldInto (db : Database) (intoId fromId : UUID) : Database :=
  (((db.carryManualAdds intoId fromId).carryAttribution intoId fromId).carryBan intoId
    fromId).deleteMember fromId

end Database

/-! ### One member -/

structure PullAnomaly where
  memberId : UUID
  assessment : LeadershipAssessment
  deriving DecidableEq

structure AccountMerge where
  survivorStId : Int
  duplicateStId : Int
  duplicateMemberId : UUID
  deriving DecidableEq

structure PullWork where
  db : Database
  bodyIds : Dict Leadership UUID
  /-- `pair_member_ids` and `pair_body_ids`. -/
  pairs : List (UUID × UUID)

structure PullState extends PullWork where
  presentMemberIds : List UUID
  anomalies : List PullAnomaly
  skippedStIds : List Int
  merges : List AccountMerge

def PullState.start (db : Database) : PullState := ⟨⟨db, Dict.empty, []⟩, [], [], [], []⟩

structure Stored where
  memberId : UUID
  assessment : LeadershipAssessment
  merges : List AccountMerge

section
variable (server : Server)

def bodyIdOf (work : PullWork) (leadership : Leadership) : Except DbError (UUID × PullWork) :=
  match work.bodyIds.get? leadership with
  | some bodyId => .ok (bodyId, work)
  | none => do
    let name ← bindKey server leadership.name
    let upserted := work.db.upsertBody name leadership.bodyType.value
    return (upserted.1,
      { work with db := upserted.2, bodyIds := work.bodyIds.set leadership upserted.1 })

def pairLeadership (memberId : UUID) (work : PullWork) (leadership : Leadership) :
    Except DbError PullWork := do
  let found ← bodyIdOf server work leadership
  return { found.2 with pairs := found.2.pairs ++ [(memberId, found.1)] }

def upsertOne (member : Member) (work : PullWork) :
    Except DbError ((UUID × LeadershipAssessment) × PullWork) := do
  let cols ← bindMember server member
  let upserted ← work.db.upsertMember cols
  let work ← member.leads.foldlM (pairLeadership server upserted.1) { work with db := upserted.2 }
  return ((upserted.1, cols.leadershipAssessment), work)

variable (roster : List Int)

/-- Fold the duplicates into the member's own row, or into the first of them, re-keyed. -/
def mergeInto (stId : Int) (duplicates : List MembersRow) (db : Database) : Database :=
  match db.members.find? (·.stId = stId), duplicates with
  | some survivor, duplicates => duplicates.foldl (fun db d => db.foldInto survivor.id d.id) db
  | none, [] => db
  | none, first :: rest => rest.foldl (fun db d => db.foldInto first.id d.id)
      (db.rekeyMember first.id stId)

def mergeDuplicates (member : Member) (db : Database) :
    Except DbError (List AccountMerge × Database) := do
  let email ← compareEmail server member.email
  let duplicates := db.mergeDuplicatesOf email member.discordId roster
  return (duplicates.map (fun d => ⟨member.stId, d.stId, d.id⟩),
    mergeInto member.stId duplicates db)

/-- The merge and the retry, under one savepoint. -/
def mergeAndRetry (member : Member) (work : PullWork) : Except DbError (Stored × PullWork) := do
  let merged ← mergeDuplicates server roster member work.db
  let retried ← upsertOne server member { work with db := merged.2 }
  return (⟨retried.1.1, retried.1.2, merged.1⟩, retried.2)

variable (completeMerges : Bool)

/-- `_upsert_one`, completing an account merge if a duplicate blocks it. -/
def storeMember (member : Member) (work : PullWork) : Except DbError (Stored × PullWork) :=
  match upsertOne server member work with
  | .ok upserted => .ok (⟨upserted.1.1, upserted.1.2, []⟩, upserted.2)
  | .error .uniqueViolation =>
    if completeMerges then mergeAndRetry server roster member work else .error .uniqueViolation
  | .error error => .error error

def noteStored (s : PullState) (stored : Stored) (work : PullWork) : PullState :=
  { s with
    toPullWork := work
    merges := s.merges ++ stored.merges
    presentMemberIds := s.presentMemberIds ++ [stored.memberId]
    anomalies := if stored.assessment.isAnomalous then s.anomalies ++
      [⟨stored.memberId, stored.assessment⟩]
      else s.anomalies }

/-- One member of the roster: stored, or skipped on a clash the pull must not resolve. -/
def pullMember (s : PullState) (member : Member) : Except DbError PullState :=
  match storeMember server roster completeMerges member s.toPullWork with
  | .ok stored => .ok (noteStored s stored.1 stored.2)
  | .error .uniqueViolation => .ok { s with skippedStIds := s.skippedStIds ++ [member.stId] }
  | .error error => .error error

def pullMembers (members : List Member) (db : Database) : Except DbError PullState :=
  members.foldlM (pullMember server roster completeMerges) (.start db)

end

/-! ### The whole roster -/

def promote (rows : List BodyMembershipsRow) (pair : UUID × UUID) : List BodyMembershipsRow :=
  if rows.any (fun row => row.memberId = pair.1 && row.bodyId = pair.2) then
    update (fun row => row.memberId = pair.1 && row.bodyId = pair.2)
      (fun row => { row with role := .leader, addedBy := none, manuallyAddedAt := none }) rows
  else rows ++ [⟨pair.1, pair.2, .leader, none, none⟩]

namespace Database

/-- `INSERT .. ON CONFLICT DO UPDATE` over the pairs: no row may be touched twice. -/
def insertLeaderRows (db : Database) (pairs : List (UUID × UUID)) : Except DbError Database := do
  ensure pairs.Nodup .cardinalityViolation
  ensure (pairs.all (fun pair => db.members.any (·.id = pair.1) &&
    db.leadershipBodies.any (·.id = pair.2)))
    .foreignKeyViolation
  return { db with bodyMemberships := pairs.foldl promote db.bodyMemberships }

def deleteStaleLeaderRows (db : Database) (present : List UUID) (pairs : List (UUID × UUID)) :
    Database :=
  { db with bodyMemberships := db.bodyMemberships.filter fun row =>
      ¬(row.role = .leader ∧ row.memberId ∈ present ∧ (row.memberId, row.bodyId) ∉ pairs) }

def lapses (roster : List Int) (row : MembersRow) : Bool :=
  row.standing = .goodStanding && row.stId ∉ roster

def lapseAbsentMembers (db : Database) (roster : List Int) : Database :=
  { db with members := update (lapses roster) (fun row => { row with standing := .lapsed }) db.members }

end Database

structure PullReport where
  membersUpserted : Nat
  bodiesUpserted : Nat
  leaderRows : Nat
  anomalies : List PullAnomaly
  skippedStIds : List Int
  merges : List AccountMerge
  absentLapsed : Nat
  lapseRefused : Nat
  deriving DecidableEq

def lapseFuseFloor : Nat := 5

/-- The floor, or a tenth of the members in good standing, rounded up. -/
def lapseBudget (goodStandingTotal : Nat) : Nat := max lapseFuseFloor ((goodStandingTotal + 9) / 10)

def goodStandingTotal (db : Database) : Nat := db.members.countP (·.standing = .goodStanding)

def wouldLapse (db : Database) (roster : List Int) : Nat :=
  db.members.countP (Database.lapses roster)

def lapseFuseTrips (db : Database) (roster : List Int) : Bool :=
  lapseBudget (goodStandingTotal db) < wouldLapse db roster

def closePull (fuseTripped : Bool) (refused : Nat) (roster : List Int) (s : PullState) :
    Except DbError (PullReport × Database) := do
  let led ← s.db.insertLeaderRows s.pairs
  let db := led.deleteStaleLeaderRows s.presentMemberIds s.pairs
  let report : PullReport :=
    { membersUpserted := s.presentMemberIds.length, bodiesUpserted := s.bodyIds.items.length,
      leaderRows := s.pairs.length, anomalies := s.anomalies,
      skippedStIds := s.skippedStIds, merges := s.merges,
      absentLapsed := if fuseTripped then 0 else wouldLapse db roster,
      lapseRefused := if fuseTripped then refused else 0 }
  return (report, if fuseTripped then db else db.lapseAbsentMembers roster)

/-- The pull's transaction. Its error is a rollback. -/
def pullIn (server : Server) (members : List Member) (dryRun : Bool) (db : Database) :
    Except DbError (PullReport × Database) := do
  let roster ← (members.map (·.stId)).mapM bindBigint
  let fuseTripped := lapseFuseTrips db roster
  let s ← pullMembers server roster (!(dryRun || fuseTripped)) members db
  closePull fuseTripped (wouldLapse db roster) roster s

end Rosadmin
