import Rosadmin.Db.Schema
import Rosadmin.Foundation.Table

/-!
# Directory reads

What the read queries select. A query that fetches one row takes the first the
server returns, which is any of the matching ones; the tables' own order stands
for the server's.
-/

namespace Rosadmin
open Foundation

/-- What the server's locale decides: `lower(..)` and the order of `ORDER BY`. -/
structure Locale where
  lower : Str → Str
  le : Str → Str → Bool

/-- `" ".join(part for part in (alternate or first, last) if part)` -/
def fullName (first last alternate : Option Str) : Str :=
  let chosen := match alternate with
    | some (c :: rest) => some (c :: rest)
    | _ => first
  match chosen.getD [], last.getD [] with
  | [], given => given
  | given, [] => given
  | given, family => given ++ str " " ++ family

structure MemberRow where
  id : UUID
  firstName : Option Str
  lastName : Option Str
  alternateName : Option Str
  email : Email
  alternateEmail : Option Email
  discordUserId : Option Int
  standing : Standing
  banned : Bool
  deriving DecidableEq

structure BodyRow where
  id : UUID
  name : Str
  bodyType : Str
  deriving DecidableEq

structure LedBodyMemberRow where
  bodyId : UUID
  bodyName : Str
  bodyType : Str
  memberId : UUID
  firstName : Option Str
  lastName : Option Str
  alternateName : Option Str
  email : Email
  role : Role
  deriving DecidableEq

structure GateRow where
  memberId : UUID
  assessment : LeadershipAssessment
  banned : Bool
  deriving DecidableEq

namespace Database

def memberRow (db : Database) (m : MembersRow) : MemberRow :=
  { id := m.id, firstName := m.firstName, lastName := m.lastName, alternateName := m.alternateName,
    email := m.email,
    alternateEmail := m.alternateEmail, discordUserId := m.discordUserId, standing := m.standing,
    banned := db.banned m.id }

def memberByDiscord (db : Database) (discordId : Int) : Option MemberRow :=
  (db.members.find? (fun m => m.discordUserId = some discordId)).map db.memberRow

def memberByEmail (locale : Locale) (db : Database) (email : Str) : Option MemberRow :=
  (db.members.find? (fun m => locale.lower m.email = locale.lower email)).map db.memberRow

def memberRowById (db : Database) (memberId : UUID) : Option MemberRow :=
  (db.members.find? (fun m => m.id = memberId)).map db.memberRow

def isLeaderOf (db : Database) (memberId bodyId : UUID) : Bool :=
  db.bodyMemberships.any (fun r => r.memberId = memberId && r.bodyId = bodyId && r.role = .leader)

/-- `ORDER BY lb.name` -/
def byName {α : Type} (locale : Locale) (name : α → Str) (rows : List α) : List α :=
  rows.mergeSort (fun a b => locale.le (name a) (name b))

def bodiesLedBy (locale : Locale) (db : Database) (memberId : UUID) : List BodyRow :=
  byName locale (·.name)
    ((db.leadershipBodies.filter (fun lb => db.isLeaderOf memberId lb.id)).map (fun lb =>
      ⟨lb.id, lb.name, lb.bodyType⟩))

def ledBodiesWithMembers (locale : Locale) (db : Database) (memberId : UUID) :
    List LedBodyMemberRow :=
  byName locale (·.bodyName)
    (db.leadershipBodies.flatMap fun lb =>
      if db.isLeaderOf memberId lb.id then
        (db.bodyMemberships.filter (·.bodyId = lb.id)).flatMap fun other =>
          (db.members.filter (fun m => m.id = other.memberId && !db.banned m.id)).map fun m =>
            { bodyId := lb.id, bodyName := lb.name, bodyType := lb.bodyType, memberId := m.id,
              firstName := m.firstName, lastName := m.lastName, alternateName := m.alternateName,
              email := m.email, role := other.role }
      else [])

def gateLookup (db : Database) (discordId : Int) : Option GateRow :=
  (db.members.find? (fun m => m.discordUserId = some discordId)).map
    (fun m => ⟨m.id, m.leadershipAssessment, db.banned m.id⟩)

def bodyLink (db : Database) (bodyId : UUID) : Option LeadershipBodiesRow :=
  db.leadershipBodies.find? (·.id = bodyId)

/-- `ORDER BY body_type, name` -/
def allBodies (locale : Locale) (db : Database) : List LeadershipBodiesRow :=
  db.leadershipBodies.mergeSort fun a b =>
    locale.le a.bodyType b.bodyType && (!locale.le b.bodyType a.bodyType || locale.le a.name b.name)

def linkTaken (db : Database) (bodyId : UUID) (leaderEmail memberEmail : Email) : Bool :=
  db.leadershipBodies.any fun b =>
    b.id != bodyId && (b.leaderGoogleGroupEmail = some leaderEmail ||
      b.memberGoogleGroupEmail = some memberEmail)

/-- Link a body's two group addresses; `none` is `LinkTaken`, else whether a row matched. -/
def setBodyLink (db : Database) (bodyId : UUID) (leaderEmail memberEmail : Email) :
    Option (Bool × Database) :=
  if db.leadershipBodies.any (·.id = bodyId) then
    if db.linkTaken bodyId leaderEmail memberEmail then none
    else some (true, { db with
      leadershipBodies := db.leadershipBodies.map fun b =>
        if b.id = bodyId then
          { b with
            leaderGoogleGroupEmail := some leaderEmail
            memberGoogleGroupEmail := some memberEmail }
        else b })
  else some (false, db)

theorem memberByDiscord_of_mem {db : Database} (valid : db.Valid) {m : MembersRow} {discordId : Int}
    (member : m ∈ db.members) (mine : m.discordUserId = some discordId) :
    db.memberByDiscord discordId = some (db.memberRow m) := by
  cases found : db.members.find? (fun m => m.discordUserId = some discordId) with
  | none => exact absurd (List.find?_eq_none.mp found m member) (by simpa using mine)
  | some other =>
    have theirs : other.discordUserId = some discordId := by simpa using List.find?_some found
    rw [memberByDiscord, found,
      row_of_nullable valid.members.discordIds member (List.mem_of_find?_eq_some found) mine theirs]
    rfl

end Database

end Rosadmin
