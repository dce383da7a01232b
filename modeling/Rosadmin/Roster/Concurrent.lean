import Rosadmin.Foundation.Snapshots
import Rosadmin.Roster.Memberships

/-!
# Pulls at the same time

The advisory lock runs the bodies one at a time, but its statement takes the
transaction's snapshot before it waits. A pull that has waited sees the tables
as they were, and its upserts, updates and deletes fail on a row written since.
-/

namespace Rosadmin
open Foundation

/-- The rows a committed pull has written. -/
structure Footprint where
  members : List UUID
  memberships : List (UUID × UUID)
  bodies : List (Str × Str)
  bans : List UUID

def Footprint.append (one two : Footprint) : Footprint :=
  ⟨one.members ++ two.members, one.memberships ++ two.memberships, one.bodies ++ two.bodies,
    one.bans ++ two.bans⟩

def written (since : List Footprint) : Footprint := since.foldl Footprint.append ⟨[], [], [], []⟩

/-- A snapshot, the tables as they are now, and what was written in between. -/
structure Sight where
  snapshot : Database
  now : Database
  since : Footprint

namespace Sight

/-- The tables without the members written since. Ids come from no snapshot. -/
def visible (v : Sight) : Database :=
  { v.snapshot with
    members := v.snapshot.members.filter (·.id ∉ v.since.members), nextId := v.now.nextId }

/-- The members written since, as the snapshot has them. -/
def stale (v : Sight) : List MembersRow := v.snapshot.members.filter (·.id ∈ v.since.members)

/-- The members written since, as they are now. -/
def hidden (v : Sight) : List MembersRow := v.now.members.filter (·.id ∈ v.since.members)

end Sight

/-- A pull's body run to its end, and whom it stored and led on the way. -/
structure PullBody where
  report : PullReport
  after : Database
  stored : List UUID
  pairs : List (UUID × UUID)

def changedRows {ρ : Type} [DecidableEq ρ] (before after : List ρ) : List ρ :=
  before.filter (· ∉ after) ++ after.filter (· ∉ before)

/-- An upsert writes its row even where it changes nothing. -/
def PullBody.footprint (b : PullBody) (before : Database) : Footprint where
  members := b.stored ++ (changedRows before.members b.after.members).map (·.id)
  memberships := b.pairs ++ (changedRows before.bodyMemberships b.after.bodyMemberships).map (·.key)
  bodies := (changedRows before.leadershipBodies b.after.leadershipBodies).map (fun body =>
    (body.name, body.bodyType))
  bans := (changedRows before.memberBans b.after.memberBans).map (·.memberId)

section
variable (server : Server)

/-- The unique indexes go by the rows as they are now. -/
def hiddenClash (hidden : List MembersRow) (member : Member) : Bool :=
  match bindMember server member with
  | .ok cols => hidden.any cols.clashesWith
  | .error _ => false

def seeMember (hidden : List MembersRow) (roster : List Int) (completeMerges : Bool) (s : PullState)
    (member : Member) : Except DbError PullState :=
  if hiddenClash server hidden member then .ok { s with skippedStIds := s.skippedStIds ++
    [member.stId] }
  else pullMember server roster completeMerges s member

/-- `pullIn` over a snapshot; the fuse counts the whole of it. -/
def pullSeeing (v : Sight) (pull : Pull) : Except DbError PullBody := do
  let roster ← (pull.members.map (·.stId)).mapM bindBigint
  let fuseTripped := lapseFuseTrips v.snapshot roster
  let s ← pull.members.foldlM (seeMember server v.hidden roster (!(pull.dryRun || fuseTripped)))
    (.start v.visible)
  let closed ← closePull fuseTripped (wouldLapse v.snapshot roster) roster s
  return ⟨closed.1, closed.2, s.presentMemberIds, s.pairs⟩

namespace Sight
variable (v : Sight) (pull : Pull) (b : PullBody)

/-- `_SELECT_MERGE_DUPLICATES` of a member that clashed finds a row written since, which the merge
then writes. -/
def mergesStale (roster : List Int) (member : Member) : Bool :=
  (member.stId ∈ b.report.skippedStIds || member.stId ∈ b.report.merges.map (·.survivorStId)) &&
    match compareEmail server member.email with
    | .ok email => v.stale.any (fun row => row.holds email member.discordId && row.stId ∉ roster)
    | .error _ => false

/-- A write onto a row that was written since the snapshot. -/
def collides : Bool :=
  let roster := pull.members.map (·.stId)
  let fuseTripped := lapseFuseTrips v.snapshot roster
  let wrote := b.footprint v.visible
  v.hidden.any (·.stId ∈ roster) ||
    (!fuseTripped && v.stale.any (Database.lapses roster)) ||
    (!(pull.dryRun || fuseTripped) && pull.members.any (v.mergesStale server b roster)) ||
    -- an upsert onto a row that was deleted since inserts it anew
    wrote.memberships.any (fun key => v.since.memberships.contains key &&
      ((v.now.bodyMemberships.map (·.key)).contains key || !b.pairs.contains key)) ||
    wrote.bodies.any (v.since.bodies.contains ·) ||
    wrote.bans.any (· ∈ v.since.bans)

/-- The rows the pull has written, over those that are there now. -/
def overlay : Database where
  members := v.now.members.filter (·.id ∉ (b.footprint v.visible).members) ++
    b.after.members.filter (·.id ∈ (b.footprint v.visible).members)
  leadershipBodies := v.now.leadershipBodies ++
    b.after.leadershipBodies.filter (· ∉ v.snapshot.leadershipBodies)
  bodyMemberships :=
    v.now.bodyMemberships.filter
    (fun row => !(b.footprint v.visible).memberships.contains row.key) ++
    b.after.bodyMemberships.filter (fun row => (b.footprint v.visible).memberships.contains row.key)
  memberBans := v.now.memberBans.filter (·.memberId ∉ (b.footprint v.visible).bans) ++
    b.after.memberBans.filter (·.memberId ∈ (b.footprint v.visible).bans)
  nextId := b.after.nextId

end Sight

def pullAttempts : Nat := 3

/-- `pull_roster`, called any number of times at once. -/
def pullTransactions {ι : Type} (calls : ι → Pull) : Transactions ι Database Footprint where
  body := fun i snapshot since now =>
    let v : Sight := ⟨snapshot, now, written since⟩
    match pullSeeing server v (calls i) with
    | .error _ => .fail
    | .ok b =>
      if since.isEmpty then .commit b.after (b.footprint v.visible)
      else if v.collides server (calls i) b then .refuse
      else .commit (v.overlay b) (b.footprint v.visible)
  attempts := pullAttempts

end

/-! ### A pull by itself -/

section
variable {server : Server}

theorem seeMember_nil (roster : List Int) (completeMerges : Bool) :
    seeMember server [] roster completeMerges = pullMember server roster completeMerges := by
  funext s member
  have unhidden : hiddenClash server [] member = false := by
    rw [hiddenClash]
    split <;> rfl
  simp [seeMember, unhidden]

theorem Sight.visible_alone (db : Database) : Sight.visible ⟨db, db, written []⟩ = db := by
  simp [Sight.visible, written]

theorem Sight.hidden_alone (db : Database) : Sight.hidden ⟨db, db, written []⟩ = [] := by
  simp [Sight.hidden, written]

/-- With nothing written since, the body is the one of the pull by itself. -/
theorem pullSeeing_alone (pull : Pull) (db : Database) :
    (pullSeeing server ⟨db, db, written []⟩ pull).map (fun b => (b.report, b.after)) =
      pullIn server pull.members pull.dryRun db := by
  have visible := Sight.visible_alone db
  have hidden := Sight.hidden_alone db
  simp only [pullSeeing, pullIn, visible, hidden, seeMember_nil]
  cases (pull.members.map (·.stId)).mapM bindBigint with
  | error e => rfl
  | ok roster =>
    simp only [ok_bind, pullMembers]
    cases pull.members.foldlM (pullMember server roster
      (!(pull.dryRun || lapseFuseTrips db roster))) (.start db) with
    | error e => rfl
    | ok s =>
      simp only [ok_bind]
      cases closePull (lapseFuseTrips db roster) (wouldLapse db roster) roster s with
      | error e => rfl
      | ok closed => rfl

theorem alone_pull {ι : Type} (calls : ι → Pull) (i : ι) (db : Database) :
    (pullTransactions server calls).alone i db = (calls i).run server db := by
  have body : (pullSeeing server _ (calls i)).map _ = _ := pullSeeing_alone (calls i) db
  simp only [Transactions.alone, pullTransactions]
  cases ran : pullSeeing server ⟨db, db, written []⟩ (calls i) with
  | error e =>
    rw [ran] at body
    exact (Pull.run_aborted body.symm).symm
  | ok b =>
    rw [ran] at body
    exact (Pull.run_committed body.symm).symm

end

end Rosadmin
