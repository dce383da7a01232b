import Rosadmin.Roster.Store

/-!
# The whole pull

A committed pull is a run of turns and one closing step: the leader rows, each
pair once, then the lapse unless the fuse has tripped.
-/

namespace Rosadmin
open Foundation

theorem bindRoster_ok {stIds roster : List Int} :
    stIds.mapM bindBigint = .ok roster ↔ (∀ stId ∈ stIds, inBigint stId) ∧ stIds = roster := by
  induction stIds generalizing roster with
  | nil => simp [List.mapM_nil, pure_ok]
  | cons stId stIds ih =>
    rw [List.mapM_cons, bind_ok]
    constructor
    · rintro ⟨_, bound, rest⟩
      obtain ⟨_, bounds, same⟩ := bind_ok.mp rest
      obtain ⟨range, rfl⟩ := bindBigint_ok.mp bound
      obtain ⟨ranges, rfl⟩ := ih.mp bounds
      exact ⟨List.forall_mem_cons.mpr ⟨range, ranges⟩, pure_ok.mp same⟩
    · rintro ⟨ranges, rfl⟩
      obtain ⟨range, ranges⟩ := List.forall_mem_cons.mp ranges
      exact ⟨stId, bindBigint_ok.mpr ⟨range, rfl⟩, bind_ok.mpr ⟨stIds, ih.mpr ⟨ranges, rfl⟩, rfl⟩⟩

/-- The leader rows go in once each pair is there once and names a row of each table. -/
theorem insertLeaderRows_ok {db led : Database} {pairs : List (UUID × UUID)} :
    db.insertLeaderRows pairs = .ok led ↔
      (pairs.Nodup ∧ ∀ pair ∈ pairs, pair.1 ∈ db.members.map (·.id) ∧
        pair.2 ∈ db.leadershipBodies.map (·.id)) ∧
        { db with bodyMemberships := pairs.foldl promote db.bodyMemberships } = led := by
  simp only [Database.insertLeaderRows, ensure_bind_ok, pure_ok, List.all_eq_true, Bool.and_eq_true,
    List.any_eq_true, decide_eq_true_iff, List.mem_map, and_assoc]

def completesMerges (dryRun : Bool) (roster : List Int) (db : Database) : Bool :=
  !(dryRun || lapseFuseTrips db roster)

def pullUpTo (server : Server) (members : List Member) (dryRun : Bool) (db : Database)
    (done : List Member) : Except DbError PullState :=
  pullMembers server (members.map (·.stId)) (completesMerges dryRun (members.map (·.stId)) db) done
    db

section
variable {server : Server} {members : List Member} {dryRun : Bool} {db after : Database}
    {report : PullReport}

theorem pullIn_ok :
    pullIn server members dryRun db = .ok (report, after) ↔
      (∀ member ∈ members, inBigint member.stId) ∧
      ∃ s, pullUpTo server members dryRun db members = .ok s ∧
        closePull (lapseFuseTrips db (members.map (·.stId))) (wouldLapse db (members.map (·.stId)))
          (members.map (·.stId)) s = .ok (report, after) := by
  rw [pullIn, bind_ok]
  constructor
  · rintro ⟨roster, bound, rest⟩
    obtain ⟨ranges, rfl⟩ := bindRoster_ok.mp bound
    exact ⟨List.forall_mem_map.mp ranges, bind_ok.mp rest⟩
  · rintro ⟨ranges, rest⟩
    exact ⟨_, bindRoster_ok.mpr ⟨List.forall_mem_map.mpr ranges, rfl⟩, bind_ok.mpr rest⟩

end

def closeRow (fuseTripped : Bool) (roster : List Int) (row : MembersRow) : MembersRow :=
  if fuseTripped = false ∧ Database.lapses roster row = true then { row with standing := .lapsed }
    else row

structure Closed (fuseTripped : Bool) (roster : List Int) (s : PullState) (report : PullReport)
    (after : Database) : Prop where
  once : s.pairs.Nodup
  members : after.members = s.db.members.map (closeRow fuseTripped roster)
  bodies : after.leadershipBodies = s.db.leadershipBodies
  memberships : after.bodyMemberships = (s.pairs.foldl promote s.db.bodyMemberships).filter
    fun row =>
    ¬(row.role = .leader ∧ row.memberId ∈ s.presentMemberIds ∧ (row.memberId, row.bodyId) ∉ s.pairs)
  skipped : report.skippedStIds = s.skippedStIds
  merges : report.merges = s.merges
  absentLapsed : report.absentLapsed = if fuseTripped then 0 else wouldLapse s.db roster

section
variable {fuseTripped : Bool} {refused : Nat} {roster : List Int} {s : PullState}
    {report : PullReport} {after : Database} {row : MembersRow}

theorem closeRow_rostered (rostered : row.stId ∈ roster) : closeRow fuseTripped roster row = row :=
  if_neg fun lapses => by simp [Database.lapses, rostered] at lapses

theorem closeRow_tripped : closeRow true roster row = row := if_neg fun lapses => nomatch lapses.1

theorem closeRow_keys :
    (closeRow fuseTripped roster row).id = row.id ∧
      (closeRow fuseTripped roster row).stId = row.stId := by
  rw [closeRow]
  split <;> exact ⟨rfl, rfl⟩

theorem closeRow_again : closeRow fuseTripped roster (closeRow fuseTripped roster row) =
    closeRow fuseTripped roster row := by
  by_cases lapses : fuseTripped = false ∧ Database.lapses roster row = true
  · have once : closeRow fuseTripped roster row = { row with standing := .lapsed } := if_pos lapses
    rw [once]
    exact if_neg fun again => Bool.false_ne_true again.2
  · have none : closeRow fuseTripped roster row = row := if_neg lapses
    rw [none, none]

theorem closePull_ok (closed : closePull fuseTripped refused roster s = .ok (report, after)) :
    Closed fuseTripped roster s report after := by
  obtain ⟨led, inserted, closed⟩ := bind_ok.mp closed
  obtain ⟨⟨once, -⟩, rfl⟩ := insertLeaderRows_ok.mp inserted
  cases pure_ok.mp closed
  cases fuseTripped with
  | true =>
    have same : s.db.members = s.db.members.map (closeRow true roster) :=
      (List.map_id _).symm.trans (List.map_congr_left fun _ _ => closeRow_tripped.symm)
    exact ⟨once, same, rfl, rfl, rfl, rfl, rfl⟩
  | false =>
    have same : update (Database.lapses roster) (fun row => { row with standing := .lapsed })
      s.db.members = s.db.members.map (closeRow false roster) :=
      List.map_congr_left fun row _ => by simp [closeRow]
    exact ⟨once, same, rfl, rfl, rfl, rfl, rfl⟩

theorem Closed.mem_rostered (closed : Closed fuseTripped roster s report after)
    (rostered : row.stId ∈ roster) : row ∈ after.members ↔ row ∈ s.db.members := by
  rw [closed.members]
  constructor
  · intro present
    obtain ⟨old, before, rfl⟩ := List.mem_map.mp present
    rw [closeRow_keys.2] at rostered
    rw [closeRow_rostered rostered]
    exact before
  · exact fun present => List.mem_map.mpr ⟨row, present, closeRow_rostered rostered⟩

theorem closePull_total :
    (∃ result, closePull fuseTripped refused roster s = .ok result) ↔
      s.pairs.Nodup ∧ ∀ pair ∈ s.pairs,
      pair.1 ∈ s.db.members.map (·.id) ∧ pair.2 ∈ s.db.leadershipBodies.map (·.id) := by
  constructor
  · rintro ⟨result, closed⟩
    obtain ⟨led, inserted, -⟩ := bind_ok.mp closed
    exact (insertLeaderRows_ok.mp inserted).1
  · intro accepted
    exact ⟨_, bind_ok.mpr ⟨_, insertLeaderRows_ok.mpr ⟨accepted, rfl⟩, rfl⟩⟩

end

/-! ### What a stretch of turns leaves -/

/-- After any turns: nothing gathered is dropped, and a roster row is either old or present. -/
structure Onward (roster : List Int) (s t : PullState) : Prop where
  table : MembersTable t.db.members t.db.nextId
  pairs : s.pairs <+: t.pairs
  present : s.presentMemberIds ⊆ t.presentMemberIds
  written : ∀ row ∈ t.db.members, row.stId ∈ roster → row ∈ s.db.members ∨
    row.id ∈ t.presentMemberIds

section
variable {server : Server} {roster : List Int} {completeMerges : Bool} {members : List Member}
    {member : Member} {s t u : PullState}

theorem Onward.refl (table : MembersTable s.db.members s.db.nextId) : Onward roster s s :=
  ⟨table, List.prefix_rfl, List.Subset.refl _, fun _ present _ => Or.inl present⟩

theorem Onward.step (onward : Onward roster s t) (own : member.stId ∈ roster)
    (turn : pullMember server roster completeMerges t member = .ok u) : Onward roster s u := by
  rcases pullMember_cases onward.table own turn with ⟨_, -, rfl⟩ | ⟨cols, id, duplicates, taken⟩
  · exact ⟨onward.table, onward.pairs, onward.present, onward.written⟩
  · refine ⟨taken.table, taken.pairs ▸ onward.pairs.trans (List.prefix_append _ _), ?_, ?_⟩
    · rw [taken.present]
      exact List.Subset.trans onward.present (List.subset_append_left _ _)
    · intro row member named
      rw [taken.present]
      rcases (taken.rows row).mp member with rfl | ⟨before, -⟩
      · exact Or.inr (List.mem_append_right _ List.mem_cons_self)
      · exact (onward.written row before named).imp_right fun present =>
          List.mem_append_left _ present

theorem onward_of_run (table : MembersTable s.db.members s.db.nextId)
    (own : ∀ member ∈ members, member.stId ∈ roster)
    (run : members.foldlM (pullMember server roster completeMerges) s = .ok t) :
    Onward roster s t :=
  foldlM_keeps (fun member turn _ _ onward => onward.step (own member turn)) (Onward.refl table) run

end

end Rosadmin
