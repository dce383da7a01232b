import Rosadmin.Db.Mutations
import Rosadmin.Roster.Memberships

/-!
# The two writers of the memberships

The pull owns the leader rows and the panel the adds. They meet on one key: the
pull turns an add into a leader row, and a claim leaves a leader row alone.
What they both keep holds of every table they can come to.
-/

namespace Rosadmin
open Foundation

/-- The key of the table, and whose each row is: the records' or a manual add. -/
structure Represented (rows : List BodyMembershipsRow) : Prop where
  keys : (rows.map (·.key)).Nodup
  leader : ∀ row ∈ rows, row.role = .leader → row.addedBy = none ∧ row.manuallyAddedAt = none
  member : ∀ row ∈ rows, row.role = .member → row.manuallyAddedAt.isSome = true
  provenance : ∀ row ∈ rows, row.addedBy.isSome = true → row.manuallyAddedAt.isSome = true

def Database.leaderRows (db : Database) : List BodyMembershipsRow :=
  db.bodyMemberships.filter (·.role = .leader)

inductive Write where
  | pull (roster : Pull)
  | add (bodyId memberId addedBy : UUID) (now : Time)
  | remove (bodyId memberId : UUID)

/-- A committed write. An add that names a member who is not there breaks a foreign key and is
rolled back. -/
def Write.step (server : Server) (db : Database) : Write → Database
  | .pull roster => roster.run server db
  | .add bodyId memberId addedBy now =>
    if memberId ∈ db.members.map (·.id) ∧ addedBy ∈ db.members.map (·.id) then
      (db.claimAndAddMember bodyId memberId now addedBy).2
    else db
  | .remove bodyId memberId => (db.claimAndRemoveMember bodyId memberId).2

theorem Represented.empty : Represented [] :=
  ⟨List.nodup_nil, List.forall_mem_nil _, List.forall_mem_nil _, List.forall_mem_nil _⟩

/-! ### The claims -/

section
variable {db : Database} {bodyId memberId addedBy : UUID} {now : Time}

theorem claimAndAddMember_frame : (db.claimAndAddMember bodyId memberId now addedBy).2.members =
    db.members ∧
    (db.claimAndAddMember bodyId memberId now addedBy).2.leadershipBodies = db.leadershipBodies ∧
    (db.claimAndAddMember bodyId memberId now addedBy).2.nextId = db.nextId := by
  rw [Database.claimAndAddMember]
  split
  · split <;> exact ⟨rfl, rfl, rfl⟩
  · exact ⟨rfl, rfl, rfl⟩

theorem claimAndRemoveMember_frame :
    (db.claimAndRemoveMember bodyId memberId).2.members = db.members ∧
    (db.claimAndRemoveMember bodyId memberId).2.leadershipBodies = db.leadershipBodies ∧
    (db.claimAndRemoveMember bodyId memberId).2.nextId = db.nextId := by
  rw [Database.claimAndRemoveMember]
  split
  · split <;> exact ⟨rfl, rfl, rfl⟩
  · exact ⟨rfl, rfl, rfl⟩

theorem claimAndAddMember_leaders :
    (db.claimAndAddMember bodyId memberId now addedBy).2.leaderRows = db.leaderRows := by
  rw [Database.claimAndAddMember]
  split
  · split
    · rfl
    · simp [Database.leaderRows]
  · rfl

theorem claimAndRemoveMember_leaders :
    (db.claimAndRemoveMember bodyId memberId).2.leaderRows = db.leaderRows := by
  rw [Database.claimAndRemoveMember]
  split
  · split
    · show (List.filter _ (List.filter _ db.bodyMemberships)) = _
      rw [List.filter_filter]
      refine List.filter_congr fun row _ => ?_
      by_cases leader : row.role = .leader <;> simp [leader]
    · rfl
  · rfl

theorem Represented.filter {rows : List BodyMembershipsRow} (represented : Represented rows)
    (kept : BodyMembershipsRow → Bool) : Represented (rows.filter kept) where
  keys := represented.keys.sublist (List.filter_sublist.map _)
  leader := fun row there => represented.leader row (List.mem_of_mem_filter there)
  member := fun row there => represented.member row (List.mem_of_mem_filter there)
  provenance := fun row there => represented.provenance row (List.mem_of_mem_filter there)

theorem Represented.add (represented : Represented db.bodyMemberships) :
    Represented (db.claimAndAddMember bodyId memberId now addedBy).2.bodyMemberships := by
  rw [Database.claimAndAddMember]
  split
  · split
    · exact represented
    · rename_i free
      have new : ∀ row ∈ db.bodyMemberships ++
          [⟨memberId, bodyId, .member, some addedBy, some now⟩],
            row ∈ db.bodyMemberships ∨ row = ⟨memberId, bodyId, .member, some addedBy, some now⟩ :=
            by simp
      refine ⟨?_, fun row there leader => ?_, fun row there role => ?_, fun row there added => ?_⟩
      · rw [List.map_append]
        refine List.nodup_append.mpr ⟨represented.keys, List.nodup_singleton _, ?_⟩
        rintro key old _ new rfl
        obtain ⟨row, there, rfl⟩ := List.mem_map.mp old
        have same : row.key = (memberId, bodyId) := List.mem_singleton.mp new
        exact free (List.any_eq_true.mpr ⟨row, there, key_matches.mpr same⟩)
      · rcases new row there with old | rfl
        · exact represented.leader row old leader
        · cases leader
      · rcases new row there with old | rfl
        · exact represented.member row old role
        · rfl
      · rcases new row there with old | rfl
        · exact represented.provenance row old added
        · rfl
  · exact represented

theorem Represented.remove (represented : Represented db.bodyMemberships) :
    Represented (db.claimAndRemoveMember bodyId memberId).2.bodyMemberships := by
  rw [Database.claimAndRemoveMember]
  split
  · split
    · exact represented.filter _
    · exact represented
  · exact represented

end

/-! ### The pull -/

section
variable {server : Server} {members : List Member} {dryRun : Bool} {db after : Database}
    {report : PullReport}

theorem Represented.pulled (keyed : db.Keyed) (represented : Represented db.bodyMemberships)
    (pulled : pullIn server members dryRun db = .ok (report, after)) :
    Represented after.bodyMemberships := by
  obtain ⟨s, folds, -, closed, -, moved⟩ := pull_moved keyed pulled
  -- a row left is a leader row of the records, or an old row under its new names
  have traced : ∀ row ∈ after.bodyMemberships,
      (∃ old ∈ db.bodyMemberships, old.rename (names folds) = row) ∨ ∃ pair,
        row = leaderRow pair := by
    intro row there
    rcases (moved.mem_memberships closed).mp there with ⟨left, -⟩ | ⟨pair, -, led⟩
    · obtain ⟨old, before, renamed, -⟩ := foldAll_traced moved.tidy left
      exact Or.inl ⟨old, before, renamed⟩
    · exact Or.inr ⟨pair, led⟩
  refine ⟨moved.after_keys closed represented.keys, ?_, ?_, ?_⟩
  · intro row there leader
    rcases traced row there with ⟨old, before, rfl⟩ | ⟨pair, rfl⟩
    · obtain ⟨addedBy, manuallyAddedAt⟩ := represented.leader old before leader
      exact ⟨congrArg (Option.map (names folds)) addedBy, manuallyAddedAt⟩
    · exact ⟨rfl, rfl⟩
  · intro row there role
    rcases traced row there with ⟨old, before, rfl⟩ | ⟨pair, rfl⟩
    · exact represented.member old before role
    · cases role
  · intro row there added
    rcases traced row there with ⟨old, before, rfl⟩ | ⟨pair, rfl⟩
    · refine represented.provenance old before ?_
      rw [← Option.isSome_map (f := names folds)]
      exact added
    · cases added

end

/-! ### Any run of both -/

theorem Write.step_keeps {server : Server} {db : Database} (write : Write)
    (kept : db.Keyed ∧ Represented db.bodyMemberships) :
    (write.step server db).Keyed ∧ Represented (write.step server db).bodyMemberships := by
  obtain ⟨keyed, represented⟩ := kept
  have framed : ∀ {after : Database}, after.members = db.members ∧
      after.leadershipBodies = db.leadershipBodies ∧ after.nextId = db.nextId → after.Keyed := by
    rintro after ⟨members, bodies, nextId⟩
    exact ⟨members ▸ nextId ▸ keyed.members, bodies ▸ nextId ▸ keyed.bodies⟩
  cases write with
  | pull roster =>
    show (roster.run server db).Keyed ∧ Represented (roster.run server db).bodyMemberships
    cases pulled : pullIn server roster.members roster.dryRun db with
    | ok result =>
      rw [Pull.run_committed pulled]
      exact ⟨keyed_of_pull keyed pulled, represented.pulled keyed pulled⟩
    | error error =>
      rw [Pull.run_aborted pulled]
      exact ⟨keyed, represented⟩
  | add bodyId memberId addedBy now =>
    rw [Write.step]
    split
    · exact ⟨framed claimAndAddMember_frame, represented.add⟩
    · exact ⟨keyed, represented⟩
  | remove bodyId memberId => exact ⟨framed claimAndRemoveMember_frame, represented.remove⟩

/-- Whatever pulls and claims are committed to empty tables, and in whatever order. -/
theorem writers_represent (server : Server) (writes : List Write) :
    Represented (writes.foldl (Write.step server) .empty).bodyMemberships ∧
      (∀ bodyId memberId addedBy now, ((Write.add bodyId memberId addedBy now).step server
        (writes.foldl (Write.step server) .empty)).leaderRows =
          (writes.foldl (Write.step server) .empty).leaderRows) ∧
      ∀ bodyId memberId, ((Write.remove bodyId memberId).step server
        (writes.foldl (Write.step server) .empty)).leaderRows =
          (writes.foldl (Write.step server) .empty).leaderRows := by
  have run : ∀ writes : List Write, (writes.foldl (Write.step server) .empty).Keyed ∧
      Represented (writes.foldl (Write.step server) .empty).bodyMemberships := by
    intro writes
    induction writes using List.reverseRecOn with
    | nil => exact ⟨Database.empty_valid.keyed, Represented.empty⟩
    | append_singleton writes write ih =>
      rw [List.foldl_append]
      exact write.step_keeps ih
  refine ⟨(run writes).2, fun bodyId memberId addedBy now => ?_, fun _ _ =>
    claimAndRemoveMember_leaders⟩
  rw [Write.step]
  split
  · exact claimAndAddMember_leaders
  · rfl

end Rosadmin
