import Rosadmin.Roster.Again
import Rosadmin.Roster.Repeat

/-!
# The turns of one pull

Where no st_id is listed twice each member has one turn, and is stored or
skipped there for the whole of the pull. A row that skips a member was there
before the pull, or is the row of a member stored earlier in it.
-/

namespace Rosadmin
open Foundation

def Member.StoredIn (server : Server) (member : Member) (db : Database) : Prop :=
  ∃ row ∈ db.members, member.RecordedAs server row.toMemberColumns

section
variable {server : Server} {roster : List Int} {completeMerges : Bool} {members : List Member}
    {member : Member} {stId : Int} {s t : PullState}

theorem pullMember_skips (turn : pullMember server roster completeMerges s member = .ok t)
    (other : member.stId ≠ stId) : stId ∈ t.skippedStIds ↔ stId ∈ s.skippedStIds := by
  rw [pullMember] at turn
  split at turn
  · cases turn
    rfl
  · cases turn
    simp [other.symm]
  · cases turn

theorem skips_of_run (others : ∀ member ∈ members, member.stId ≠ stId)
    (run : members.foldlM (pullMember server roster completeMerges) s = .ok t) :
    stId ∈ t.skippedStIds ↔ stId ∈ s.skippedStIds := by
  have step : ∀ member ∈ members, ∀ t u, (stId ∈ t.skippedStIds ↔ stId ∈ s.skippedStIds) →
      pullMember server roster completeMerges t member = .ok u →
        (stId ∈ u.skippedStIds ↔ stId ∈ s.skippedStIds) :=
    fun member listed _ _ same turn => (pullMember_skips turn (others member listed)).trans same
  have kept := foldlM_keeps step Iff.rfl run
  exact kept

theorem distinct_done {done rest : List Member} (distinct : ((done ++ rest).map (·.stId)).Nodup) :
    (done.map (·.stId)).Nodup := by
  rw [List.map_append] at distinct
  exact (List.nodup_append.mp distinct).1

theorem distinct_split {done rest : List Member}
    (distinct : ((done ++ member :: rest).map (·.stId)).Nodup) :
    member.stId ∉ done.map (·.stId) ∧ (∀ m ∈ rest, m.stId ≠ member.stId) ∧
      ∀ m ∈ member :: rest, m.stId ∉ done.map (·.stId) := by
  rw [List.map_append, List.map_cons] at distinct
  obtain ⟨-, tail, apart⟩ := List.nodup_append.mp distinct
  refine ⟨fun before => apart _ before _ List.mem_cons_self rfl, fun m later same =>
    ?_, fun m here before => ?_⟩
  · exact (List.nodup_cons.mp tail).1 (same ▸ List.mem_map_of_mem later)
  · exact apart _ before _ (List.mem_map_of_mem (f := (·.stId)) here) rfl

end

section
variable {server : Server} {members : List Member} {dryRun : Bool} {db : Database} {e : PullState}
  (keyed : db.Keyed) (distinct : (members.map (·.stId)).Nodup)
  (run : pullUpTo server members dryRun db members = .ok e)
include keyed distinct

theorem midway_at {done rest : List Member} {s : PullState} (whole : members = done ++ rest)
    (reached : pullUpTo server members dryRun db done = .ok s) :
    Midway server (members.map (·.stId)) (completesMerges dryRun (members.map (·.stId)) db) db
      done s := by
  have own : ∀ m ∈ done, m.stId ∈ members.map (·.stId) :=
    fun m turn => List.mem_map_of_mem (by simp [whole, turn])
  exact midway_of_pullMembers keyed.members own (distinct_done (whole ▸ distinct)) reached

include run

/-- The one turn of a member, and what the whole pull reports of it. -/
theorem turn_at {done rest : List Member} {member : Member}
    (whole : members = done ++ member :: rest) :
    ∃ s, pullUpTo server members dryRun db done = .ok s ∧
      (member :: rest).foldlM (pullMember server (members.map (·.stId))
        (completesMerges dryRun (members.map (·.stId)) db)) s = .ok e ∧
      ((member.stId ∈ e.skippedStIds ∧ ∃ cols, Skipped server (members.map (·.stId))
          (completesMerges dryRun (members.map (·.stId)) db) member cols s.db) ∨
        (member.stId ∉ e.skippedStIds ∧ ∃ cols id duplicates t, Taken server (members.map (·.stId))
          (completesMerges dryRun (members.map (·.stId)) db) member cols id duplicates s t)) := by
  obtain ⟨s, t, reached, turn, later⟩ := pullUpTo_at whole run
  have midway := midway_at keyed distinct whole reached
  have own : member.stId ∈ members.map (·.stId) := List.mem_map_of_mem (by simp [whole])
  obtain ⟨fresh, others, -⟩ := distinct_split (whole ▸ distinct)
  refine ⟨s, reached, foldlM_cons_ok.mpr ⟨t, turn, later⟩, ?_⟩
  rw [skips_of_run others later]
  rcases pullMember_cases midway.table own turn with ⟨cols, skipped, rfl⟩
    | ⟨cols, id, duplicates, taken⟩
  · exact Or.inl ⟨List.mem_append_right _ List.mem_cons_self, cols, skipped⟩
  · rw [taken.skipped]
    exact Or.inr ⟨fun earlier => fresh (midway.skipped _ earlier), cols, id, duplicates, t, taken⟩

theorem recorded_unskipped {member : Member} {row : MembersRow} (listed : member ∈ members)
    (present : row ∈ db.members) (holds : member.RecordedAs server row.toMemberColumns) :
    member.stId ∉ e.skippedStIds := by
  obtain ⟨done, rest, whole⟩ := List.append_of_mem listed
  obtain ⟨s, reached, -, ⟨-, cols, skipped⟩ | ⟨unskipped, -⟩⟩ := turn_at keyed distinct run whole
  · have midway := midway_at keyed distinct whole reached
    have own : row.stId ∈ members.map (·.stId) := holds.rostered listed
    have ahead : row.stId ∉ done.map (·.stId) := holds.stId ▸ (distinct_split (whole ▸ distinct)).1
    have there := (midway.untouched row own (Or.inl ahead)).mpr present
    exact absurd holds (skipped.unrecorded midway.table there)
  · exact unskipped

theorem blocker_of_skipped {member : Member} (listed : member ∈ members)
    (skipped : member.stId ∈ e.skippedStIds) :
    ∃ cols row, bindMember server member = .ok cols ∧ cols.clashesWith row = true ∧
      (completesMerges dryRun (members.map (·.stId)) db = true → row.stId ∈ members.map (·.stId)) ∧
      (row ∈ db.members ∨ ∃ other ∈ members, other.RecordedAs server row.toMemberColumns ∧
        row ∈ e.db.members) := by
  obtain ⟨done, rest, whole⟩ := List.append_of_mem listed
  obtain ⟨s, reached, later, ⟨-, cols, skip⟩ | ⟨unskipped, -⟩⟩ := turn_at keyed distinct run whole
  · have midway := midway_at keyed distinct whole reached
    obtain ⟨row, present, clash, named⟩ := skip.blocked
    refine ⟨cols, row, skip.bound, clash, named, ?_⟩
    by_cases rostered : row.stId ∈ members.map (·.stId)
    · by_cases untouched : row.stId ∉ done.map (·.stId) ∨ row.stId ∈ s.skippedStIds
      · exact Or.inl ((midway.untouched row rostered untouched).mp present)
      -- the row is that of a member stored earlier in the pull, and the later turns leave it
      obtain ⟨turn, unskipped⟩ := not_or.mp untouched
      obtain ⟨other, earlier, same⟩ := List.mem_map.mp (not_not.mp turn)
      obtain ⟨written, there, recorded⟩ := midway.stored other earlier (same ▸ unskipped)
      cases midway.table.row_of_stId there present (recorded.stId.trans same)
      have others : ∀ m ∈ member :: rest, m.stId ≠ row.stId := fun m here mine =>
        (distinct_split (whole ▸ distinct)).2.2 m here (mine ▸ not_not.mp turn)
      have quiet : Quiet row.stId s e := quiet_of_run midway.table rostered
        (fun m here => List.mem_map_of_mem (whole ▸ List.mem_append_right done here)) others later
      exact Or.inr ⟨other, by simp [whole, earlier], recorded, (quiet.row row rfl).mpr present⟩
    · exact Or.inl (midway.absent row present rostered).1
  · exact absurd skipped unskipped

end

/-! ### What the turns note -/

/-- The ids and the pairs noted are those of the members stored, with the bodies they lead. -/
structure Noted (server : Server) (done : List Member) (s : PullState) : Prop where
  stored : ∀ member ∈ done, member.stId ∉ s.skippedStIds → ∃ row ∈ s.db.members,
    member.RecordedAs server row.toMemberColumns ∧ row.id ∈ s.presentMemberIds ∧
      ∀ leadership ∈ member.leads, ∃ bodyId, s.bodyIds.get? leadership = some bodyId ∧
        (row.id, bodyId) ∈ s.pairs
  present : ∀ id ∈ s.presentMemberIds, ∃ member ∈ done, ∃ row ∈ s.db.members,
    member.RecordedAs server row.toMemberColumns ∧ row.id = id
  pairs : ∀ pair ∈ s.pairs, ∃ member ∈ done, ∃ row ∈ s.db.members,
    member.RecordedAs server row.toMemberColumns ∧
    row.id = pair.1 ∧ ∃ leadership ∈ member.leads, s.bodyIds.get? leadership = some pair.2

section
variable {server : Server} {roster : List Int} {completeMerges : Bool} {done : List Member}
  {member : Member} {cols : MemberColumns} {id : UUID} {duplicates : List MembersRow}
  {s t : PullState}

theorem Noted.skip (noted : Noted server done s) :
    Noted server (done ++ [member]) { s with skippedStIds := s.skippedStIds ++ [member.stId] } := by
  refine ⟨fun m turn unskipped => ?_, fun id listed => ?_, fun pair listed => ?_⟩
  · rw [List.mem_append, not_or, List.mem_singleton] at unskipped
    rcases List.mem_append.mp turn with earlier | now
    · exact noted.stored m earlier unskipped.1
    · exact absurd (congrArg Member.stId (List.mem_singleton.mp now)) unskipped.2
  · obtain ⟨m, earlier, rest⟩ := noted.present id listed
    exact ⟨m, List.mem_append_left _ earlier, rest⟩
  · obtain ⟨m, earlier, rest⟩ := noted.pairs pair listed
    exact ⟨m, List.mem_append_left _ earlier, rest⟩

theorem Noted.take (noted : Noted server done s) (own : ∀ m ∈ done, m.stId ∈ roster)
    (fresh : member.stId ∉ done.map (·.stId))
    (taken : Taken server roster completeMerges member cols id duplicates s t) :
    Noted server (done ++ [member]) t := by
  have record := (bindMember_ok taken.bound).2
  have written : (⟨cols, id⟩ : MembersRow) ∈ t.db.members := taken.written
  have kept : ∀ m ∈ done, ∀ row ∈ s.db.members, m.RecordedAs server row.toMemberColumns →
      row ∈ t.db.members := by
    intro m earlier row present holds
    refine (taken.rows row).mpr (Or.inr ⟨present, fun same => ?_, fun duplicate => ?_⟩)
    · exact fresh (same ▸ holds.rostered earlier)
    · exact (taken.duplicate row duplicate).2 (holds.stId ▸ own m earlier)
  refine ⟨fun m turn unskipped => ?_, fun other listed => ?_, fun pair listed => ?_⟩
  · rcases List.mem_append.mp turn with earlier | now
    · obtain ⟨row, present, holds, noticed, leads⟩ :=
        noted.stored m earlier (taken.skipped ▸ unskipped)
      refine ⟨row, kept m earlier row present holds, holds, ?_, fun leadership led => ?_⟩
      · rw [taken.present]
        exact List.mem_append_left _ noticed
      · obtain ⟨bodyId, found, paired⟩ := leads leadership led
        rw [taken.pairs]
        exact ⟨bodyId, taken.known _ _ found, List.mem_append_left _ paired⟩
    · cases List.mem_singleton.mp now
      refine ⟨⟨cols, id⟩, written, record, ?_, fun leadership led => ?_⟩
      · rw [taken.present]
        exact List.mem_append_right _ List.mem_cons_self
      · obtain ⟨bodyId, found⟩ := taken.found leadership led
        rw [taken.pairs]
        exact ⟨bodyId, found,
          List.mem_append_right _ (List.mem_filterMap.mpr ⟨leadership, led, by rw [found]; rfl⟩)⟩
  · rw [taken.present] at listed
    rcases List.mem_append.mp listed with before | new
    · obtain ⟨m, earlier, row, present, holds, same⟩ := noted.present other before
      exact ⟨m, List.mem_append_left _ earlier, row, kept m earlier row present holds, holds, same⟩
    · cases List.mem_singleton.mp new
      exact ⟨member, List.mem_append_right _ List.mem_cons_self, ⟨cols, id⟩, written, record, rfl⟩
  · rw [taken.pairs] at listed
    rcases List.mem_append.mp listed with before | new
    · obtain ⟨m, earlier, row, present, holds, same, leadership, led, found⟩ :=
        noted.pairs pair before
      exact ⟨m, List.mem_append_left _ earlier, row, kept m earlier row present holds, holds, same,
        leadership, led, taken.known _ _ found⟩
    · obtain ⟨leadership, led, made⟩ := List.mem_filterMap.mp new
      obtain ⟨bodyId, found, rfl⟩ := Option.map_eq_some_iff.mp made
      exact ⟨member, List.mem_append_right _ List.mem_cons_self, ⟨cols, id⟩, written, record, rfl,
        leadership, led, found⟩

theorem noted_of_pullMembers {members : List Member} {db : Database}
    (table : MembersTable db.members db.nextId) (own : ∀ member ∈ members, member.stId ∈ roster)
    (distinct : (members.map (·.stId)).Nodup)
    (pulled : pullMembers server roster completeMerges members db = .ok s) :
    Noted server members s := by
  suffices step : ∀ done member rest s t, members = done ++ member :: rest →
      MembersTable s.db.members s.db.nextId ∧ Noted server done s →
      pullMember server roster completeMerges s member = .ok t →
      MembersTable t.db.members t.db.nextId ∧ Noted server (done ++ [member]) t from
    (foldlM_invariant step ⟨table, List.forall_mem_nil _, List.forall_mem_nil _,
      List.forall_mem_nil _⟩ pulled).2
  intro done member rest s t whole ⟨table, noted⟩ turn
  have fresh := (distinct_split (whole ▸ distinct)).1
  rcases pullMember_cases table (own member (by simp [whole])) turn with ⟨_, -, rfl⟩
    | ⟨cols, id, duplicates, taken⟩
  · exact ⟨table, noted.skip⟩
  · exact ⟨taken.table, noted.take (fun m earlier => own m (by simp [whole, earlier])) fresh taken⟩

theorem noted_at {members rest : List Member} {dryRun : Bool} {db : Database} (keyed : db.Keyed)
    (distinct : (members.map (·.stId)).Nodup) (whole : members = done ++ rest)
    (reached : pullUpTo server members dryRun db done = .ok s) : Noted server done s := by
  have own : ∀ m ∈ done, m.stId ∈ members.map (·.stId) :=
    fun m turn => List.mem_map_of_mem (by simp [whole, turn])
  exact noted_of_pullMembers keyed.members own (distinct_done (whole ▸ distinct)) reached

end

/-! ### Every pull of storable members commits -/

/-- A record with which every statement of a turn can be made. -/
structure Member.Pullable (server : Server) (member : Member) :
    Prop extends Member.Storable server member where
  comparable : server.compares member.email = true
  bodies : ∀ leadership ∈ member.leads, server.HoldsKey leadership.name

theorem commits_of_pullable {server : Server} {members : List Member} {db : Database}
    (keyed : db.Keyed) (distinct : (members.map (·.stId)).Nodup)
    (pullable : ∀ member ∈ members, member.Pullable server) :
    Commits server members db := by
  apply commits_of_harmless keyed
  intro done member rest whole s reached
  have storable := pullable member (by simp [whole])
  have midway := midway_at keyed distinct whole reached
  have noted := noted_at keyed distinct whole reached
  refine { storable := storable.toStorable, comparable := fun _ _ _ _ => storable.comparable,
           bodies := fun _ _ => Or.inr storable.bodies, once := fun _ _ => Or.inr ?_ }
  -- a pair noted is that of another member, whose row is another
  intro leadership _ row present same bodyId _ listed
  obtain ⟨m, earlier, other, there, holds, ids, -⟩ := noted.pairs _ listed
  cases midway.table.row_of_id there present ids
  exact (distinct_split (whole ▸ distinct)).1 (same ▸ holds.rostered earlier)

theorem plainRecord_pullable {stId : Int} {email : Email} (range : inBigint stId)
    (clean : sendable email = true) : (plainRecord stId email).Pullable textServer where
  stId := range
  firstName := trivial
  lastName := trivial
  alternateName := trivial
  email := ⟨clean, rfl⟩
  alternateEmail := nofun
  discordId := nofun
  comparable := rfl
  bodies := nofun

theorem plainRecord_recorded {stId : Int} {email : Email} {row : MembersRow}
    (clean : sendable email = true)
    (same : row.toMemberColumns = { (plainMember 0 email).toMemberColumns with stId }) :
    (plainRecord stId email).RecordedAs textServer row.toMemberColumns := by
  rw [same]
  exact ⟨rfl, rfl, rfl, rfl, bindJson_str.mpr ⟨clean, rfl⟩, rfl, rfl, rfl, rfl, rfl⟩

end Rosadmin
