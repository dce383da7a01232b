import Rosadmin.Roster.Close

/-!
# What a pull does to the members

The invariant over the members done so far says of each row which of them, if
any, wrote it, and of each row the roster has lost whether it is still there.
-/

namespace Rosadmin
open Foundation

/-- One merge names the row, and its survivor either kept the row's id or the id is gone. -/
def MergedAway (listed skippedStIds : List Int) (merges : List AccountMerge)
    (rows : List MembersRow) (row : MembersRow) : Prop :=
  ∃ survivor ∈ rows, survivor.stId ∈ listed ∧ survivor.stId ∉ skippedStIds ∧
    merges.filter (·.duplicateMemberId = row.id) = [⟨survivor.stId, row.stId, row.id⟩] ∧
    (survivor.id = row.id ∨ ∀ other ∈ rows, other.id ≠ row.id)

/-- Where the table stands once the members of `done` have had their turn. -/
structure Midway (server : Server) (roster : List Int) (completeMerges : Bool) (db : Database)
    (done : List Member) (s : PullState) : Prop where
  table : MembersTable s.db.members s.db.nextId
  grown : db.nextId ≤ s.db.nextId
  skipped : ∀ stId ∈ s.skippedStIds, stId ∈ done.map (·.stId)
  stored : ∀ member ∈ done, member.stId ∉ s.skippedStIds →
    ∃ row ∈ s.db.members, member.RecordedAs server row.toMemberColumns
  untouched : ∀ row : MembersRow, row.stId ∈ roster →
    (row.stId ∉ done.map (·.stId) ∨ row.stId ∈ s.skippedStIds) →
    (row ∈ s.db.members ↔ row ∈ db.members)
  absent : ∀ row ∈ s.db.members, row.stId ∉ roster →
    row ∈ db.members ∧ s.merges.filter (·.duplicateMemberId = row.id) = []
  fate : ∀ row ∈ db.members, row.stId ∉ roster →
    row ∈ s.db.members ∨ MergedAway (done.map (·.stId)) s.skippedStIds s.merges s.db.members row
  off : completeMerges = false → s.merges = []

section
variable {server : Server} {roster : List Int} {completeMerges : Bool} {db : Database} {done : List Member}
  {member : Member} {s t : PullState}

theorem Midway.start (table : MembersTable db.members db.nextId) :
    Midway server roster completeMerges db [] (.start db) :=
  { table, grown := le_refl _, skipped := List.forall_mem_nil _, stored := List.forall_mem_nil _,
    untouched := fun _ _ _ => Iff.rfl, absent := fun _ present _ => ⟨present, rfl⟩,
    fate := fun _ present _ => Or.inl present, off := fun _ => rfl }

theorem Midway.skip (midway : Midway server roster completeMerges db done s)
    (fresh : member.stId ∉ done.map (·.stId)) :
    Midway server roster completeMerges db (done ++ [member])
      { s with skippedStIds := s.skippedStIds ++ [member.stId] } := by
  have listed : ∀ stId, stId ∈ (done ++ [member]).map (·.stId) ↔
      stId ∈ done.map (·.stId) ∨ stId = member.stId := by
    simp
  have skips : ∀ stId, stId ∈ s.skippedStIds ++ [member.stId] ↔
    stId ∈ s.skippedStIds ∨ stId = member.stId := by simp
  refine { table := midway.table, grown := midway.grown, skipped := ?_, stored := ?_, untouched := ?_,
           absent := midway.absent, fate := ?_, off := midway.off }
  · intro stId skipped
    exact (listed stId).mpr (((skips stId).mp skipped).imp_left (midway.skipped stId))
  · intro m turn unskipped
    have unskipped := not_or.mp (mt (skips _).mpr unskipped)
    rcases List.mem_append.mp turn with earlier | now
    · exact midway.stored m earlier unskipped.1
    · exact absurd (congrArg Member.stId (List.mem_singleton.mp now)) unskipped.2
  · intro row own free
    refine midway.untouched row own ?_
    rcases free with unlisted | skipped
    · exact Or.inl fun earlier => unlisted ((listed _).mpr (Or.inl earlier))
    · rcases (skips _).mp skipped with before | same
      · exact Or.inr before
      · exact Or.inl (same ▸ fresh)
  · intro row present gone
    refine (midway.fate row present gone).imp_right ?_
    rintro ⟨survivor, there, turn, unskipped, rest⟩
    refine ⟨survivor, there, (listed _).mpr (Or.inl turn), fun skipped => ?_, rest⟩
    rcases (skips _).mp skipped with before | same
    · exact unskipped before
    · exact fresh (same ▸ turn)

section
variable {cols : MemberColumns} {id other : UUID} {duplicates : List MembersRow}

theorem Taken.unnamed (taken : Taken server roster completeMerges member cols id duplicates s t)
    (unfolded : ∀ d ∈ duplicates, d.id ≠ other) :
    t.merges.filter (·.duplicateMemberId = other) = s.merges.filter
      (·.duplicateMemberId = other) := by
  have none : (duplicates.map (fun d => (⟨member.stId, d.stId, d.id⟩ : AccountMerge))).filter
      (·.duplicateMemberId = other) = [] := by simpa using unfolded
  rw [taken.merges, List.filter_append, none, List.append_nil]

theorem Taken.named {row : MembersRow} (table : MembersTable s.db.members s.db.nextId)
    (taken : Taken server roster completeMerges member cols id duplicates s t)
    (folded : row ∈ duplicates) :
    t.merges.filter (·.duplicateMemberId = row.id) =
      s.merges.filter (·.duplicateMemberId = row.id) ++ [⟨member.stId, row.stId, row.id⟩] := by
  have same : ∀ d ∈ duplicates, decide (d.id = row.id) = decide (d = row) := fun d duplicate =>
    decide_eq_decide.mpr ⟨table.row_of_id (taken.duplicate d duplicate).1
      (taken.duplicate row folded).1, congrArg _⟩
  have one : duplicates.filter (fun d => d.id = row.id) = [row] := by
    rw [List.filter_congr same, List.filter_eq, List.count_eq_one_of_mem taken.distinct folded]
    rfl
  have merge : (duplicates.map (fun d => (⟨member.stId, d.stId, d.id⟩ : AccountMerge))).filter
      (·.duplicateMemberId = row.id) = [⟨member.stId, row.stId, row.id⟩] := by
    rw [List.filter_map]
    exact (congrArg _ one).trans rfl
  rw [taken.merges, List.filter_append, merge]

theorem Taken.kept {row : MembersRow}
    (taken : Taken server roster completeMerges member cols id duplicates s t)
    (present : row ∈ s.db.members) (rostered : row.stId ∈ roster) (other : row.stId ≠ member.stId) :
    row ∈ t.db.members :=
  (taken.rows row).mpr (Or.inr ⟨present, other, fun duplicate =>
    (taken.duplicate row duplicate).2 rostered⟩)

theorem Taken.others {row : MembersRow}
    (taken : Taken server roster completeMerges member cols id duplicates s t)
    (rostered : row.stId ∈ roster) (other : row.stId ≠ member.stId) :
    row ∈ t.db.members ↔ row ∈ s.db.members := by
  refine ⟨fun there => ?_, fun present => taken.kept present rostered other⟩
  rcases (taken.rows row).mp there with rfl | ⟨present, -⟩
  · exact absurd (bindMember_ok taken.bound).2.stId other
  · exact present

/-- A row folded in this turn has this merge alone, for as long as it was there no merge named
it. -/
theorem Midway.mergedNow {row : MembersRow} (midway : Midway server roster completeMerges db done s)
    (fresh : member.stId ∉ done.map (·.stId))
    (taken : Taken server roster completeMerges member cols id duplicates s t)
    (still : row ∈ s.db.members) (gone : row.stId ∉ roster) (folded : row ∈ duplicates) :
    MergedAway ((done ++ [member]).map (·.stId)) t.skippedStIds t.merges t.db.members row := by
  have record := (bindMember_ok taken.bound).2
  have turn : cols.stId ∈ (done ++ [member]).map (·.stId) := by simp [record.stId]
  refine ⟨⟨cols, id⟩, taken.written, turn, ?_, ?_, ?_⟩
  · exact fun skipped => fresh (record.stId ▸ midway.skipped _ (taken.skipped ▸ skipped))
  · rw [taken.named midway.table folded, (midway.absent row still gone).2, record.stId]
    rfl
  · by_cases same : id = row.id
    · exact Or.inl same
    · apply Or.inr
      intro other present
      rcases (taken.rows other).mp present with rfl | ⟨here, -, unfolded⟩
      · exact same
      · exact fun ids => unfolded (midway.table.row_of_id here still ids ▸ folded)

/-- A row folded in an earlier turn stays so: its survivor is kept, and its id is not given out
again. -/
theorem Midway.mergedBefore {row : MembersRow} (valid : MembersTable db.members db.nextId)
    (midway : Midway server roster completeMerges db done s) (earlier : ∀ m ∈ done, m.stId ∈ roster)
    (fresh : member.stId ∉ done.map (·.stId))
    (taken : Taken server roster completeMerges member cols id duplicates s t)
    (present : row ∈ db.members)
    (merged : MergedAway (done.map (·.stId)) s.skippedStIds s.merges s.db.members row) :
    MergedAway ((done ++ [member]).map (·.stId)) t.skippedStIds t.merges t.db.members row := by
  obtain ⟨survivor, there, turn, unskipped, once, ids⟩ := merged
  have rostered : survivor.stId ∈ roster := by
    obtain ⟨m, before, same⟩ := List.mem_map.mp turn
    exact same ▸ earlier m before
  have other : survivor.stId ≠ member.stId := fun same => fresh (same ▸ turn)
  have listed : survivor.stId ∈ (done ++ [member]).map (·.stId) := by
    rw [List.map_append]
    exact List.mem_append_left _ turn
  have unfolded : ∀ d ∈ duplicates, d.id ≠ row.id := by
    rintro d duplicate same
    obtain ⟨here, unrostered⟩ := taken.duplicate d duplicate
    rcases ids with kept | none
    · exact unrostered (midway.table.row_of_id here there (same.trans kept.symm) ▸ rostered)
    · exact none d here same
  refine ⟨survivor, taken.kept there rostered other, listed, taken.skipped ▸ unskipped,
    (taken.unnamed unfolded).trans once, ids.imp_right fun none another here => ?_⟩
  rcases (taken.rows another).mp here with rfl | ⟨here, -⟩
  · rcases taken.source with old | new
    · obtain ⟨holder, here, same⟩ := List.mem_map.mp old
      exact fun ids => none holder here (same.trans ids)
    · exact fun same => (lt_of_lt_of_le (valid.fresh row present) midway.grown).ne (same.symm.trans new)
  · exact none another here

theorem Midway.take (valid : MembersTable db.members db.nextId)
    (midway : Midway server roster completeMerges db done s) (own : member.stId ∈ roster)
    (earlier : ∀ m ∈ done, m.stId ∈ roster) (fresh : member.stId ∉ done.map (·.stId))
    (taken : Taken server roster completeMerges member cols id duplicates s t) :
    Midway server roster completeMerges db (done ++ [member]) t := by
  have listed : ∀ stId, stId ∈ (done ++ [member]).map (·.stId) ↔
      stId ∈ done.map (·.stId) ∨ stId = member.stId := by
    simp
  have record := (bindMember_ok taken.bound).2
  refine { table := taken.table, grown := midway.grown.trans taken.grown, skipped := ?_, stored := ?_, untouched := ?_,
           absent := ?_, fate := ?_, off := ?_ }
  · intro stId skipped
    exact (listed stId).mpr (Or.inl (midway.skipped stId (taken.skipped ▸ skipped)))
  · intro m turn unskipped
    rcases List.mem_append.mp turn with before | now
    · obtain ⟨row, present, recorded⟩ := midway.stored m before (taken.skipped ▸ unskipped)
      have other : row.stId ≠ member.stId := fun same =>
        fresh (List.mem_map.mpr ⟨m, before, recorded.stId.symm.trans same⟩)
      exact ⟨row, taken.kept present (recorded.stId ▸ earlier m before) other, recorded⟩
    · exact ⟨⟨cols, id⟩, taken.written, List.mem_singleton.mp now ▸ record⟩
  · intro row rostered free
    rw [taken.skipped] at free
    have other : row.stId ≠ member.stId := by
      intro same
      rcases free with unlisted | skipped
      · exact unlisted ((listed _).mpr (Or.inr same))
      · exact fresh (same ▸ midway.skipped _ skipped)
    have earlier := free.imp_left fun unlisted before => unlisted ((listed _).mpr (Or.inl before))
    rw [taken.others rostered other, ← midway.untouched row rostered earlier]
  · intro row present gone
    rcases (taken.rows row).mp present with rfl | ⟨present, -, unfolded⟩
    · exact absurd (record.stId ▸ own) gone
    · obtain ⟨before, none⟩ := midway.absent row present gone
      refine ⟨before, (taken.unnamed fun d duplicate ids => unfolded ?_).trans none⟩
      exact midway.table.row_of_id (taken.duplicate d duplicate).1 present ids ▸ duplicate
  · intro row present gone
    rcases midway.fate row present gone with still | merged
    · by_cases folded : row ∈ duplicates
      · exact Or.inr (midway.mergedNow fresh taken still gone folded)
      · exact Or.inl ((taken.rows row).mpr (Or.inr ⟨still, fun same => gone (same ▸ own), folded⟩))
    · exact Or.inr (midway.mergedBefore valid earlier fresh taken present merged)
  · intro off
    have none : duplicates = [] := by
      by_contra some
      exact Bool.false_ne_true (off.symm.trans (taken.merging some))
    rw [taken.merges, midway.off off, none]
    rfl

end

theorem midway_of_pullMembers {members : List Member} (valid : MembersTable db.members db.nextId)
    (own : ∀ member ∈ members, member.stId ∈ roster) (distinct : (members.map (·.stId)).Nodup)
    (pulled : pullMembers server roster completeMerges members db = .ok s) :
    Midway server roster completeMerges db members s := by
  suffices step : ∀ done member rest s t, members = done ++ member :: rest →
      Midway server roster completeMerges db done s →
        pullMember server roster completeMerges s member = .ok t →
      Midway server roster completeMerges db (done ++ [member]) t from
    foldlM_invariant step (Midway.start valid) pulled
  intro done member rest s t whole midway turn
  have named : member.stId ∈ roster := own member (by simp [whole])
  have earlier : ∀ m ∈ done, m.stId ∈ roster := fun m before => own m (by simp [whole, before])
  have fresh : member.stId ∉ done.map (·.stId) := by
    rw [whole, List.map_append] at distinct
    exact fun before => (List.nodup_append.mp distinct).2.2 _ before _ List.mem_cons_self rfl
  rcases pullMember_cases midway.table named turn with ⟨_, -, rfl⟩ | ⟨cols, id, duplicates, taken⟩
  · exact midway.skip fresh
  · exact midway.take valid named earlier fresh taken

/-- What one committed pull does to `members`. -/
structure PullEffect (server : Server) (members : List Member) (db : Database) (report : PullReport)
    (after : Database) : Prop where
  /-- A member the pull did not skip has one row, with the record's columns. -/
  stored : ∀ member ∈ members, member.stId ∉ report.skippedStIds → ∃ row ∈ after.members,
    member.RecordedAs server row.toMemberColumns ∧ ∀ other ∈ after.members,
      other.stId = member.stId → other = row
  /-- A skipped member's row is as it was, there or not. -/
  skipped : ∀ row : MembersRow, row.stId ∈ report.skippedStIds →
    (row ∈ after.members ↔ row ∈ db.members)
  /-- Any other row is merged into one survivor, or still there, lapsed if it was good and the fuse
  held. -/
  absent : ∀ row ∈ db.members, row.stId ∉ members.map (·.stId) →
    MergedAway (members.map (·.stId)) report.skippedStIds report.merges after.members row ∨
    (if row.standing = .goodStanding ∧ lapseFuseTrips db (members.map (·.stId)) = false
      then { row with standing := .lapsed } else row) ∈ after.members
  refused : lapseFuseTrips db (members.map (·.stId)) = true →
    report.merges = [] ∧ ∀ row ∈ db.members, row.stId ∉ members.map (·.stId) → row ∈ after.members
  budget : report.absentLapsed ≤ max 5 ((goodStandingTotal db + 9) / 10)

theorem MergedAway.closed {listed skippedStIds roster : List Int} {merges : List AccountMerge}
    {rows : List MembersRow} {row : MembersRow} {fuseTripped : Bool}
    (named : ∀ stId ∈ listed, stId ∈ roster)
    (merged : MergedAway listed skippedStIds merges rows row) :
    MergedAway listed skippedStIds merges (rows.map (closeRow fuseTripped roster)) row := by
  obtain ⟨survivor, there, turn, rest, once, ids⟩ := merged
  have still : survivor ∈ rows.map (closeRow fuseTripped roster) :=
    List.mem_map.mpr ⟨survivor, there, closeRow_rostered (named _ turn)⟩
  refine ⟨survivor, still, turn, rest, once, ids.imp_right fun none => List.forall_mem_map.mpr ?_⟩
  intro other present
  rw [closeRow_keys.1]
  exact none other present

/-- The rows that would lapse after the members' turns would have lapsed before them. -/
theorem Midway.lapses_le (midway : Midway server roster completeMerges db done s) :
    wouldLapse s.db roster ≤ wouldLapse db roster := by
  rw [wouldLapse, wouldLapse, List.countP_eq_length_filter, List.countP_eq_length_filter]
  refine (List.subperm_of_subset (midway.table.nodup.filter _) fun row lapses => ?_).length_le
  obtain ⟨present, lapsing⟩ := List.mem_filter.mp lapses
  have gone : row.stId ∉ roster := of_decide_eq_true ((Bool.and_eq_true _ _).mp lapsing).2
  exact List.mem_filter.mpr ⟨(midway.absent row present gone).1, lapsing⟩

/-- What one committed pull does to the members table, for every roster of distinct st_ids. -/
theorem pull_effect {members : List Member} {report : PullReport} {after : Database}
    (valid : db.Valid) (distinct : (members.map (·.stId)).Nodup)
    (committed : pullIn server members false db = .ok (report, after)) :
    PullEffect server members db report after := by
  obtain ⟨-, s, pulled, closed⟩ := pullIn_ok.mp committed
  have midway := midway_of_pullMembers valid.members (fun _ => List.mem_map_of_mem) distinct pulled
  have closed := closePull_ok closed
  have tripping : completesMerges false (members.map (·.stId)) db = !lapseFuseTrips db
    (members.map (·.stId)) := rfl
  have stIds : (after.members.map (·.stId)).Nodup := by
    have same : after.members.map (·.stId) = s.db.members.map (·.stId) := by
      rw [closed.members, List.map_map]
      exact List.map_congr_left fun _ _ => closeRow_keys.2
    exact same ▸ midway.table.stIds
  refine { stored := ?_, skipped := ?_, absent := ?_, refused := ?_, budget := ?_ }
  · intro member named unskipped
    obtain ⟨row, present, recorded⟩ := midway.stored member named (closed.skipped ▸ unskipped)
    have own : row.stId ∈ members.map (·.stId) := recorded.rostered named
    have there := (closed.mem_rostered own).mpr present
    exact ⟨row, there, recorded, fun other member same =>
      List.inj_on_of_nodup_map stIds member there (same.trans recorded.stId.symm)⟩
  · intro row skipped
    rw [closed.skipped] at skipped
    have named := midway.skipped _ skipped
    exact (closed.mem_rostered named).trans (midway.untouched row named (Or.inr skipped))
  · intro row present gone
    rw [closed.merges, closed.skipped, closed.members]
    apply (midway.fate row present gone).symm.imp (MergedAway.closed fun _ named => named)
    intro still
    refine List.mem_map.mpr ⟨row, still, ?_⟩
    simp [closeRow, Database.lapses, gone, and_comm]
  · intro tripped
    have off := midway.off (by rw [tripping, tripped]; rfl)
    refine ⟨closed.merges.trans off, fun row present gone => ?_⟩
    rcases midway.fate row present gone with still | ⟨survivor, -, -, -, once, -⟩
    · exact closed.members ▸ List.mem_map.mpr ⟨row, still, tripped ▸ closeRow_tripped⟩
    · rw [off] at once
      cases once
  · rw [closed.absentLapsed]
    split
    · omega
    · rename_i held
      have within := of_decide_eq_false (eq_false_of_ne_true held)
      exact midway.lapses_le.trans (not_lt.mp within)

end

/-- Two members the roster has lost; a new record holds the address of the first. -/
def lostMembers : Database :=
  { Database.empty with members := [plainMember 0 (str "ana@pdx.org"),
    plainMember 1 (str "cyd@pdx.org")], nextId := 2 }

/-- The first row is re-keyed to the new record, and the second lapses. -/
theorem pull_effect_rekeyed : ∃ report after,
    pullIn textServer [plainRecord 7 (str "ana@pdx.org")] false lostMembers = .ok (report, after) ∧
      report.merges = [⟨7, 0, 0⟩] ∧ report.absentLapsed = 1 ∧
      PullEffect textServer [plainRecord 7 (str "ana@pdx.org")] lostMembers report after := by
  have valid : lostMembers.Valid := by
    constructor <;> constructor <;> decide
  exact ⟨_, _, rfl, rfl, rfl, pull_effect valid (by decide) rfl⟩

end Rosadmin
