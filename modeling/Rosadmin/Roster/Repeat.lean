import Rosadmin.Roster.Close

/-!
# A record that arrives twice

The second copy meets the rows the first one left. What the pull does with it
is decided there, and by the statement that takes no pair twice.
-/

namespace Rosadmin
open Foundation

structure SameTables (a b : Database) : Prop where
  members : ∀ row, row ∈ a.members ↔ row ∈ b.members
  leadershipBodies : ∀ row, row ∈ a.leadershipBodies ↔ row ∈ b.leadershipBodies
  bodyMemberships : ∀ row, row ∈ a.bodyMemberships ↔ row ∈ b.bodyMemberships

/-! ### The roster counts by its members -/

section
variable {server : Server} {roster other : List Int} {completeMerges : Bool}

theorem lapses_congr (same : ∀ stId, stId ∈ roster ↔ stId ∈ other) :
    Database.lapses roster = Database.lapses other := by
  funext row
  simp only [Database.lapses, same]

theorem pullMember_congr (same : ∀ stId, stId ∈ roster ↔ stId ∈ other) :
    pullMember server roster completeMerges = pullMember server other completeMerges := by
  have duplicates : ∀ (db : Database) email discordId,
      db.mergeDuplicatesOf email discordId roster = db.mergeDuplicatesOf email discordId other := by
    intro db email discordId
    simp only [Database.mergeDuplicatesOf, same]
  funext s member
  simp only [pullMember, storeMember, mergeAndRetry, mergeDuplicates, duplicates]

end

section
variable {server : Server} {roster : List Int} {dryRun : Bool} {db : Database}
    {done rest : List Member} {s : PullState}

theorem pullIn_from (same : ∀ stId, stId ∈ (done ++ rest).map (·.stId) ↔ stId ∈ roster)
    (ranges : ∀ stId ∈ roster, inBigint stId)
    (reached : pullMembers server roster (completesMerges dryRun roster db) done db = .ok s)
    (report : PullReport) (after : Database) :
    pullIn server (done ++ rest) dryRun db = .ok (report, after) ↔
      ∃ t, rest.foldlM (pullMember server roster (completesMerges dryRun roster db)) s = .ok t ∧
        closePull (lapseFuseTrips db roster) (wouldLapse db roster) roster t =
          .ok (report, after) := by
  have lapses := lapses_congr same
  have would : wouldLapse db ((done ++ rest).map (·.stId)) = wouldLapse db roster := by
    rw [wouldLapse, wouldLapse, lapses]
  have trips : lapseFuseTrips db ((done ++ rest).map (·.stId)) = lapseFuseTrips db roster := by
    rw [lapseFuseTrips, lapseFuseTrips, would]
  have close : ∀ fuseTripped refused t,
      closePull fuseTripped refused ((done ++ rest).map (·.stId)) t =
        closePull fuseTripped refused roster t := by
    intro fuseTripped refused t
    simp only [closePull, wouldLapse, Database.lapseAbsentMembers, lapses]
  have inRange : ∀ member ∈ done ++ rest, inBigint member.stId := fun member listed =>
    ranges _ ((same _).mp (List.mem_map_of_mem listed))
  rw [pullIn_ok, and_iff_right inRange]
  simp only [pullUpTo, pullMembers, completesMerges, trips, would, close, pullMember_congr same,
    foldlM_append_ok] at reached ⊢
  constructor
  · rintro ⟨t, ⟨u, first, run⟩, closed⟩
    cases reached.symm.trans first
    exact ⟨t, run, closed⟩
  · rintro ⟨t, run, closed⟩
    exact ⟨t, ⟨s, reached, run⟩, closed⟩

end

/-! ### Two states that differ in what was noted -/

structure Alike (s t : PullState) : Prop where
  work : s.toPullWork = t.toPullWork
  present : ∀ id, id ∈ s.presentMemberIds ↔ id ∈ t.presentMemberIds

section
variable {server : Server} {roster : List Int} {completeMerges : Bool} {s t s' t' : PullState}

theorem Alike.step {member : Member} (alike : Alike s t)
    (pulled : pullMember server roster completeMerges s member = .ok s') :
    ∃ t', pullMember server roster completeMerges t member = .ok t' ∧ Alike s' t' := by
  rw [pullMember, alike.work] at pulled
  rw [pullMember]
  cases stored : storeMember server roster completeMerges member t.toPullWork with
  | ok result =>
    rw [stored] at pulled
    cases pulled
    refine ⟨_, rfl, rfl, fun id => ?_⟩
    simp only [noteStored, List.mem_append, alike.present]
  | error error =>
    rw [stored] at pulled
    cases error with
    | uniqueViolation =>
      cases pulled
      exact ⟨_, rfl, rfl, alike.present⟩
    | _ => cases pulled

theorem Alike.run {members : List Member} (alike : Alike s t)
    (pulled : members.foldlM (pullMember server roster completeMerges) s = .ok s') :
    ∃ t', members.foldlM (pullMember server roster completeMerges) t = .ok t' ∧ Alike s' t' := by
  induction members generalizing s t with
  | nil => exact ⟨t, rfl, pure_ok.mp pulled ▸ alike⟩
  | cons member members ih =>
    obtain ⟨u, first, rest⟩ := foldlM_cons_ok.mp pulled
    obtain ⟨v, second, between⟩ := alike.step first
    obtain ⟨t', run, done⟩ := ih between rest
    exact ⟨t', foldlM_cons_ok.mpr ⟨v, second, run⟩, done⟩

theorem Alike.close {fuseTripped : Bool} {refused : Nat} {report : PullReport} {after : Database}
    (alike : Alike s t) (closed : closePull fuseTripped refused roster s = .ok (report, after)) :
    ∃ report', closePull fuseTripped refused roster t = .ok (report', after) := by
  obtain ⟨led, inserted, closed⟩ := bind_ok.mp closed
  cases pure_ok.mp closed
  have stale : led.deleteStaleLeaderRows s.presentMemberIds s.pairs =
      led.deleteStaleLeaderRows t.presentMemberIds t.pairs := by
    simp only [Database.deleteStaleLeaderRows, alike.present, alike.work]
  rw [alike.work] at inserted
  rw [stale]
  exact ⟨_, bind_ok.mpr ⟨led, inserted, rfl⟩⟩

end

/-! ### The turns of others -/

/-- After the turns of others: the row of the st_id is as it was, and no new pair is its own. -/
structure Quiet (stId : Int) (s t : PullState) : Prop where
  row : ∀ row : MembersRow, row.stId = stId → (row ∈ t.db.members ↔ row ∈ s.db.members)
  pairs : ∀ row ∈ t.db.members, row.stId = stId → ∀ pair ∈ t.pairs, pair.1 = row.id → pair ∈ s.pairs

section
variable {server : Server} {roster : List Int} {completeMerges : Bool} {members : List Member}
    {member : Member} {s t u : PullState}

theorem quiet_of_run {stId : Int} (table : MembersTable s.db.members s.db.nextId)
    (rostered : stId ∈ roster) (own : ∀ member ∈ members, member.stId ∈ roster)
    (others : ∀ member ∈ members, member.stId ≠ stId)
    (run : members.foldlM (pullMember server roster completeMerges) s = .ok t) :
    Quiet stId s t := by
  suffices step : ∀ member ∈ members, ∀ t u, Onward roster s t ∧ Quiet stId s t →
      pullMember server roster completeMerges t member = .ok u →
        Onward roster s u ∧ Quiet stId s u from
    (foldlM_keeps step ⟨Onward.refl table, fun _ _ => Iff.rfl, fun _ _ _ _ known _ => known⟩ run).2
  intro member listed t u ⟨onward, quiet⟩ turn
  have named := own member listed
  have other := others member listed
  refine ⟨onward.step named turn, ?_⟩
  rcases pullMember_cases onward.table named turn with ⟨_, -, rfl⟩ | ⟨cols, id, duplicates, taken⟩
  · exact ⟨quiet.row, quiet.pairs⟩
  · have record := (bindMember_ok taken.bound).2
    have kept : ∀ row : MembersRow, row.stId = stId →
        (row ∈ u.db.members ↔ row ∈ t.db.members) := by
      intro row same
      rw [taken.rows row]
      constructor
      · rintro (rfl | ⟨present, -⟩)
        · exact absurd (record.stId.symm.trans same) other
        · exact present
      · intro present
        have unfolded : row ∉ duplicates := fun duplicate =>
          (taken.duplicate row duplicate).2 (same ▸ rostered)
        exact Or.inr ⟨present, fun mine => other (mine.symm.trans same), unfolded⟩
    refine ⟨fun row same => (kept row same).trans (quiet.row row same), ?_⟩
    intro row present same pair gathered mine
    rw [taken.pairs] at gathered
    rcases List.mem_append.mp gathered with before | new
    · exact quiet.pairs row ((kept row same).mp present) same pair before mine
    · obtain ⟨leadership, -, made⟩ := List.mem_filterMap.mp new
      obtain ⟨bodyId, -, rfl⟩ := Option.map_eq_some_iff.mp made
      have there : (⟨cols, id⟩ : MembersRow) ∈ u.db.members := taken.written
      have one := taken.table.row_of_id there present mine
      exact absurd (record.stId.symm.trans ((congrArg (·.stId) one).trans same)) other

end

/-! ### The copy -/

/-- The copy finds itself blocked, or finds its own columns stored and has no body to lead. -/
def Absorbed (server : Server) (roster : List Int) (completeMerges : Bool) (record : Member)
    (s : PullState) : Prop :=
  (∃ cols, Skipped server roster completeMerges record cols s.db) ∨
    (record.leads = [] ∧ ∃ row ∈ s.db.members, record.RecordedAs server row.toMemberColumns)

def PullsTo (server : Server) (members : List Member) (dryRun : Bool) (db after : Database) :
    Prop :=
  ∃ report' after', pullIn server members dryRun db = .ok (report', after') ∧
    SameTables after after'

section
variable {server : Server} {roster : List Int} {completeMerges : Bool} {record : Member}
    {between : List Member} {cols : MemberColumns} {row : MembersRow} {s t u : PullState}

theorem pullMember_again (table : MembersTable s.db.members s.db.nextId)
    (bound : bindMember server record = .ok cols) (present : row ∈ s.db.members)
    (holds : record.RecordedAs server row.toMemberColumns) (leads : record.leads = []) :
    ∃ assessment, pullMember server roster completeMerges s record =
      .ok (noteStored s ⟨row.id, assessment, []⟩ s.toPullWork) := by
  cases (bindMember_ok bound).2.unique holds
  have upserted : upsertOne server record s.toPullWork = .ok ((row.id, row.leadershipAssessment),
      s.toPullWork) := by
    rw [upsertOne, bound, ok_bind, Database.upsertMember_self table present, ok_bind, leads]
    rfl
  refine ⟨row.leadershipAssessment, ?_⟩
  rw [pullMember, storeMember, upserted]

theorem present_after (own : record.stId ∈ roster)
    (turn : pullMember server roster completeMerges s record = .ok t) (others : Onward roster t u)
    (present : row ∈ u.db.members) (holds : record.RecordedAs server row.toMemberColumns)
    (table : MembersTable s.db.members s.db.nextId) : row.id ∈ u.presentMemberIds := by
  have rostered : row.stId ∈ roster := holds.stId ▸ own
  rcases others.written row present rostered with earlier | noted
  · rcases pullMember_cases table own turn with ⟨cols, skipped, rfl⟩ | ⟨cols, id, duplicates, taken⟩
    · exact absurd holds (skipped.unrecorded table earlier)
    · rcases (taken.rows row).mp earlier with rfl | ⟨-, other, -⟩
      · exact others.present (taken.present ▸ List.mem_append_right _ List.mem_cons_self)
      · exact absurd holds.stId other
  · exact noted

end

/-! ### The leader rows of the pairs -/

def Leads (rows : List BodyMembershipsRow) (pair : UUID × UUID) : Prop :=
  ∃ row ∈ rows, row.memberId = pair.1 ∧ row.bodyId = pair.2 ∧ row.role = .leader

theorem leads_promote (rows : List BodyMembershipsRow) (pair : UUID × UUID) :
    Leads (promote rows pair) pair := by
  rw [promote]
  split
  · rename_i there
    obtain ⟨row, present, key⟩ := List.any_eq_true.mp there
    have keys : row.memberId = pair.1 ∧ row.bodyId = pair.2 := by simpa using key
    exact ⟨_, mem_update.mpr (Or.inl ⟨row, present, key, rfl⟩), keys.1, keys.2, rfl⟩
  · exact ⟨_, List.mem_append_right _ List.mem_cons_self, rfl, rfl, rfl⟩

theorem Leads.promote {rows : List BodyMembershipsRow} {pair : UUID × UUID}
    (leads : Leads rows pair) (other : UUID × UUID) : Leads (promote rows other) pair := by
  by_cases same : other = pair
  · exact same ▸ leads_promote rows pair
  · obtain ⟨row, present, memberId, bodyId, role⟩ := leads
    rw [Rosadmin.promote]
    split
    · refine ⟨row, mem_update.mpr (Or.inr ⟨present, ?_⟩), memberId, bodyId, role⟩
      refine eq_false_of_ne_true fun key => same ?_
      have keys : row.memberId = other.1 ∧ row.bodyId = other.2 := by simpa using key
      exact Prod.ext (keys.1.symm.trans memberId) (keys.2.symm.trans bodyId)
    · exact ⟨row, List.mem_append_left _ present, memberId, bodyId, role⟩

theorem leads_of_pair {pairs : List (UUID × UUID)} {rows : List BodyMembershipsRow}
    {pair : UUID × UUID} (listed : pair ∈ pairs) : Leads (pairs.foldl promote rows) pair := by
  have kept : ∀ (pairs : List (UUID × UUID)) rows, Leads rows pair →
      Leads (pairs.foldl promote rows) pair := by
    intro pairs
    induction pairs with
    | nil => exact fun _ leads => leads
    | cons other pairs ih => exact fun rows leads => ih _ (leads.promote other)
  induction pairs generalizing rows with
  | nil => cases listed
  | cons other pairs ih =>
    rcases List.mem_cons.mp listed with rfl | later
    · exact kept pairs _ (leads_promote rows pair)
    · exact ih later

theorem Closed.leads {fuseTripped : Bool} {roster : List Int} {s : PullState} {report : PullReport}
    {after : Database} {pair : UUID × UUID} (closed : Closed fuseTripped roster s report after)
    (listed : pair ∈ s.pairs) :
    Leads after.bodyMemberships pair := by
  have leads : Leads (s.pairs.foldl promote s.db.bodyMemberships) pair := leads_of_pair listed
  obtain ⟨row, present, memberId, bodyId, role⟩ := leads
  refine ⟨row, ?_, memberId, bodyId, role⟩
  rw [closed.memberships, List.mem_filter]
  refine ⟨present, decide_eq_true fun stale => stale.2.2 ?_⟩
  rw [memberId, bodyId]
  exact listed

theorem Closed.pair_of_leads {fuseTripped : Bool} {roster : List Int} {s : PullState}
    {report : PullReport} {after : Database} {pair : UUID × UUID}
    (closed : Closed fuseTripped roster s report after) (leads : Leads after.bodyMemberships pair)
    (present : pair.1 ∈ s.presentMemberIds) :
    pair ∈ s.pairs := by
  obtain ⟨row, member, memberId, bodyId, role⟩ := leads
  rw [closed.memberships, List.mem_filter] at member
  by_contra unlisted
  refine of_decide_eq_true member.2 ⟨role, memberId ▸ present, ?_⟩
  rw [memberId, bodyId]
  exact unlisted

/-! ### With the copy and without it -/

section
variable {server : Server} {roster : List Int} {completeMerges fuseTripped : Bool} {refused : Nat}
  {record : Member} {rest : List Member} {s e e' : PullState} {report report' : PullReport}
  {after after' : Database}

theorem run_of_absorbed (table : MembersTable s.db.members s.db.nextId) (own : record.stId ∈ roster)
    (storable : record.Storable server)
    (noted : ∀ row ∈ s.db.members, record.RecordedAs server row.toMemberColumns →
      row.id ∈ s.presentMemberIds)
    (run : rest.foldlM (pullMember server roster completeMerges) s = .ok e)
    (closed : closePull fuseTripped refused roster e = .ok (report, after))
    (absorbed : Absorbed server roster completeMerges record s) :
    ∃ e' report', (record :: rest).foldlM (pullMember server roster completeMerges) s = .ok e' ∧
      closePull fuseTripped refused roster e' = .ok (report', after) := by
  obtain ⟨s', turn, alike⟩ : ∃ s', pullMember server roster completeMerges s record = .ok s' ∧
    Alike s s' := by
    rcases absorbed with ⟨cols, skipped⟩ | ⟨leads, row, present, holds⟩
    · exact ⟨_, pullMember_skip table own skipped, rfl, fun _ => Iff.rfl⟩
    · obtain ⟨cols, bound⟩ := storable_iff.mp storable
      obtain ⟨assessment, turn⟩ := pullMember_again table bound present holds leads
      refine ⟨_, turn, rfl, fun id => ⟨List.mem_append_left _, fun listed => ?_⟩⟩
      rcases List.mem_append.mp listed with before | again
      · exact before
      · exact List.mem_singleton.mp again ▸ noted row present holds
  obtain ⟨e', run', ends⟩ := alike.run run
  obtain ⟨report', closed'⟩ := ends.close closed
  exact ⟨e', report', foldlM_cons_ok.mpr ⟨s', turn, run'⟩, closed'⟩

/-- If the tables end the same, with no later record of the st_id, the copy was absorbed. -/
theorem absorbed_of_run (table : MembersTable s.db.members s.db.nextId) (own : record.stId ∈ roster)
    (named : ∀ member ∈ rest, member.stId ∈ roster)
    (others : ∀ member ∈ rest, member.stId ≠ record.stId)
    (noted : ∀ row ∈ s.db.members, record.RecordedAs server row.toMemberColumns →
      row.id ∈ s.presentMemberIds)
    (run : rest.foldlM (pullMember server roster completeMerges) s = .ok e)
    (closed : Closed fuseTripped roster e report after)
    (run' : (record :: rest).foldlM (pullMember server roster completeMerges) s = .ok e')
    (closed' : Closed fuseTripped roster e' report' after') (same : SameTables after after') :
    Absorbed server roster completeMerges record s := by
  obtain ⟨s', turn, run'⟩ := foldlM_cons_ok.mp run'
  rcases pullMember_cases table own turn with ⟨cols, skipped, -⟩ | ⟨cols, id, duplicates, taken⟩
  · exact Or.inl ⟨cols, skipped⟩
  have record' := (bindMember_ok taken.bound).2
  have rostered : (⟨cols, id⟩ : MembersRow).stId ∈ roster := record'.stId ▸ own
  have onward : Onward roster s e := onward_of_run table named run
  have onward' : Onward roster s' e' := onward_of_run taken.table named run'
  have quiet : Quiet record.stId s e := quiet_of_run table own named others run
  have quiet' : Quiet record.stId s' e' := quiet_of_run taken.table own named others run'
  -- the copy's row outlives the rest, so without the copy it is there too
  have written : (⟨cols, id⟩ : MembersRow) ∈ after'.members := by
    have ended := (quiet'.row ⟨cols, id⟩ record'.stId).mpr taken.written
    exact (closed'.mem_rostered rostered).mpr ended
  have held : (⟨cols, id⟩ : MembersRow) ∈ e.db.members :=
    (closed.mem_rostered rostered).mp ((same.members _).mpr written)
  have stored := (quiet.row ⟨cols, id⟩ record'.stId).mp held
  refine Or.inr ⟨List.eq_nil_iff_forall_not_mem.mpr ?_, ⟨cols, id⟩, stored, record'⟩
  -- a led body makes a pair, which would be there twice
  intro leadership led
  obtain ⟨bodyId, found⟩ := taken.found leadership led
  have made : (id, bodyId) ∈ record.leads.filterMap (fun l => (s'.bodyIds.get? l).map (id, ·)) :=
    List.mem_filterMap.mpr ⟨leadership, led, by rw [found]; rfl⟩
  have gathered : (id, bodyId) ∈ s'.pairs := taken.pairs ▸ List.mem_append_right _ made
  obtain ⟨row, there, keys⟩ := closed'.leads (onward'.pairs.subset gathered)
  have leads : Leads after.bodyMemberships (id, bodyId) :=
    ⟨row, (same.bodyMemberships row).mpr there, keys⟩
  have listed : (id, bodyId) ∈ e.pairs :=
    closed.pair_of_leads leads (onward.present (noted _ stored record'))
  have before : (id, bodyId) ∈ s.pairs := quiet.pairs _ held record'.stId _ listed rfl
  have once : s'.pairs.Nodup := closed'.once.sublist onward'.pairs.sublist
  rw [taken.pairs] at once
  exact (List.nodup_append.mp once).2.2 _ before _ made rfl

end

section
variable {server : Server} {dryRun : Bool} {db after : Database}
  {members earlier between rest : List Member} {record : Member} {report : PullReport}
  {s : PullState}

/-- A second copy of a record, coming after it, leaves the pull committing with the same tables if
the copy is absorbed where it comes; and only then, if no later record shares its st_id. -/
theorem repeat_kept_iff (valid : db.Valid)
    (listed : members = (earlier ++ record :: between) ++ rest)
    (committed : pullIn server members dryRun db = .ok (report, after))
    (reached : pullUpTo server members dryRun db (earlier ++ record :: between) = .ok s) :
    (Absorbed server (members.map (·.stId))
      (completesMerges dryRun (members.map (·.stId)) db) record s →
      PullsTo server ((earlier ++ record :: between) ++ record :: rest) dryRun db after) ∧
    ((∀ member ∈ rest, member.stId ≠ record.stId) →
      PullsTo server ((earlier ++ record :: between) ++ record :: rest) dryRun db after →
      Absorbed server (members.map (·.stId)) (completesMerges dryRun (members.map (·.stId)) db)
        record s) := by
  obtain ⟨ranges, -⟩ := pullIn_ok.mp committed
  have ranges : ∀ stId ∈ members.map (·.stId), inBigint stId := List.forall_mem_map.mpr ranges
  have own : record.stId ∈ members.map (·.stId) := List.mem_map_of_mem (by simp [listed])
  have named : ∀ member ∈ rest, member.stId ∈ members.map (·.stId) := fun member later =>
    List.mem_map_of_mem (by simp [listed, later])
  have twice : ∀ stId, stId ∈ ((earlier ++ record :: between) ++ record :: rest).map (·.stId) ↔
      stId ∈ members.map (·.stId) := by
    intro stId
    simp only [listed, List.map_append, List.map_cons, List.mem_append, List.mem_cons]
    tauto
  have once : pullIn server ((earlier ++ record :: between) ++ rest) dryRun db =
      .ok (report, after) :=
    listed ▸ committed
  have again := fun report' after' => pullIn_from twice ranges reached report' after'
  obtain ⟨e, run, closed⟩ :=
    (pullIn_from (fun stId => by rw [listed]) ranges reached report after).mp once
  -- the record's own turn, and the turns between it and its copy
  rw [pullUpTo, pullMembers] at reached
  obtain ⟨p, early, late⟩ := foldlM_append_ok.mp reached
  obtain ⟨q, turn, mid⟩ := foldlM_cons_ok.mp late
  have start : MembersTable (PullState.start db).db.members (PullState.start db).db.nextId :=
    valid.members
  have first : Onward (members.map (·.stId)) (.start db) p :=
    onward_of_run start (fun m turn => List.mem_map_of_mem (by simp [listed, turn])) early
  have own' := first.step own turn
  have second : Onward (members.map (·.stId)) q s :=
    onward_of_run own'.table (fun m turn => List.mem_map_of_mem (by simp [listed, turn])) mid
  have noted : ∀ row ∈ s.db.members, record.RecordedAs server row.toMemberColumns →
      row.id ∈ s.presentMemberIds :=
    fun row present holds => present_after own turn second present holds first.table
  have storable : record.Storable server := by
    rcases pullMember_cases first.table own turn with ⟨_, skipped, -⟩ | ⟨_, _, _, taken⟩
    · exact (bindMember_ok skipped.bound).1
    · exact (bindMember_ok taken.bound).1
  constructor
  · intro absorbed
    obtain ⟨e', report', run', closed'⟩ :=
      run_of_absorbed second.table own storable noted run closed absorbed
    exact ⟨report', after, (again report' after).mpr ⟨e', run', closed'⟩, fun _ =>
      Iff.rfl, fun _ => Iff.rfl, fun _ => Iff.rfl⟩
  · rintro others ⟨report', after', repeated, same⟩
    obtain ⟨e', run', closed'⟩ := (again report' after').mp repeated
    exact absorbed_of_run second.table own named others noted run (closePull_ok closed) run'
      (closePull_ok closed') same

end

def leaderRecord : Member :=
  { plainRecord 7 (str "ana@pdx.org") with
    isChapterLeader := true, leads := [⟨.committee, str "Steering"⟩],
    leadsNodup := List.nodup_singleton _ }

/-- The record arrives twice, and the pull that took it once aborts. -/
theorem repeated_leader_aborts : ∃ report after,
    pullIn textServer [leaderRecord] false .empty = .ok (report, after) ∧
      pullIn textServer [leaderRecord, leaderRecord] false .empty = .error .cardinalityViolation ∧
      ¬PullsTo textServer [leaderRecord, leaderRecord] false .empty after := by
  have aborts : pullIn textServer [leaderRecord, leaderRecord] false .empty =
    .error .cardinalityViolation := rfl
  exact ⟨_, _, rfl, aborts, fun ⟨_, _, pulled, _⟩ => nomatch aborts.symm.trans pulled⟩

theorem repeat_kept_plain : ∃ report after,
    pullIn textServer [plainRecord 7 (str "ana@pdx.org")] false .empty = .ok (report, after) ∧
      PullsTo textServer [plainRecord 7 (str "ana@pdx.org"),
        plainRecord 7 (str "ana@pdx.org")] false .empty after := by
  have listed : [plainRecord 7 (str "ana@pdx.org")] =
    (([] : List Member) ++ plainRecord 7 (str "ana@pdx.org") :: []) ++ [] := rfl
  have committed : pullIn textServer [plainRecord 7 (str "ana@pdx.org")] false .empty =
    .ok (_, _) := rfl
  have reached : pullUpTo textServer [plainRecord 7 (str "ana@pdx.org")] false .empty
      ([] ++ plainRecord 7 (str "ana@pdx.org") :: []) = .ok _ := rfl
  refine ⟨_, _, committed,
    (repeat_kept_iff Database.empty_valid listed committed reached).1
      (Or.inr ⟨rfl, _, List.mem_cons_self, ?_⟩)⟩
  exact ⟨rfl, rfl, rfl, rfl, rfl, rfl, rfl, rfl, rfl, rfl⟩

end Rosadmin
