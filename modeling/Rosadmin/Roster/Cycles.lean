import Rosadmin.Foundation.Rounds
import Rosadmin.Roster.Settled

/-!
# Values that move round in a circle

Each pull that leaves somebody unstored stores one of them, unless their rows
hold each other's values. Such a group no number of pulls takes apart, and
without one the members of a consistent roster are all stored in the end.
-/

namespace Rosadmin
open Foundation

/-- A roster whose records are storable and share no st_id, no address and no Discord id. -/
structure Consistent (server : Server) (members : List Member) : Prop where
  pullable : ∀ member ∈ members, member.Pullable server
  stIds : (members.map (·.stId)).Nodup
  emails : (members.map fun member => bindEmail server member.email).Nodup
  discordIds : (members.filterMap (·.discordId)).Nodup

/-- Each of the group has its email or its Discord id held by the row of another of them. -/
structure Deadlocked (server : Server) (members : List Member) (db : Database)
    (group : List Member) : Prop where
  listed : group ⊆ members
  nonempty : group ≠ []
  held : ∀ member ∈ group, ∃ other ∈ group, ∃ row ∈ db.members, row.stId = other.stId ∧
    ∃ cols, bindMember server member = .ok cols ∧ cols.clashesWith row = true

section
variable {server : Server} {members : List Member} {member other : Member} {cols : MemberColumns}
    {row : MembersRow}

theorem Consistent.clear (consistent : Consistent server members) (listed : member ∈ members)
    (named : other ∈ members) (bound : bindMember server member = .ok cols)
    (holds : other.RecordedAs server row.toMemberColumns) : cols.clashesWith row = false := by
  have record := (bindMember_ok bound).2
  apply eq_false_of_ne_true
  intro clash
  obtain ⟨distinct, held⟩ := (Bool.and_eq_true _ _).mp clash
  have apart : member ≠ other := by
    rintro rfl
    exact of_decide_eq_true distinct (holds.stId.trans record.stId.symm)
  rcases (Bool.or_eq_true _ _).mp held with email | discordId
  · have mine := record.bindEmail (consistent.pullable member listed).toStorable
    have theirs := holds.bindEmail (consistent.pullable other named).toStorable
    have same : bindEmail server member.email = bindEmail server other.email := by
      rw [mine, theirs, Option.some.inj (of_decide_eq_true email)]
    exact apart (List.inj_on_of_nodup_map consistent.emails listed named same)
  · obtain ⟨known, same⟩ := (Bool.and_eq_true _ _).mp discordId
    obtain ⟨id, mine⟩ := Option.isSome_iff_exists.mp known
    have theirs : other.discordId = some id :=
      holds.discordUserId ▸ (of_decide_eq_true same).trans mine
    exact apart (row_of_nullable consistent.discordIds listed named
      (record.discordUserId ▸ mine) theirs)

end

/-! ### One pull -/

section
variable {server : Server} {members group : List Member} {db after : Database} {member : Member}
  {row : MembersRow} {report : PullReport} {e : PullState} {fuseTripped : Bool} (keyed : db.Keyed)
  (distinct : (members.map (·.stId)).Nodup) (run : pullUpTo server members false db members = .ok e)
include keyed distinct run

theorem stored_of_unskipped (closed : Closed fuseTripped (members.map (·.stId)) e report after)
    (listed : member ∈ members) (unskipped : member.stId ∉ e.skippedStIds) :
    member.StoredIn server after := by
  have midway := midway_at keyed distinct (List.append_nil members).symm run
  obtain ⟨row, present, holds⟩ := midway.stored member listed unskipped
  have own : row.stId ∈ members.map (·.stId) := holds.rostered listed
  exact ⟨row, (closed.mem_rostered own).mpr present, holds⟩

theorem stored_stays (closed : Closed fuseTripped (members.map (·.stId)) e report after)
    (listed : member ∈ members) (stored : member.StoredIn server db) :
    member.StoredIn server after := by
  obtain ⟨row, present, holds⟩ := stored
  exact stored_of_unskipped keyed distinct run closed listed
    (recorded_unskipped keyed distinct run listed present holds)

theorem row_of_skipped (closed : Closed fuseTripped (members.map (·.stId)) e report after)
    (skipped : row.stId ∈ e.skippedStIds) : row ∈ after.members ↔ row ∈ db.members := by
  have midway := midway_at keyed distinct (List.append_nil members).symm run
  have own := midway.skipped _ skipped
  exact (closed.mem_rostered own).trans (midway.untouched row own (Or.inr skipped))

/-- What blocks a member skipped by a pull that completes merges is the row of another that is not
stored either. -/
theorem blocked_by_unstored (consistent : Consistent server members)
    (merging : completesMerges false (members.map (·.stId)) db = true) (listed : member ∈ members)
    (skipped : member.stId ∈ e.skippedStIds) :
    ∃ other ∈ members, ¬other.StoredIn server db ∧ ∃ row ∈ db.members, row.stId = other.stId ∧
      ∃ cols, bindMember server member = .ok cols ∧ cols.clashesWith row = true := by
  obtain ⟨cols, row, bound, clash, named, there⟩ :=
    blocker_of_skipped keyed distinct run listed skipped
  have free : ∀ other ∈ members, ¬other.RecordedAs server row.toMemberColumns :=
    fun other named holds =>
    Bool.false_ne_true ((consistent.clear listed named bound holds).symm.trans clash)
  rcases there with present | ⟨other, named', holds, -⟩
  · obtain ⟨other, named', same⟩ := List.mem_map.mp (named merging)
    refine ⟨other, named', ?_, row, present, same.symm, cols, bound, clash⟩
    rintro ⟨stored, there, holds⟩
    cases keyed.members.row_of_stId there present (holds.stId.trans same)
    exact free other named' holds
  · exact absurd holds (free other named')

/-- The first of the group to have its turn meets the row of another, which is as it was. -/
theorem Deadlocked.skipped (deadlocked : Deadlocked server members db group) :
    ∀ member ∈ group, member.stId ∈ e.skippedStIds := by
  suffices turns : ∀ n done member rest, done.length = n → members = done ++ member :: rest →
    member ∈ group → member.stId ∈ e.skippedStIds by
    intro member grouped
    obtain ⟨done, rest, whole⟩ := List.append_of_mem (deadlocked.listed grouped)
    exact turns done.length done member rest rfl whole grouped
  intro n
  induction n using Nat.strong_induction_on with
  | h n ih =>
    rintro done member rest rfl whole grouped
    obtain ⟨s, reached, later, ⟨skipped, -⟩ | ⟨-, cols, id, duplicates, t, taken⟩⟩ :=
      turn_at keyed distinct run whole
    · exact skipped
    obtain ⟨other, among, row, present, same, cols', bound, clash⟩ := deadlocked.held member grouped
    cases bound.symm.trans taken.bound
    have own : row.stId ∈ members.map (·.stId) :=
      same ▸ List.mem_map_of_mem (deadlocked.listed among)
    have midway := midway_at keyed distinct whole reached
    refine absurd ⟨row, (midway.untouched row own ?_).mpr present, clash, fun _ => own⟩ taken.free
    by_cases turn : row.stId ∈ done.map (·.stId)
    · -- the other had its turn before, and was skipped there
      obtain ⟨earlier, before, ids⟩ := List.mem_map.mp turn
      cases List.inj_on_of_nodup_map distinct (by simp [whole, before]) (deadlocked.listed among)
        (ids.trans same)
      obtain ⟨done', rest', split⟩ := List.append_of_mem before
      have shorter : done'.length < done.length := by simp [split]
      have skipped := ih done'.length shorter done' other (rest' ++ member :: rest) rfl
        (by simp [whole, split]) among
      have others : ∀ m ∈ member :: rest, m.stId ≠ other.stId := fun m here mine =>
        (distinct_split (whole ▸ distinct)).2.2 m here (mine ▸ List.mem_map_of_mem before)
      exact Or.inr (same ▸ (skips_of_run others later).mp skipped)
    · exact Or.inl turn

theorem Deadlocked.stays (deadlocked : Deadlocked server members db group)
    (closed : Closed fuseTripped (members.map (·.stId)) e report after) :
    Deadlocked server members after group := by
  refine ⟨deadlocked.listed, deadlocked.nonempty, fun member grouped => ?_⟩
  obtain ⟨other, among, row, present, same, clash⟩ := deadlocked.held member grouped
  have skipped := deadlocked.skipped keyed distinct run other among
  exact ⟨other, among, row, (row_of_skipped keyed distinct run closed (same ▸ skipped)).mpr present,
    same, clash⟩

end

/-! ### Pull after pull -/

section
variable {server : Server} {members group : List Member} {db : Database} {member : Member}

theorem pullOnce_closed (keyed : db.Keyed) (consistent : Consistent server members) :
    ∃ e report, pullIn server members false db = .ok (report, pullOnce server members db) ∧
      pullUpTo server members false db members = .ok e ∧
      Closed (lapseFuseTrips db (members.map (·.stId))) (members.map (·.stId)) e report
        (pullOnce server members db) := by
  obtain ⟨⟨report, after⟩, pulled⟩ := commits_of_pullable keyed consistent.stIds consistent.pullable
  obtain ⟨-, e, run, closing⟩ := pullIn_ok.mp pulled
  rw [pullOnce_committed pulled]
  exact ⟨e, report, pulled, run, closePull_ok closing⟩

variable (keyed : db.Keyed) (consistent : Consistent server members)
include keyed consistent

/-- A member once stored stays stored; until then its row, if any, is the one it started with. -/
theorem stored_or_untouched (listed : member ∈ members) (n : Nat) :
    (member.StoredIn server (again server members n db) →
      member.StoredIn server (again server members (n + 1) db)) ∧
      (¬member.StoredIn server (again server members n db) →
        ∀ row : MembersRow, row.stId = member.stId →
          (row ∈ (again server members n db).members ↔ row ∈ db.members)) := by
  have stays : ∀ k, member.StoredIn server (again server members k db) →
      member.StoredIn server (again server members (k + 1) db) := by
    intro k stored
    have keyed : (again server members k db).Keyed := keyed_again keyed k
    obtain ⟨e, report, -, run, closed⟩ := pullOnce_closed keyed consistent
    rw [again_succ]
    exact stored_stays keyed consistent.stIds run closed listed stored
  refine ⟨stays n, ?_⟩
  induction n with
  | zero => exact fun _ _ _ => Iff.rfl
  | succ n ih =>
    intro waits row own
    have keyed : (again server members n db).Keyed := keyed_again keyed n
    obtain ⟨e, report, -, run, closed⟩ := pullOnce_closed keyed consistent
    rw [again_succ] at waits ⊢
    have skipped : member.stId ∈ e.skippedStIds := by
      by_contra unskipped
      exact waits (stored_of_unskipped keyed consistent.stIds run closed listed unskipped)
    refine (row_of_skipped keyed consistent.stIds run closed (own.symm ▸ skipped)).trans
      (ih (fun stored => waits ?_) row own)
    have next := stays n stored
    rw [again_succ] at next
    exact next

/-- A pull that stores nobody new leaves the members still waiting in each other's way. -/
theorem deadlocked_of_idle {n : Nat}
    (held : lapseFuseTrips (again server members n db) (members.map (·.stId)) = false)
    (idle : ∀ member ∈ members, ¬member.StoredIn server (again server members n db) →
      ¬member.StoredIn server (again server members (n + 1) db))
    (listed : member ∈ members) (waits : ¬member.StoredIn server (again server members n db)) :
    ∃ group, Deadlocked server members db group := by
  classical
  have keyed' : (again server members n db).Keyed := keyed_again keyed n
  obtain ⟨e, report, -, run, closed⟩ := pullOnce_closed keyed' consistent
  have merging : completesMerges false (members.map (·.stId))
      (again server members n db) = true := by
    rw [completesMerges, held]
    rfl
  refine ⟨members.filter fun m => ¬m.StoredIn server (again server members n db),
    List.filter_subset_self _, ?_, ?_⟩
  · exact List.ne_nil_of_mem (List.mem_filter.mpr ⟨listed, decide_eq_true waits⟩)
  · intro m grouped
    obtain ⟨named, waits⟩ := List.mem_filter.mp grouped
    have still := idle m named (of_decide_eq_true waits)
    rw [again_succ] at still
    have skipped : m.stId ∈ e.skippedStIds := by
      by_contra unskipped
      exact still (stored_of_unskipped keyed' consistent.stIds run closed named unskipped)
    obtain ⟨other, named', unstored, row, present, same, clash⟩ :=
      blocked_by_unstored keyed' consistent.stIds run consistent merging named skipped
    refine ⟨other, List.mem_filter.mpr ⟨named', decide_eq_true unstored⟩, row, ?_, same, clash⟩
    exact ((stored_or_untouched keyed consistent named' n).2 unstored row same).mp present

theorem Deadlocked.persists (deadlocked : Deadlocked server members db group) (n : Nat) :
    Deadlocked server members (again server members n db) group := by
  induction n with
  | zero => exact deadlocked
  | succ n ih =>
    have keyed : (again server members n db).Keyed := keyed_again keyed n
    obtain ⟨e, report, -, run, closed⟩ := pullOnce_closed keyed consistent
    rw [again_succ]
    exact ih.stays keyed consistent.stIds run closed

end

section
variable {server : Server} {members : List Member} {db : Database}

/-- The last of one pull more than there are members finds nobody to skip and every record stored,
unless at the start some of them are in each other's way. -/
theorem all_stored_iff (valid : db.Valid) (consistent : Consistent server members)
    (held : ∀ k ≤ members.length, lapseFuseTrips (again server members k db)
      (members.map (·.stId)) = false) :
    (∃ report after,
      pullIn server members false (again server members members.length db) = .ok (report, after) ∧
        report.skippedStIds = [] ∧ ∀ member ∈ members, member.StoredIn server after) ↔
      ¬∃ group, Deadlocked server members db group := by
  have keyed : (again server members members.length db).Keyed :=
    keyed_again valid.keyed members.length
  obtain ⟨e, report, pulled, run, closed⟩ := pullOnce_closed keyed consistent
  constructor
  · rintro ⟨report', after, pulled', none, -⟩ ⟨group, deadlocked⟩
    cases pulled.symm.trans pulled'
    obtain ⟨member, grouped⟩ := List.exists_mem_of_ne_nil group deadlocked.nonempty
    have late := deadlocked.persists valid.keyed consistent members.length
    have skipped := late.skipped keyed consistent.stIds run member grouped
    rw [← closed.skipped, none] at skipped
    exact List.not_mem_nil skipped
  · intro free
    have stored : ∀ member ∈ members,
        ¬¬member.StoredIn server (again server members members.length db) := by
      refine @none_waits_of_rounds Member members (fun k member =>
        ¬member.StoredIn server (again server members k db))
        members.length ?_ ?_ (le_refl _)
      · intro k member listed waits stored
        exact waits ((stored_or_untouched valid.keyed consistent listed k).1 stored)
      · intro k within idle member listed waits
        exact free (deadlocked_of_idle valid.keyed consistent (held k within.le) idle listed waits)
    have midway := midway_at keyed consistent.stIds (List.append_nil members).symm run
    refine ⟨report, _, pulled, ?_, fun member listed => ?_⟩
    · rw [closed.skipped]
      apply List.eq_nil_iff_forall_not_mem.mpr
      intro stId skipped
      obtain ⟨member, listed, rfl⟩ := List.mem_map.mp (midway.skipped stId skipped)
      obtain ⟨row, present, holds⟩ := not_not.mp (stored member listed)
      exact recorded_unskipped keyed consistent.stIds run listed present holds skipped
    · exact stored_stays keyed consistent.stIds run closed listed
        (not_not.mp (stored member listed))

end

/-! ### Two addresses -/

theorem Consistent.pair {first second : Email} (clean : sendable first = true)
    (clean' : sendable second = true) (apart : first ≠ second) :
    Consistent textServer [plainRecord 1 first, plainRecord 2 second] where
  pullable := List.forall_mem_cons.mpr ⟨plainRecord_pullable ⟨by decide, by decide⟩ clean,
    List.forall_mem_cons.mpr ⟨plainRecord_pullable ⟨by decide, by decide⟩ clean', nofun⟩⟩
  stIds := by simp [plainRecord]
  emails := by
    have bound : ∀ {stId : Int} {email : Email}, sendable email = true →
        bindEmail textServer (plainRecord stId email).email = .ok email := fun clean =>
      bindEmail_ok.mpr ⟨bindJson_str.mpr ⟨clean, rfl⟩, clean, rfl⟩
    simp only [List.map_cons, List.map_nil, bound clean, bound clean']
    simpa using apart
  discordIds := List.nodup_nil

def swappedAddresses : List Member :=
  [plainRecord 1 (str "cyd@pdx.org"), plainRecord 2 (str "ana@pdx.org")]

/-- The two members have exchanged addresses, and the third pull still skips both. -/
theorem swapped_addresses_stuck : Consistent textServer swappedAddresses ∧
    (∀ k ≤ 2, lapseFuseTrips (again textServer swappedAddresses k neighbours)
      (swappedAddresses.map (·.stId)) = false) ∧
    ∃ report after, pullIn textServer swappedAddresses false
      (again textServer swappedAddresses 2 neighbours) =
      .ok (report, after) ∧ report.skippedStIds = [1, 2] :=
  ⟨.pair (by decide) (by decide) (by decide), by decide, _, _, rfl, rfl⟩

/-- An address passed on in a line is let in by the second pull, well within three. -/
theorem moved_addresses_stored : ∃ report after,
    pullIn textServer movedAddresses false (again textServer movedAddresses 2 neighbours) =
      .ok (report, after) ∧
      report.skippedStIds = [] ∧ ∀ member ∈ movedAddresses, member.StoredIn textServer after := by
  refine (all_stored_iff neighbours_valid (.pair (by decide) (by decide) (by decide))
    (by decide)).mpr ?_
  rintro ⟨group, deadlocked⟩
  have columns : ∀ {stId : UUID} {email : Email} {cols : MemberColumns}, sendable email = true →
      bindMember textServer (plainRecord stId email) = .ok cols →
        cols = (plainMember stId email).toMemberColumns :=
    fun clean bound => (bindMember_ok bound).2.unique (plainRecord_recorded clean rfl)
  have either : ∀ member ∈ group, member = plainRecord 1 (str "cyd@pdx.org") ∨
      member = plainRecord 2 (str "dee@pdx.org") :=
    fun member grouped => by simpa [movedAddresses] using deadlocked.listed grouped
  have free : plainRecord 2 (str "dee@pdx.org") ∉ group := by
    intro grouped
    obtain ⟨-, -, row, present, -, cols, bound, clash⟩ := deadlocked.held _ grouped
    cases columns (by decide) bound
    have clear : ∀ row ∈ neighbours.members,
        (plainMember 2 (str "dee@pdx.org")).toMemberColumns.clashesWith row = false := by decide
    exact Bool.false_ne_true ((clear row present).symm.trans clash)
  have only : ∀ member ∈ group, member = plainRecord 1 (str "cyd@pdx.org") := fun member grouped =>
    (either member grouped).resolve_right fun same => free (same ▸ grouped)
  obtain ⟨member, grouped⟩ := List.exists_mem_of_ne_nil group deadlocked.nonempty
  obtain ⟨other, among, row, present, same, cols, bound, clash⟩ := deadlocked.held member grouped
  rw [only member grouped] at bound
  rw [only other among] at same
  cases columns (by decide) bound
  have clear : ∀ row ∈ neighbours.members, row.stId = 1 →
      (plainMember 1 (str "cyd@pdx.org")).toMemberColumns.clashesWith row = false := by decide
  exact Bool.false_ne_true ((clear row present same).symm.trans clash)

end Rosadmin
