import Rosadmin.Roster.Turns

/-!
# Pulling twice

The second pull finds the tables the first one left. It changes nothing where
each record is already stored or still blocked and the fuse says what it said
before; a record let in late, or a lapse refused only once, it writes.
-/

namespace Rosadmin
open Foundation

/-- The four tables hold the same rows. -/
structure Unchanged (a b : Database) : Prop extends SameTables a b where
  memberBans : ∀ row, row ∈ a.memberBans ↔ row ∈ b.memberBans

/-- The record is stored, or the pull would find it blocked. -/
def Settled (server : Server) (roster : List Int) (db : Database) (member : Member) : Prop :=
  member.StoredIn server db ∨
    ∃ cols, bindMember server member = .ok cols ∧
      Blocked roster (completesMerges false roster db) db cols

/-! ### A turn that finds its record stored -/

section
variable {server : Server} {roster : List Int} {completeMerges : Bool} {member : Member}
    {row : MembersRow} {work work' : PullWork} {s t : PullState}

def HasBody (db : Database) (leadership : Leadership) : Prop :=
  ∃ body ∈ db.leadershipBodies, body.name = leadership.name ∧
    body.bodyType = leadership.bodyType.value

theorem upsertBody_found {db : Database} {leadership : Leadership} (there : HasBody db leadership) :
    (db.upsertBody leadership.name leadership.bodyType.value).2 = db := by
  rw [Database.upsertBody]
  cases found : db.leadershipBodies.find? (fun b => b.name = leadership.name &&
    b.bodyType = leadership.bodyType.value) with
  | some body => rfl
  | none =>
    obtain ⟨body, present, name, bodyType⟩ := there
    exact absurd (by simp [name, bodyType]) (List.find?_eq_none.mp found body present)

theorem pairLeadership_still {memberId : UUID} {leadership : Leadership}
    (there : HasBody work.db leadership)
    (paired : pairLeadership server memberId work leadership = .ok work') : work'.db = work.db := by
  obtain ⟨⟨id, u⟩, found, paired⟩ := bind_ok.mp paired
  cases pure_ok.mp paired
  rw [bodyIdOf] at found
  split at found
  · cases found
    rfl
  · obtain ⟨name, bound, found⟩ := bind_ok.mp found
    obtain ⟨-, rfl⟩ := bindKey_ok.mp bound
    cases pure_ok.mp found
    exact upsertBody_found there

theorem pullMember_still (table : MembersTable s.db.members s.db.nextId)
    (present : row ∈ s.db.members) (holds : member.RecordedAs server row.toMemberColumns)
    (bodies : ∀ leadership ∈ member.leads, HasBody s.db leadership)
    (turn : pullMember server roster completeMerges s member = .ok t) : t.db = s.db := by
  rw [pullMember, storeMember] at turn
  cases tried : upsertOne server member s.toPullWork with
  | ok upserted =>
    rw [tried] at turn
    cases turn
    obtain ⟨cols, bound, upserting⟩ := bind_ok.mp tried
    obtain ⟨⟨id, db⟩, stored, upserting⟩ := bind_ok.mp upserting
    obtain ⟨u, paired, upserting⟩ := bind_ok.mp upserting
    cases pure_ok.mp upserting
    cases (bindMember_ok bound).2.unique holds
    cases stored.symm.trans (Database.upsertMember_self table present)
    have step : ∀ leadership ∈ member.leads, ∀ v w : PullWork, v.db = s.db →
        pairLeadership server row.id v leadership = .ok w → w.db = s.db := by
      intro leadership led v w same paired
      exact (pairLeadership_still (same ▸ bodies leadership led) paired).trans same
    have kept := foldlM_keeps step rfl paired
    exact kept
  | error error =>
    rw [tried] at turn
    cases error with
    | uniqueViolation =>
      obtain ⟨cols, bound, other, there, clash⟩ := upsertOne_clash.mp tried
      have off : ∀ {goal : Prop}, false = true → goal :=
        fun merging => absurd merging Bool.false_ne_true
      have skipped : Skipped server roster false member cols s.db :=
        ⟨bound, ⟨other, there, clash, off⟩, off⟩
      exact absurd holds (skipped.unrecorded table present)
    | _ => cases turn

end

/-! ### Leader rows that are there already -/

/-- Any row under one of the pairs is a leader row, and nobody's addition. -/
def Led (rows : List BodyMembershipsRow) (pairs : List (UUID × UUID)) : Prop :=
  ∀ row ∈ rows, (row.memberId, row.bodyId) ∈ pairs →
    row.role = .leader ∧ row.addedBy = none ∧ row.manuallyAddedAt = none

theorem Led.promote {rows : List BodyMembershipsRow} {pairs : List (UUID × UUID)}
    (led : Led rows pairs) (pair : UUID × UUID) : Led (promote rows pair) (pairs ++ [pair]) := by
  intro row present listed
  rw [Rosadmin.promote] at present
  split at present
  · rcases mem_update.mp present with ⟨old, -, -, rfl⟩ | ⟨before, other⟩
    · exact ⟨rfl, rfl, rfl⟩
    · refine led row before ((List.mem_append.mp listed).resolve_right fun same => ?_)
      have keys : (row.memberId, row.bodyId) = pair := List.mem_singleton.mp same
      simp [← keys] at other
  · rename_i missing
    rcases List.mem_append.mp present with before | new
    · refine led row before ((List.mem_append.mp listed).resolve_right fun same => missing ?_)
      have keys : (row.memberId, row.bodyId) = pair := List.mem_singleton.mp same
      exact List.any_eq_true.mpr ⟨row, before, by simp [← keys]⟩
    · cases List.mem_singleton.mp new
      exact ⟨rfl, rfl, rfl⟩

theorem led_of_promoted (pairs : List (UUID × UUID)) (rows : List BodyMembershipsRow) :
    Led (pairs.foldl promote rows) pairs := by
  have carries : ∀ pairs done rows, Led rows done →
      Led (pairs.foldl promote rows) (done ++ pairs) := by
    intro pairs
    induction pairs with
    | nil =>
      intro done rows led
      rw [List.append_nil]
      exact led
    | cons pair pairs ih =>
      intro done rows led
      have next := ih (done ++ [pair]) (Rosadmin.promote rows pair) (led.promote pair)
      rw [List.append_assoc] at next
      exact next
  exact carries pairs [] rows fun row _ listed => absurd listed List.not_mem_nil

theorem promote_still {rows : List BodyMembershipsRow} {pairs : List (UUID × UUID)}
    (led : Led rows pairs) (leads : ∀ pair ∈ pairs, Leads rows pair) :
    pairs.foldl promote rows = rows := by
  induction pairs with
  | nil => rfl
  | cons pair pairs ih =>
    have first : promote rows pair = rows := by
      obtain ⟨row, present, memberId, bodyId, -⟩ := leads pair List.mem_cons_self
      have there : rows.any (fun row => row.memberId = pair.1 && row.bodyId = pair.2) = true :=
        List.any_eq_true.mpr ⟨row, present, by simp [memberId, bodyId]⟩
      rw [promote, if_pos there]
      apply update_self
      intro other member key
      have keys : other.memberId = pair.1 ∧ other.bodyId = pair.2 := by simpa using key
      obtain ⟨role, addedBy, manuallyAddedAt⟩ := led other member (by simp [keys])
      cases other
      rw [BodyMembershipsRow.mk.injEq]
      exact ⟨rfl, rfl, role.symm, addedBy.symm, manuallyAddedAt.symm⟩
    rw [List.foldl_cons, first]
    exact ih (fun row present listed => led row present (List.mem_cons_of_mem _ listed))
      fun other listed => leads other (List.mem_cons_of_mem _ listed)

/-! ### Two pulls that store the same records -/

/-- What a pull of distinct members ends with, before it closes. -/
structure Ended (server : Server) (members : List Member) (s : PullState) : Prop where
  table : MembersTable s.db.members s.db.nextId
  bodies : KnownBodies server s.toPullWork
  noted : Noted server members s

section
variable {server : Server} {members : List Member} {member : Member} {s t : PullState}

theorem Ended.of_recorded (ended : Ended server members s) (listed : member ∈ members)
    (unskipped : member.stId ∉ s.skippedStIds) {row : MembersRow} (present : row ∈ s.db.members)
    (holds : member.RecordedAs server row.toMemberColumns) : row.id ∈ s.presentMemberIds ∧
      ∀ leadership ∈ member.leads, ∃ bodyId, s.bodyIds.get? leadership = some bodyId ∧
        (row.id, bodyId) ∈ s.pairs := by
  obtain ⟨own, there, recorded, noted⟩ := ended.noted.stored member listed unskipped
  cases ended.table.row_of_stId there present (recorded.stId.trans holds.stId.symm)
  exact noted

/-- What one of them has noted of its rows the other has, if it stores the members of those rows. -/
theorem Ended.sub (first : Ended server members s) (second : Ended server members t)
    (names : (t.db.leadershipBodies.map (fun b => (b.name, b.bodyType))).Nodup)
    (same : s.db.leadershipBodies = t.db.leadershipBodies)
    (stored : ∀ member ∈ members, ∀ row ∈ s.db.members,
      member.RecordedAs server row.toMemberColumns →
      row ∈ t.db.members ∧ member.stId ∉ t.skippedStIds) :
    s.presentMemberIds ⊆ t.presentMemberIds ∧ s.pairs ⊆ t.pairs := by
  constructor
  · intro id listed
    obtain ⟨member, named, row, present, holds, rfl⟩ := first.noted.present id listed
    obtain ⟨there, unskipped⟩ := stored member named row present holds
    exact (second.of_recorded named unskipped there holds).1
  · intro pair listed
    obtain ⟨member, named, row, present, holds, rowId, leadership, led, known⟩ :=
      first.noted.pairs pair listed
    obtain ⟨there, unskipped⟩ := stored member named row present holds
    obtain ⟨bodyId, found, paired⟩ :=
      (second.of_recorded named unskipped there holds).2 leadership led
    -- both ids are those of the one body under the leadership's name
    obtain ⟨body, held, ids, name, bodyType⟩ := first.bodies.row leadership pair.2 known
    obtain ⟨other, held', ids', name', bodyType'⟩ := second.bodies.row leadership bodyId found
    have one : body = other := List.inj_on_of_nodup_map names (same ▸ held) held'
      (Prod.ext (name.trans name'.symm) (bodyType.trans bodyType'.symm))
    have sameId : bodyId = pair.2 := ids'.symm.trans ((congrArg (·.id) one).symm.trans ids)
    rw [rowId, sameId] at paired
    exact paired

end

section
variable {server : Server} {members : List Member} {db first second : Database}
    {report report' : PullReport} {e e' : PullState} {fuseTripped : Bool}

theorem ended_of_pull (keyed : db.Keyed) (distinct : (members.map (·.stId)).Nodup)
    (run : pullUpTo server members false db members = .ok e) : Ended server members e := by
  have gathered := gathered_at keyed (List.append_nil members).symm run
  exact ⟨gathered.table, gathered.bodies,
    noted_at keyed distinct (List.append_nil members).symm run⟩

/-- A record stored after a pull is one that the pull stored. -/
theorem stored_of_recorded (keyed : db.Keyed) (distinct : (members.map (·.stId)).Nodup)
    (run : pullUpTo server members false db members = .ok e) {member : Member}
    (listed : member ∈ members) {row : MembersRow} (present : row ∈ e.db.members)
    (holds : member.RecordedAs server row.toMemberColumns) :
    member.stId ∉ e.skippedStIds := by
  intro skipped
  have midway := midway_at keyed distinct (List.append_nil members).symm run
  have own : row.stId ∈ members.map (·.stId) := holds.rostered listed
  have before := (midway.untouched row own (Or.inr (holds.stId ▸ skipped))).mp present
  exact recorded_unskipped keyed distinct run listed before holds skipped

theorem run_still (keyed : first.Keyed) (pullable : ∀ member ∈ members, member.Pullable server)
    (settled : ∀ member ∈ members, Settled server (members.map (·.stId)) first member)
    (bodies : ∀ member ∈ members, ∀ row ∈ first.members,
      member.RecordedAs server row.toMemberColumns →
      ∀ leadership ∈ member.leads, HasBody first leadership)
    (run : pullUpTo server members false first members = .ok e) : e.db = first := by
  have step : ∀ member ∈ members, ∀ s t : PullState, s.db = first →
      pullMember server (members.map (·.stId))
        (completesMerges false (members.map (·.stId)) first) s member = .ok t → t.db = first := by
    intro member listed s t same turn
    have table : MembersTable s.db.members s.db.nextId := same ▸ keyed.members
    rcases settled member listed with ⟨row, present, holds⟩ | ⟨cols, bound, blocked⟩
    · have led : ∀ leadership ∈ member.leads, HasBody s.db leadership :=
        same ▸ bodies member listed row present holds
      exact (pullMember_still table (same ▸ present) holds led turn).trans same
    · have skipped : Skipped server (members.map (·.stId))
        (completesMerges false (members.map (·.stId)) first) member
          cols s.db := ⟨bound, same ▸ blocked, fun _ => (pullable member listed).comparable⟩
      cases turn.symm.trans (pullMember_skip table (List.mem_map_of_mem listed) skipped)
      exact same
  have kept := foldlM_keeps step rfl run
  exact kept

theorem close_still {roster : List Int} {refused : Nat}
    (closed : Closed fuseTripped roster e report first) (same : e'.db = first)
    (again : e'.pairs ⊆ e.pairs) (still : e.pairs ⊆ e'.pairs)
    (present : e'.presentMemberIds ⊆ e.presentMemberIds)
    (closing : closePull fuseTripped refused roster e' = .ok (report', second)) :
    Unchanged second first := by
  have closed' := closePull_ok closing
  obtain ⟨-, bans, -⟩ := closePull_frame closing
  have members : second.members = first.members := by
    rw [closed'.members, same]
    refine (List.map_congr_left fun row present => ?_).trans (List.map_id _)
    obtain ⟨old, -, rfl⟩ := List.mem_map.mp (closed.members ▸ present)
    exact closeRow_again
  have led : Led first.bodyMemberships e'.pairs := by
    intro row there listed
    rw [closed.memberships] at there
    exact led_of_promoted _ _ row (List.mem_of_mem_filter there) (again listed)
  have memberships : second.bodyMemberships = first.bodyMemberships := by
    rw [closed'.memberships, same, promote_still led fun pair listed => closed.leads (again listed)]
    refine List.filter_eq_self.mpr fun row there => decide_eq_true fun stale => stale.2.2 (still ?_)
    exact closed.pair_of_leads ⟨row, there, rfl, rfl, stale.1⟩ (present stale.2.1)
  refine ⟨⟨?_, ?_, ?_⟩, ?_⟩
  · exact fun row => by rw [members]
  · exact fun row => by rw [closed'.bodies, same]
  · exact fun row => by rw [memberships]
  · exact fun row => by rw [bans, same]

/-- The second pull leaves the tables as they were, so each record it stored was stored and each
blocker was there. -/
theorem settled_of_unchanged (keyed : first.Keyed) (distinct : (members.map (·.stId)).Nodup)
    (run : pullUpTo server members false first members = .ok e)
    (closed : Closed fuseTripped (members.map (·.stId)) e report second)
    (same : Unchanged second first) :
    ∀ member ∈ members, Settled server (members.map (·.stId)) first member := by
  intro member listed
  have carried : ∀ other ∈ members, ∀ row ∈ e.db.members,
      other.RecordedAs server row.toMemberColumns → row ∈ first.members := by
    intro other named row present holds
    have own : row.stId ∈ members.map (·.stId) := holds.rostered named
    exact (same.members row).mp ((closed.mem_rostered own).mpr present)
  by_cases skipped : member.stId ∈ e.skippedStIds
  · obtain ⟨cols, row, bound, clash, named, there⟩ :=
      blocker_of_skipped keyed distinct run listed skipped
    refine Or.inr ⟨cols, bound, row, ?_, clash, named⟩
    rcases there with before | ⟨other, named', holds, present⟩
    · exact before
    · exact carried other named' row present holds
  · obtain ⟨row, present, holds, -⟩ :=
      (ended_of_pull keyed distinct run).noted.stored member listed skipped
    exact Or.inl ⟨row, carried member listed row present holds, holds⟩

theorem verdict_of_unchanged (keyed : db.Keyed)
    (pulled : pullIn server members false db = .ok (report, first))
    (again : pullIn server members false first = .ok (report', second))
    (same : Unchanged second first) :
    lapseFuseTrips first (members.map (·.stId)) = lapseFuseTrips db (members.map (·.stId)) := by
  cases before : lapseFuseTrips db (members.map (·.stId)) with
  | false =>
    have none : wouldLapse first (members.map (·.stId)) = 0 :=
      List.countP_eq_zero.mpr fun row present =>
        ne_true_of_eq_false (lapsed_of_held pulled before present)
    refine eq_false_of_ne_true fun trips =>
      Nat.not_lt_zero (lapseBudget (goodStandingTotal first)) ?_
    exact none ▸ lapseFuseTrips_iff.mp trips
  | true =>
    by_contra held
    have waiting : 0 < wouldLapse db (members.map (·.stId)) :=
      Nat.zero_lt_of_lt (lapseFuseTrips_iff.mp before)
    obtain ⟨row, present, lapses⟩ := List.countP_pos_iff.mp waiting
    have gone : row.stId ∉ members.map (·.stId) :=
      of_decide_eq_true ((Bool.and_eq_true _ _).mp lapses).2
    have there := (absent_of_tripped keyed pulled before gone).mpr present
    have lapsed := lapsed_of_held again (eq_false_of_ne_true held) ((same.members row).mpr there)
    exact Bool.false_ne_true (lapsed.symm.trans lapses)

/-- A second pull changes nothing when the fuse says what it said before and each record is stored
or still blocked, and only then. -/
theorem pulled_twice_iff (valid : db.Valid) (distinct : (members.map (·.stId)).Nodup)
    (pullable : ∀ member ∈ members, member.Pullable server) :
    Unchanged (pullOnce server members (pullOnce server members db)) (pullOnce server members db) ↔
      lapseFuseTrips (pullOnce server members db) (members.map (·.stId)) = lapseFuseTrips db
        (members.map (·.stId)) ∧
        ∀ member ∈ members, Settled server (members.map (·.stId))
          (pullOnce server members db) member := by
  obtain ⟨⟨report, first⟩, pulled⟩ := commits_of_pullable valid.keyed distinct pullable
  have keyed := keyed_of_pull valid.keyed pulled
  obtain ⟨⟨report', second⟩, again⟩ := commits_of_pullable keyed distinct pullable
  rw [pullOnce_committed pulled, pullOnce_committed again]
  obtain ⟨-, e, run, closing⟩ := pullIn_ok.mp pulled
  obtain ⟨-, e', run', closing'⟩ := pullIn_ok.mp again
  have closed := closePull_ok closing
  constructor
  · intro same
    exact ⟨verdict_of_unchanged valid.keyed pulled again same,
      settled_of_unchanged keyed distinct run' (closePull_ok closing') same⟩
  · rintro ⟨verdict, settled⟩
    have ended := ended_of_pull valid.keyed distinct run
    have ended' := ended_of_pull keyed distinct run'
    have recorded : ∀ member ∈ members, ∀ row ∈ first.members,
        member.RecordedAs server row.toMemberColumns →
          row ∈ e.db.members ∧ member.stId ∉ e.skippedStIds := by
      intro member listed row present holds
      have own : row.stId ∈ members.map (·.stId) := holds.rostered listed
      have there := (closed.mem_rostered own).mp present
      exact ⟨there, stored_of_recorded valid.keyed distinct run listed there holds⟩
    have bodies : ∀ member ∈ members, ∀ row ∈ first.members,
        member.RecordedAs server row.toMemberColumns →
          ∀ leadership ∈ member.leads, HasBody first leadership := by
      intro member listed row present holds leadership led
      obtain ⟨there, unskipped⟩ := recorded member listed row present holds
      obtain ⟨bodyId, found, -⟩ := (ended.of_recorded listed unskipped there holds).2 leadership led
      obtain ⟨body, held, -, named⟩ := ended.bodies.row leadership bodyId found
      exact ⟨body, closed.bodies ▸ held, named⟩
    have same : e'.db = first := run_still keyed pullable settled bodies run'
    have sameBodies : e'.db.leadershipBodies = e.db.leadershipBodies := by rw [same, closed.bodies]
    have names := keyed.bodies.names
    obtain ⟨present, pairs⟩ :=
      ended'.sub ended (closed.bodies ▸ names) sameBodies fun member listed row there holds =>
      recorded member listed row (same ▸ there) holds
    obtain ⟨-, pairs'⟩ :=
      ended.sub ended' (same.symm ▸ names) sameBodies.symm fun member listed row there holds => by
      have own : row.stId ∈ members.map (·.stId) := holds.rostered listed
      have still := (closed.mem_rostered own).mpr there
      exact ⟨same ▸ still, recorded_unskipped keyed distinct run' listed still holds⟩
    rw [verdict] at closing'
    exact close_still closed same pairs pairs' present closing'

end

/-! ### A record let in late -/

def neighbours : Database :=
  { Database.empty with members := [plainMember 1 (str "ana@pdx.org"),
    plainMember 2 (str "cyd@pdx.org")], nextId := 3 }

theorem neighbours_valid : neighbours.Valid := by
  constructor <;> constructor <;> decide

/-- The first member takes the second's address, which the second only then gives up. -/
def movedAddresses : List Member :=
  [plainRecord 1 (str "cyd@pdx.org"), plainRecord 2 (str "dee@pdx.org")]

/-- The first record is skipped by the first pull and stored by the second. -/
theorem moved_address_late :
    ¬Unchanged (pullOnce textServer movedAddresses (pullOnce textServer movedAddresses neighbours))
      (pullOnce textServer movedAddresses neighbours) := by
  intro same
  have late := (same.members (plainMember 1 (str "cyd@pdx.org"))).mp (by decide)
  exact absurd late (by decide)

/-- In the other order the first pull stores both, and the second changes nothing. -/
theorem moved_address_kept :
    Unchanged (pullOnce textServer movedAddresses.reverse
      (pullOnce textServer movedAddresses.reverse neighbours))
      (pullOnce textServer movedAddresses.reverse neighbours) := by
  have pullable : ∀ member ∈ movedAddresses.reverse, member.Pullable textServer :=
    List.forall_mem_cons.mpr ⟨plainRecord_pullable ⟨by decide, by decide⟩ (by decide),
      List.forall_mem_cons.mpr ⟨plainRecord_pullable ⟨by decide, by decide⟩ (by decide), nofun⟩⟩
  refine (pulled_twice_iff neighbours_valid (by decide) pullable).mpr ⟨by decide, ?_⟩
  refine List.forall_mem_cons.mpr ⟨Or.inl ⟨plainMember 2 (str "dee@pdx.org"), by decide, ?_⟩,
    List.forall_mem_cons.mpr ⟨Or.inl ⟨plainMember 1 (str "cyd@pdx.org"), by decide, ?_⟩, nofun⟩⟩
  · exact plainRecord_recorded (by decide) rfl
  · exact plainRecord_recorded (by decide) rfl

end Rosadmin
