import Rosadmin.Roster.Columns
import Rosadmin.Roster.Rows

/-!
# One member's turn

A member is stored, with the duplicates in its way folded, or blocked by a row
the pull must leave alone. Every fact about a pull comes from these two cases.
-/

namespace Rosadmin
open Foundation

/-! ### The bodies a member leads -/

theorem BodyType.value_inj {a b : BodyType} (same : a.value = b.value) : a = b := by
  cases a <;> cases b <;> first | rfl | exact absurd same (by decide)

structure KnownBodies (server : Server) (work : PullWork) : Prop where
  ids : (work.db.leadershipBodies.map (·.id)).Nodup
  fresh : ∀ body ∈ work.db.leadershipBodies, body.id < work.db.nextId
  row : ∀ leadership id, work.bodyIds.get? leadership = some id → ∃ body ∈ work.db.leadershipBodies,
    body.id = id ∧ body.name = leadership.name ∧ body.bodyType = leadership.bodyType.value
  held : ∀ leadership ∈ work.bodyIds, server.HoldsKey leadership.name

theorem KnownBodies.frame {server : Server} {s t : PullWork} (bodies : KnownBodies server s)
    (same : t.db.leadershipBodies = s.db.leadershipBodies) (grown : s.db.nextId ≤ t.db.nextId)
    (ids : t.bodyIds = s.bodyIds) : KnownBodies server t :=
  ⟨same ▸ bodies.ids, fun body member => lt_of_lt_of_le (bodies.fresh body (same ▸ member)) grown,
    same ▸ ids ▸ bodies.row, ids ▸ bodies.held⟩

theorem KnownBodies.inj {server : Server} {s : PullWork} (bodies : KnownBodies server s)
    {a b : Leadership} {id : UUID} (first : s.bodyIds.get? a = some id)
    (second : s.bodyIds.get? b = some id) : a = b := by
  obtain ⟨row, present, rowId, name, bodyType⟩ := bodies.row a id first
  obtain ⟨other, there, otherId, name', bodyType'⟩ := bodies.row b id second
  cases List.inj_on_of_nodup_map bodies.ids present there (rowId.trans otherId.symm)
  have types := BodyType.value_inj (bodyType.symm.trans bodyType')
  have names := name.symm.trans name'
  cases a
  cases b
  simp_all

structure BodyUpserted (name bodyType : Str) (id : UUID) (before after : Database) : Prop where
  members : after.members = before.members
  grown : before.nextId ≤ after.nextId
  kept : before.leadershipBodies ⊆ after.leadershipBodies
  row : ∃ body ∈ after.leadershipBodies, body.id = id ∧ body.name = name ∧ body.bodyType = bodyType
  ids : (before.leadershipBodies.map (·.id)).Nodup →
    (∀ body ∈ before.leadershipBodies, body.id < before.nextId) →
    (after.leadershipBodies.map (·.id)).Nodup ∧ ∀ body ∈ after.leadershipBodies,
      body.id < after.nextId

theorem upsertBody_upserted {db : Database} {name bodyType : Str} :
    BodyUpserted name bodyType (db.upsertBody name bodyType).1 db
      (db.upsertBody name bodyType).2 := by
  rw [Database.upsertBody]
  cases found : db.leadershipBodies.find? (fun b => b.name = name && b.bodyType = bodyType) with
  | some body =>
    have named : body.name = name ∧ body.bodyType = bodyType := by simpa using List.find?_some found
    have present := List.mem_of_find?_eq_some found
    exact ⟨rfl, le_refl _, List.Subset.refl _, ⟨body, present, rfl, named⟩, And.intro⟩
  | none =>
    refine ⟨rfl, Nat.le_succ _, List.subset_append_left _ _, ?_, fun ids fresh => ⟨?_, ?_⟩⟩
    · exact ⟨_, List.mem_append_right _ List.mem_cons_self, rfl, rfl, rfl⟩
    · rw [List.map_append]
      refine List.nodup_append.mpr ⟨ids, List.nodup_singleton _, ?_⟩
      intro a old b new
      obtain ⟨body, present, rfl⟩ := List.mem_map.mp old
      cases List.mem_singleton.mp new
      exact (fresh body present).ne
    · intro body member
      rcases List.mem_append.mp member with old | new
      · exact Nat.lt_succ_of_lt (fresh body old)
      · cases List.mem_singleton.mp new
        exact Nat.lt_succ_self _

structure Paired (server : Server) (memberId : UUID) (leads : List Leadership)
    (before after : PullWork) : Prop where
  members : after.db.members = before.db.members
  grown : before.db.nextId ≤ after.db.nextId
  known : ∀ leadership id, before.bodyIds.get? leadership = some id →
    after.bodyIds.get? leadership = some id
  found : ∀ leadership ∈ leads, ∃ id, after.bodyIds.get? leadership = some id
  pairs : after.pairs =
    before.pairs ++ leads.filterMap (fun leadership =>
      (after.bodyIds.get? leadership).map (memberId, ·))
  bodies : KnownBodies server before → KnownBodies server after

section
variable {server : Server} {memberId : UUID} {leads : List Leadership} {s t u : PullWork}

theorem Paired.nil : Paired server memberId [] s s :=
  ⟨rfl, le_refl _, fun _ _ h => h, List.forall_mem_nil _, (List.append_nil _).symm, id⟩

theorem Paired.cons {leadership : Leadership} (first : Paired server memberId [leadership] s t)
    (second : Paired server memberId leads t u) :
    Paired server memberId (leadership :: leads) s u := by
  obtain ⟨id, found⟩ := first.found leadership List.mem_cons_self
  have kept := second.known leadership id found
  refine ⟨second.members.trans first.members, first.grown.trans second.grown,
    fun l i h => second.known l i (first.known l i h), ?_, ?_, second.bodies ∘ first.bodies⟩
  · intro other member
    rcases List.mem_cons.mp member with rfl | later
    · exact ⟨id, kept⟩
    · exact second.found other later
  · rw [second.pairs, first.pairs, List.append_assoc]
    simp [found, kept]

theorem pairLeadership_ok {leadership : Leadership}
    (paired : pairLeadership server memberId s leadership = .ok t) :
    Paired server memberId [leadership] s t := by
  obtain ⟨⟨id, u⟩, found, paired⟩ := bind_ok.mp paired
  cases pure_ok.mp paired
  rw [bodyIdOf] at found
  cases known : s.bodyIds.get? leadership with
  | some bodyId =>
    rw [known] at found
    cases found
    refine ⟨rfl, le_refl _, fun _ _ h => h, fun l only =>
      ⟨id, List.mem_singleton.mp only ▸ known⟩, ?_, ?_⟩
    · simp [known]
    · exact fun bodies => ⟨bodies.ids, bodies.fresh, bodies.row, bodies.held⟩
  | none =>
    rw [known] at found
    obtain ⟨name, bound, found⟩ := bind_ok.mp found
    obtain ⟨held, rfl⟩ := bindKey_ok.mp bound
    cases pure_ok.mp found
    have upserted : BodyUpserted leadership.name leadership.bodyType.value _ s.db _ :=
      upsertBody_upserted
    refine ⟨upserted.members, upserted.grown, ?_, ?_, ?_, fun bodies => ?_⟩
    · intro l id old
      have other : l ≠ leadership := by
        rintro rfl
        rw [known] at old
        cases old
      rw [Dict.get?_set, if_neg other, old]
    · intro l only
      exact ⟨_, by rw [List.mem_singleton.mp only, Dict.get?_set, if_pos rfl]⟩
    · simp
    obtain ⟨ids, fresh⟩ := upserted.ids bodies.ids bodies.fresh
    refine ⟨ids, fresh, ?_, ?_⟩
    · intro l id found
      rw [Dict.get?_set] at found
      split at found
      · rename_i same
        cases found
        exact same ▸ upserted.row
      · obtain ⟨body, present, rest⟩ := bodies.row l id found
        exact ⟨body, upserted.kept present, rest⟩
    · intro l member
      rcases Dict.mem_set.mp member with rfl | old
      · exact held
      · exact bodies.held l old

theorem pairLeaderships_ok (paired : leads.foldlM (pairLeadership server memberId) s = .ok t) :
    Paired server memberId leads s t := by
  induction leads generalizing s with
  | nil => exact pure_ok.mp paired ▸ Paired.nil
  | cons leadership leads ih =>
    obtain ⟨u, first, rest⟩ := foldlM_cons_ok.mp paired
    exact (pairLeadership_ok first).cons (ih rest)

theorem pairLeadership_unclashing {leadership : Leadership} :
    pairLeadership server memberId s leadership ≠ .error .uniqueViolation := by
  refine bind_ne_error ?_ fun _ => ok_ne_error
  rw [bodyIdOf]
  split
  · exact ok_ne_error
  · exact bind_ne_error bindKey_unclashing fun _ => ok_ne_error

theorem pairLeaderships_unclashing :
    leads.foldlM (pairLeadership server memberId) s ≠ .error .uniqueViolation := by
  induction leads generalizing s with
  | nil => exact ok_ne_error
  | cons leadership leads ih =>
    rw [List.foldlM_cons]
    exact bind_ne_error pairLeadership_unclashing fun _ => ih

/-! ### The upsert of one member -/

variable {member : Member} {assessment : LeadershipAssessment}

theorem upsertOne_ok (table : MembersTable s.db.members s.db.nextId)
    (upserted : upsertOne server member s = .ok ((memberId, assessment), t)) :
    ∃ cols db, bindMember server member = .ok cols ∧ assessment = cols.leadershipAssessment ∧
      (∀ row ∈ s.db.members, cols.clashesWith row = false) ∧ Upserted cols memberId s.db db ∧
      Paired server memberId member.leads { s with db } t := by
  obtain ⟨cols, bound, upserted⟩ := bind_ok.mp upserted
  obtain ⟨⟨id, db⟩, stored, upserted⟩ := bind_ok.mp upserted
  obtain ⟨u, paired, upserted⟩ := bind_ok.mp upserted
  cases pure_ok.mp upserted
  obtain ⟨clear, wrote⟩ := Database.upsertMember_ok table stored
  exact ⟨cols, db, bound, rfl, clear, wrote, pairLeaderships_ok paired⟩

theorem upsertOne_clash :
    upsertOne server member s = .error .uniqueViolation ↔
      ∃ cols, bindMember server member = .ok cols ∧ ∃ row ∈ s.db.members,
        cols.clashesWith row = true := by
  cases bound : bindMember server member with
  | error e =>
    have failed : upsertOne server member s = .error e := by rw [upsertOne, bound]; rfl
    constructor
    · intro clash
      rw [failed] at clash
      cases clash
      exact absurd bound bindMember_unclashing
    · rintro ⟨cols, stored, -⟩
      cases stored
  | ok cols =>
    cases stored : s.db.upsertMember cols with
    | error e =>
      have failed : upsertOne server member s = .error e :=
        by rw [upsertOne, bound, ok_bind, stored]; rfl
      obtain ⟨rfl, clash⟩ := Database.upsertMember_error.mp stored
      exact iff_of_true failed ⟨cols, rfl, clash⟩
    | ok upserted =>
      have rest : upsertOne server member s =
        (member.leads.foldlM (pairLeadership server upserted.1)
          { s with db := upserted.2 } >>= fun s => pure
            ((upserted.1, cols.leadershipAssessment), s)) := by
        rw [upsertOne, bound, ok_bind, stored, ok_bind]
      rw [rest]
      refine iff_of_false (bind_ne_error pairLeaderships_unclashing fun _ => ok_ne_error) ?_
      rintro ⟨_, same, clash⟩
      cases same
      cases (Database.upsertMember_error.mpr ⟨rfl, clash⟩).symm.trans stored

end

/-! ### The turn -/

/-- A row the pull must leave alone holds the record's email or Discord id. -/
def Blocked (roster : List Int) (completeMerges : Bool) (db : Database) (cols : MemberColumns) :
    Prop :=
  ∃ row ∈ db.members, cols.clashesWith row = true ∧ (completeMerges = true → row.stId ∈ roster)

structure Skipped (server : Server) (roster : List Int) (completeMerges : Bool) (member : Member)
    (cols : MemberColumns) (db : Database) : Prop where
  bound : bindMember server member = .ok cols
  blocked : Blocked roster completeMerges db cols
  compared : completeMerges = true → server.compares member.email = true

/-- A member whose record is stored is not skipped: the row that blocked it would share a unique
column with its own. -/
theorem Skipped.unrecorded {server : Server} {roster : List Int} {completeMerges : Bool}
    {member : Member} {cols : MemberColumns} {db : Database} {row : MembersRow}
    (table : MembersTable db.members db.nextId)
    (skipped : Skipped server roster completeMerges member cols db) (present : row ∈ db.members) :
    ¬member.RecordedAs server row.toMemberColumns := by
  intro holds
  obtain ⟨other, there, clash, -⟩ := skipped.blocked
  have mine := (bindMember_ok skipped.bound).2.unique holds
  have distinct : row ≠ other := by
    rintro rfl
    simp [MemberColumns.clashesWith, ← mine] at clash
  rw [clear_of_apart mine.symm (table.apart present there distinct)] at clash
  cases clash

/-- What storing a member leaves, with the duplicates in its way folded. -/
structure Taken (server : Server) (roster : List Int) (completeMerges : Bool) (member : Member)
    (cols : MemberColumns) (id : UUID) (duplicates : List MembersRow) (before after : PullState) :
    Prop where
  bound : bindMember server member = .ok cols
  free : ¬Blocked roster completeMerges before.db cols
  compared : completeMerges = true → (∃ row ∈ before.db.members, cols.clashesWith row = true) →
    server.compares member.email = true
  duplicate : ∀ d ∈ duplicates, d ∈ before.db.members ∧ d.stId ∉ roster
  distinct : duplicates.Nodup
  merging : duplicates ≠ [] → completeMerges = true
  rows : ∀ row, row ∈ after.db.members ↔
    row = ⟨cols, id⟩ ∨ (row ∈ before.db.members ∧ row.stId ≠ member.stId ∧ row ∉ duplicates)
  own : ∀ row ∈ before.db.members, row.stId = member.stId → row.id = id
  source : id ∈ before.db.members.map (·.id) ∨ id = before.db.nextId
  table : MembersTable after.db.members after.db.nextId
  grown : before.db.nextId ≤ after.db.nextId
  known : ∀ leadership id, before.bodyIds.get? leadership = some id →
    after.bodyIds.get? leadership = some id
  found : ∀ leadership ∈ member.leads, ∃ id, after.bodyIds.get? leadership = some id
  pairs : after.pairs =
    before.pairs ++ member.leads.filterMap (fun leadership =>
      (after.bodyIds.get? leadership).map (id, ·))
  bodies : KnownBodies server before.toPullWork → KnownBodies server after.toPullWork
  present : after.presentMemberIds = before.presentMemberIds ++ [id]
  skipped : after.skippedStIds = before.skippedStIds
  merges : after.merges = before.merges ++ duplicates.map (fun d => ⟨member.stId, d.stId, d.id⟩)

theorem Taken.written {server : Server} {roster : List Int} {completeMerges : Bool}
    {member : Member} {cols : MemberColumns} {id : UUID} {duplicates : List MembersRow}
    {s t : PullState} (taken : Taken server roster completeMerges member cols id duplicates s t) :
    (⟨cols, id⟩ : MembersRow) ∈ t.db.members := (taken.rows _).mpr (Or.inl rfl)

section
variable {server : Server} {roster : List Int} {completeMerges : Bool} {member : Member}
    {s t : PullState} {work work' : PullWork}

/-- After the duplicates are folded, what clashes is what the roster still names. -/
theorem clash_after_fold {cols : MemberColumns} {db after : Database}
    (folded : Folded cols.stId (db.mergeDuplicatesOf (some cols.email) cols.discordUserId roster)
      db after) :
    (∃ row ∈ after.members, cols.clashesWith row = true) ↔
      ∃ row ∈ db.members, cols.clashesWith row = true ∧ row.stId ∈ roster := by
  constructor
  · rintro ⟨row, member, clash⟩
    obtain ⟨other, holds⟩ := (Bool.and_eq_true _ _).mp clash
    obtain ⟨present, kept⟩ := (folded.others row (of_decide_eq_true other)).mp member
    refine ⟨row, present, clash, ?_⟩
    by_contra absent
    exact kept (Database.mem_mergeDuplicatesOf.mpr ⟨present, holds, absent⟩)
  · rintro ⟨row, present, clash, listed⟩
    obtain ⟨other, -⟩ := (Bool.and_eq_true _ _).mp clash
    refine ⟨row, (folded.others row (of_decide_eq_true other)).mpr ⟨present, fun duplicate => ?_⟩,
      clash⟩
    exact (Database.mem_mergeDuplicatesOf.mp duplicate).2.2 listed

theorem mergeDuplicates_ok {cols : MemberColumns} {merged : List AccountMerge × Database}
    {db : Database} (bound : bindMember server member = .ok cols) :
    mergeDuplicates server roster member db = .ok merged ↔ server.compares member.email = true ∧
      merged = ((db.mergeDuplicatesOf (some cols.email) cols.discordUserId roster).map (fun d =>
        ⟨cols.stId, d.stId, d.id⟩),
        mergeInto cols.stId (db.mergeDuplicatesOf (some cols.email) cols.discordUserId roster)
          db) := by
  have record := (bindMember_ok bound).2
  rw [mergeDuplicates, bind_ok]
  simp only [compareEmail_ok bound, pure_ok, record.stId, record.discordUserId]
  constructor
  · rintro ⟨_, ⟨compares, rfl⟩, rfl⟩
    exact ⟨compares, rfl⟩
  · rintro ⟨compares, rfl⟩
    exact ⟨_, ⟨compares, rfl⟩, rfl⟩

theorem mergeDuplicates_folded {cols : MemberColumns} {db : Database}
    (table : MembersTable db.members db.nextId) (own : cols.stId ∈ roster) :
    Folded cols.stId (db.mergeDuplicatesOf (some cols.email) cols.discordUserId roster) db
      (mergeInto cols.stId (db.mergeDuplicatesOf (some cols.email) cols.discordUserId roster)
        db) := by
  apply mergeInto_folded table
  intro d duplicate
  obtain ⟨present, -, absent⟩ := Database.mem_mergeDuplicatesOf.mp duplicate
  exact ⟨present, fun same => absent (same ▸ own)⟩

theorem taken_of_folded {cols : MemberColumns} {duplicates : List MembersRow} {folded : Database}
    {memberId : UUID}
    {assessment : LeadershipAssessment} (bound : bindMember server member = .ok cols)
    (free : ¬Blocked roster completeMerges s.db cols)
    (compared : completeMerges = true → (∃ row ∈ s.db.members, cols.clashesWith row = true) →
      server.compares member.email = true)
    (duplicate : ∀ d ∈ duplicates, d ∈ s.db.members ∧ d.stId ∉ roster) (distinct : duplicates.Nodup)
    (merging : duplicates ≠ [] → completeMerges = true)
    (merged : Folded cols.stId duplicates s.db folded)
    (upserted : upsertOne server member { s.toPullWork with db := folded } =
      .ok ((memberId, assessment), work)) :
    Taken server roster completeMerges member cols memberId duplicates s
      (noteStored s ⟨memberId, assessment, duplicates.map (fun d => ⟨cols.stId, d.stId, d.id⟩)⟩ work) := by
  obtain ⟨cols', db, bound', -, -, wrote, paired⟩ := upsertOne_ok merged.table upserted
  cases bound.symm.trans bound'
  have stId := (bindMember_ok bound).2.stId
  have members : work.db.members = db.members := paired.members
  have grown : s.db.nextId ≤ db.nextId := merged.nextId ▸ wrote.grown
  refine { bound, free, compared, duplicate, distinct, merging, rows := ?_, own := ?_, source := ?_,
           table := ?_, grown := grown.trans paired.grown, known := paired.known, found := paired.found,
           pairs := paired.pairs, bodies := ?_, present := rfl, skipped := rfl, merges := ?_ }
  · intro row
    refine (members ▸ wrote.rows row).trans (or_congr_right ?_)
    rw [← stId]
    constructor
    · rintro ⟨member, other⟩
      exact ⟨((merged.others row other).mp member).1, other,
        ((merged.others row other).mp member).2⟩
    · rintro ⟨member, other, kept⟩
      exact ⟨(merged.others row other).mpr ⟨member, kept⟩, other⟩
  · intro row member same
    have own := same.trans stId.symm
    exact wrote.own row (merged.own row member own) own
  · refine wrote.source.imp (fun named => ?_) (fun fresh => fresh.trans merged.nextId)
    obtain ⟨row, member, rfl⟩ := List.mem_map.mp named
    exact merged.source row member
  · have table : MembersTable db.members work.db.nextId :=
      ⟨wrote.table.ids, wrote.table.stIds, wrote.table.emails, wrote.table.discordIds,
        fun row member => lt_of_lt_of_le (wrote.table.fresh row member) paired.grown⟩
    exact members ▸ table
  · intro bodies
    have known := paired.bodies (bodies.frame (wrote.bodies.trans merged.bodies) grown rfl)
    exact known.frame rfl (le_refl _) rfl
  · rw [noteStored, stId]

theorem Folded.refl {db : Database} {stId : Int} (table : MembersTable db.members db.nextId) :
    Folded stId [] db db :=
  ⟨fun row _ => by simp, fun _ member _ => member, fun _ member => List.mem_map_of_mem member, table, rfl, rfl⟩

theorem mergeAndRetry_ok {cols : MemberColumns} {stored : Stored}
    (table : MembersTable s.db.members s.db.nextId) (own : cols.stId ∈ roster)
    (bound : bindMember server member = .ok cols)
    (retried : mergeAndRetry server roster member s.toPullWork = .ok (stored, work)) :
    ∃ id duplicates, Taken server roster true member cols id duplicates s
      (noteStored s stored work) := by
  obtain ⟨_, merged, retried⟩ := bind_ok.mp retried
  obtain ⟨⟨⟨memberId, assessment⟩, u⟩, upserted, retried⟩ := bind_ok.mp retried
  cases pure_ok.mp retried
  obtain ⟨compares, rfl⟩ := (mergeDuplicates_ok bound).mp merged
  have fold := mergeDuplicates_folded table own
  obtain ⟨cols', _, bound', -, clear, -⟩ := upsertOne_ok fold.table upserted
  cases bound.symm.trans bound'
  have once : (s.db.mergeDuplicatesOf (some cols.email) cols.discordUserId roster).Nodup :=
    Database.nodup_mergeDuplicatesOf table
  refine ⟨memberId, s.db.mergeDuplicatesOf (some cols.email) cols.discordUserId roster, ?_⟩
  refine taken_of_folded bound ?_ (fun _ _ => compares) (fun d duplicate => ?_) once
    (fun _ => rfl) fold upserted
  · rintro ⟨row, present, clash, listed⟩
    obtain ⟨row, member, clash⟩ := (clash_after_fold fold).mpr ⟨row, present, clash, listed rfl⟩
    exact Bool.false_ne_true ((clear row member).symm.trans clash)
  · obtain ⟨present, -, absent⟩ := Database.mem_mergeDuplicatesOf.mp duplicate
    exact ⟨present, absent⟩

theorem mergeAndRetry_clash {cols : MemberColumns}
    (table : MembersTable work.db.members work.db.nextId) (own : cols.stId ∈ roster)
    (bound : bindMember server member = .ok cols) :
    mergeAndRetry server roster member work = .error .uniqueViolation ↔
      server.compares member.email = true ∧ Blocked roster true work.db cols := by
  have fold := mergeDuplicates_folded table own
  have blocked : Blocked roster true work.db cols ↔
      ∃ row ∈ work.db.members, cols.clashesWith row = true ∧ row.stId ∈ roster := by simp [Blocked]
  rw [blocked, ← clash_after_fold fold]
  constructor
  · intro retried
    cases merged : mergeDuplicates server roster member work.db with
    | error e =>
      rw [mergeAndRetry, merged] at retried
      cases retried
      have clean : mergeDuplicates server roster member work.db ≠ .error .uniqueViolation :=
        bind_ne_error (bind_ne_error (ensure_ne_error (by decide)) fun _ => bindJson_unclashing)
          fun _ => ok_ne_error
      exact absurd merged clean
    | ok folded =>
      obtain ⟨compares, rfl⟩ := (mergeDuplicates_ok bound).mp merged
      refine ⟨compares, ?_⟩
      by_contra clear
      rw [mergeAndRetry, merged, ok_bind] at retried
      refine absurd retried (bind_ne_error (fun clash => clear ?_) fun _ => ok_ne_error)
      obtain ⟨cols', bound', clash⟩ := upsertOne_clash.mp clash
      cases bound.symm.trans bound'
      exact clash
  · rintro ⟨compares, clash⟩
    rw [mergeAndRetry, (mergeDuplicates_ok bound).mpr ⟨compares, rfl⟩, ok_bind,
      upsertOne_clash.mpr ⟨cols, bound, clash⟩]
    rfl

/-- The turn of a member whose record clashes: folded and stored where merges are completed, skipped
otherwise. -/
theorem pullMember_clash (table : MembersTable s.db.members s.db.nextId)
    (own : member.stId ∈ roster)
    (tried : upsertOne server member s.toPullWork = .error .uniqueViolation)
    (pulled : pullMember server roster completeMerges s member = .ok t) :
    (∃ cols, Skipped server roster completeMerges member cols s.db ∧
      t = { s with skippedStIds := s.skippedStIds ++ [member.stId] }) ∨
    ∃ cols id duplicates, Taken server roster completeMerges member cols id duplicates s t := by
  rw [pullMember] at pulled
  obtain ⟨cols, bound, row, present, clash⟩ := upsertOne_clash.mp tried
  have own : cols.stId ∈ roster := (bindMember_ok bound).2.stId ▸ own
  cases completeMerges with
  | true =>
    have retry : storeMember server roster true member s.toPullWork =
        mergeAndRetry server roster member s.toPullWork := by
      rw [storeMember, tried, if_pos rfl]
    rw [retry] at pulled
    cases retried : mergeAndRetry server roster member s.toPullWork with
    | ok stored =>
      rw [retried] at pulled
      cases pulled
      exact Or.inr ⟨cols, mergeAndRetry_ok table own bound retried⟩
    | error failure =>
      rw [retried] at pulled
      cases failure with
      | uniqueViolation =>
        cases pulled
        obtain ⟨compares, blocked⟩ := (mergeAndRetry_clash table own bound).mp retried
        exact Or.inl ⟨cols, ⟨bound, blocked, fun _ => compares⟩, rfl⟩
      | _ => cases pulled
  | false =>
    have skip : storeMember server roster false member s.toPullWork = .error .uniqueViolation := by
      rw [storeMember, tried, if_neg Bool.false_ne_true]
    rw [skip] at pulled
    cases pulled
    have blocked : Blocked roster false s.db cols :=
      ⟨row, present, clash, fun merging => absurd merging (by decide)⟩
    exact Or.inl ⟨cols, ⟨bound, blocked, fun merging => absurd merging (by decide)⟩, rfl⟩

/-- A turn that ends well stores the member or finds it blocked. -/
theorem pullMember_cases (table : MembersTable s.db.members s.db.nextId)
    (own : member.stId ∈ roster)
    (pulled : pullMember server roster completeMerges s member = .ok t) :
    (∃ cols, Skipped server roster completeMerges member cols s.db ∧
      t = { s with skippedStIds := s.skippedStIds ++ [member.stId] }) ∨
    ∃ cols id duplicates, Taken server roster completeMerges member cols id duplicates s t := by
  cases tried : upsertOne server member s.toPullWork with
  | ok upserted =>
    have stored : storeMember server roster completeMerges member s.toPullWork =
        .ok (⟨upserted.1.1, upserted.1.2, []⟩, upserted.2) := by
      rw [storeMember, tried]
    rw [pullMember, stored] at pulled
    cases pulled
    obtain ⟨cols, _, bound, -, clear, -⟩ := upsertOne_ok table tried
    have none : ¬∃ row ∈ s.db.members, cols.clashesWith row = true := fun ⟨row, present, clash⟩ =>
      Bool.false_ne_true ((clear row present).symm.trans clash)
    have free : ¬Blocked roster completeMerges s.db cols :=
      fun ⟨row, present, clash, _⟩ => none ⟨row, present, clash⟩
    refine Or.inr ⟨cols, upserted.1.1, [], ?_⟩
    exact taken_of_folded bound free (fun _ clash => absurd clash none) (by simp) List.nodup_nil
      (absurd rfl)
      (Folded.refl table) tried
  | error error =>
    cases error with
    | uniqueViolation => exact pullMember_clash table own tried pulled
    | _ =>
      rw [pullMember, storeMember, tried] at pulled
      cases pulled

theorem pullMember_skip {cols : MemberColumns} (table : MembersTable s.db.members s.db.nextId)
    (own : member.stId ∈ roster) (skipped : Skipped server roster completeMerges member cols s.db) :
    pullMember server roster completeMerges s member =
      .ok { s with skippedStIds := s.skippedStIds ++ [member.stId] } := by
  obtain ⟨bound, ⟨row, present, clash, listed⟩, compared⟩ := skipped
  have tried : upsertOne server member s.toPullWork = .error .uniqueViolation :=
    upsertOne_clash.mpr ⟨cols, bound, row, present, clash⟩
  have stored : storeMember server roster completeMerges member s.toPullWork =
      .error .uniqueViolation := by
    rw [storeMember, tried]
    cases completeMerges with
    | true =>
      have retried := (mergeAndRetry_clash table ((bindMember_ok bound).2.stId ▸ own) bound).mpr
        ⟨compared rfl, row, present, clash, listed⟩
      exact retried
    | false => rfl
  rw [pullMember, stored]

end

end Rosadmin
