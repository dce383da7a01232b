import Mathlib.Data.List.Permutation
import Rosadmin.Roster.Concurrent

/-!
# When two pulls meet

A pull that has waited while another committed is refused, and tried again, only
if it writes a row that the other has written. Whether it does can be read off
the two rosters and the tables both have seen: a record that both store, a
member one lapses and the other has, a body both of them bring.
-/

namespace Rosadmin
open Foundation

/-! ### What the turns over a snapshot leave -/

/-- What turns over `members` make of the tables they find. -/
structure Turned (server : Server) (roster : List Int) (members : List Member) (s t : PullState) :
    Prop where
  table : MembersTable t.db.members t.db.nextId
  traced : ∀ row ∈ t.db.members, row ∈ s.db.members ∨
    (row.id ∈ t.presentMemberIds ∧ ∃ member ∈ members, member.RecordedAs server row.toMemberColumns)
  kept : ∀ row ∈ s.db.members, row.stId ∈ roster →
    ∃ now ∈ t.db.members, now.id = row.id ∧ now.stId = row.stId
  present : s.presentMemberIds ⊆ t.presentMemberIds
  grown : s.db.nextId ≤ t.db.nextId
  known : ∀ leadership id, s.bodyIds.get? leadership = some id → t.bodyIds.get? leadership = some id
  bodies : KnownBodies server s.toPullWork → KnownBodies server t.toPullWork

section
variable {server : Server} {hidden : List MembersRow} {roster : List Int} {completeMerges : Bool}
  {members : List Member} {member : Member} {s t u : PullState}

theorem seeMember_cases (table : MembersTable s.db.members s.db.nextId) (own : member.stId ∈ roster)
    (seen : seeMember server hidden roster completeMerges s member = .ok t) :
    (t = { s with skippedStIds := s.skippedStIds ++ [member.stId] } ∧
      (hiddenClash server hidden member = true ∨
        ∃ cols, Skipped server roster completeMerges member cols s.db)) ∨
    ∃ cols id duplicates, Taken server roster completeMerges member cols id duplicates s t := by
  rw [seeMember] at seen
  split at seen
  · rename_i clash
    cases seen
    exact Or.inl ⟨rfl, Or.inl clash⟩
  · rcases pullMember_cases table own seen with ⟨cols, skipped, rfl⟩ | taken
    · exact Or.inl ⟨rfl, Or.inr ⟨cols, skipped⟩⟩
    · exact Or.inr taken

theorem Turned.refl (table : MembersTable s.db.members s.db.nextId) :
    Turned server roster members s s where
  table := table
  traced := fun _ present => Or.inl present
  kept := fun row present _ => ⟨row, present, rfl, rfl⟩
  present := List.Subset.refl _
  grown := le_refl _
  known := fun _ _ found => found
  bodies := id

theorem Turned.step (turned : Turned server roster members s t) (listed : member ∈ members)
    (own : member.stId ∈ roster)
    (seen : seeMember server hidden roster completeMerges t member = .ok u) :
    Turned server roster members s u := by
  rcases seeMember_cases turned.table own seen with ⟨rfl, -⟩ | ⟨cols, id, duplicates, taken⟩
  · exact ⟨turned.table, turned.traced, turned.kept, turned.present, turned.grown, turned.known,
      turned.bodies⟩
  have noted : t.presentMemberIds ⊆ u.presentMemberIds := by
    rw [taken.present]
    exact List.subset_append_left _ _
  refine { table := taken.table, traced := fun row there => ?_, kept := fun row before named => ?_,
           present := List.Subset.trans turned.present noted,
           grown := turned.grown.trans taken.grown,
           known := fun l i found => taken.known l i (turned.known l i found),
           bodies := taken.bodies ∘ turned.bodies }
  · rcases (taken.rows row).mp there with rfl | ⟨before, -⟩
    · refine Or.inr ⟨?_, member, listed, (bindMember_ok taken.bound).2⟩
      rw [taken.present]
      exact List.mem_append_right _ List.mem_cons_self
    · exact (turned.traced row before).imp_right (And.imp_left (noted ·))
  · obtain ⟨now, there, ids, stIds⟩ := turned.kept row before named
    by_cases mine : now.stId = member.stId
    · refine ⟨⟨cols, id⟩, taken.written, (taken.own now there mine).symm.trans ids, ?_⟩
      exact (bindMember_ok taken.bound).2.stId.trans (mine.symm.trans stIds)
    · exact ⟨now, taken.kept there (stIds ▸ named) mine, ids, stIds⟩

theorem turned_of_run (table : MembersTable s.db.members s.db.nextId)
    (own : ∀ member ∈ members, member.stId ∈ roster)
    (run : members.foldlM (seeMember server hidden roster completeMerges) s = .ok t) :
    Turned server roster members s t :=
  foldlM_keeps (fun member listed _ _ turned => turned.step listed (own member listed))
    (Turned.refl table) run

/-- The turn of one member, between those before and those after it. -/
theorem turned_at (table : MembersTable s.db.members s.db.nextId)
    (own : ∀ member ∈ members, member.stId ∈ roster) (listed : member ∈ members)
    (run : members.foldlM (seeMember server hidden roster completeMerges) s = .ok t) :
    ∃ before after, Turned server roster members s before ∧
      seeMember server hidden roster completeMerges before member = .ok after ∧
      Turned server roster members after t := by
  obtain ⟨done, rest, rfl⟩ := List.append_of_mem listed
  obtain ⟨before, early, run⟩ := foldlM_append_ok.mp run
  obtain ⟨after, turn, late⟩ := foldlM_cons_ok.mp run
  have widen : ∀ {part : List Member} {a b : PullState}, part ⊆ done ++ member :: rest →
      Turned server roster part a b → Turned server roster (done ++ member :: rest) a b := by
    intro part a b among turned
    refine { turned with traced := fun row there => (turned.traced row there).imp_right ?_ }
    exact And.imp_right fun ⟨other, here, holds⟩ => ⟨other, among here, holds⟩
  have first := turned_of_run table (fun m here => own m (List.mem_append_left _ here)) early
  have mine : Turned server roster [member] before after :=
    (Turned.refl first.table).step List.mem_cons_self (own member listed) turn
  refine ⟨before, after, widen (List.subset_append_left _ _) first, turn, ?_⟩
  have last := turned_of_run mine.table (fun m here => own m (by simp [here])) late
  exact widen (fun m here => by simp [here]) last

/-- The record is there as it is, or nothing that a pull would leave alone holds its email or its
Discord id: no row, and no other record of the roster. -/
def Unhindered (server : Server) (roster : List Int) (completeMerges : Bool) (members : List Member)
    (db : Database) (member : Member) : Prop :=
  member.StoredIn server db ∨ ∃ cols, bindMember server member = .ok cols ∧
    ¬Blocked roster completeMerges db cols ∧ ∀ other ∈ members, ∀ row : MembersRow,
      other.RecordedAs server row.toMemberColumns → cols.clashesWith row = false

/-- A record that is not hindered has been stored: if not in its own turn, in that of a copy. -/
theorem written_of_unhindered (table : MembersTable s.db.members s.db.nextId)
    (own : ∀ member ∈ members, member.stId ∈ roster) (listed : member ∈ members)
    (run : members.foldlM (seeMember server hidden roster completeMerges) s = .ok t)
    (unhidden : hiddenClash server hidden member = false)
    (free : Unhindered server roster completeMerges members s.db member) :
    ∃ row ∈ t.db.members, row.stId = member.stId ∧ row.id ∈ t.presentMemberIds := by
  obtain ⟨before, after, early, turn, late⟩ := turned_at table own listed run
  suffices stored : ∃ row ∈ after.db.members, row.stId = member.stId ∧
      row.id ∈ after.presentMemberIds by
    obtain ⟨row, there, stId, present⟩ := stored
    obtain ⟨now, still, ids, stIds⟩ := late.kept row there (stId ▸ own member listed)
    exact ⟨now, still, stIds.trans stId, ids ▸ late.present present⟩
  rcases seeMember_cases early.table (own member listed) turn with
    ⟨rfl, skipped⟩ | ⟨cols, id, duplicates, taken⟩
  · obtain ⟨cols, skipped⟩ := skipped.resolve_left (by simp [unhidden])
    rcases free with ⟨row, present, holds⟩ | ⟨cols', bound, unblocked, apart⟩
    · have rostered : row.stId ∈ roster := holds.stId ▸ own member listed
      obtain ⟨now, there, ids, stIds⟩ := early.kept row present rostered
      refine ⟨now, there, stIds.trans holds.stId, ?_⟩
      rcases early.traced now there with old | ⟨noted, -⟩
      · cases table.row_of_id old present ids
        exact absurd holds (skipped.unrecorded early.table there)
      · exact noted
    · cases bound.symm.trans skipped.bound
      obtain ⟨row, there, clash, named⟩ := skipped.blocked
      rcases early.traced row there with old | ⟨-, other, here, holds⟩
      · exact absurd ⟨row, old, clash, named⟩ unblocked
      · cases clash.symm.trans (apart other here row holds)
  · refine ⟨_, taken.written, (bindMember_ok taken.bound).2.stId, ?_⟩
    rw [taken.present]
    exact List.mem_append_right _ List.mem_cons_self

/-- A row off the roster is none that the upsert of a record writes. -/
theorem upsertOne_spares {row : MembersRow} {work : PullWork}
    {result : (UUID × LeadershipAssessment) × PullWork}
    (table : MembersTable work.db.members work.db.nextId) (own : member.stId ∈ roster)
    (gone : row.stId ∉ roster) (present : row ∈ work.db.members)
    (upserted : upsertOne server member work = .ok result) : row ∈ result.2.db.members := by
  obtain ⟨⟨id, assessment⟩, after⟩ := result
  obtain ⟨cols, stored, bound, -, -, wrote, paired⟩ := upsertOne_ok table upserted
  have members : after.db.members = stored.members := paired.members
  have stId : cols.stId ∈ roster := (bindMember_ok bound).2.stId ▸ own
  rw [members]
  exact (wrote.rows row).mpr (Or.inr ⟨present, fun same => gone (same ▸ stId)⟩)

/-- A row off the roster outlives a turn, unless it is a duplicate that the turn folds. -/
theorem pullMember_spares {row : MembersRow} (table : MembersTable s.db.members s.db.nextId)
    (own : member.stId ∈ roster) (gone : row.stId ∉ roster) (present : row ∈ s.db.members)
    (unheld : completeMerges = true → ∀ cols, bindMember server member = .ok cols →
      row.holds (some cols.email) cols.discordUserId = false)
    (turn : pullMember server roster completeMerges s member = .ok t) : row ∈ t.db.members := by
  cases stored : storeMember server roster completeMerges member s.toPullWork with
  | error error =>
    rw [pullMember, stored] at turn
    cases error with
    | uniqueViolation => cases turn; exact present
    | _ => cases turn
  | ok result =>
    rw [pullMember, stored] at turn
    cases turn
    rw [storeMember] at stored
    cases tried : upsertOne server member s.toPullWork with
    | ok upserted =>
      rw [tried] at stored
      cases stored
      exact upsertOne_spares table own gone present tried
    | error error =>
      rw [tried] at stored
      cases error with
      | uniqueViolation =>
        cases completeMerges with
        | false => cases stored
        | true =>
          obtain ⟨cols, bound, -⟩ := upsertOne_clash.mp tried
          have named : cols.stId ∈ roster := (bindMember_ok bound).2.stId ▸ own
          obtain ⟨merged, folding, retried⟩ := bind_ok.mp stored
          obtain ⟨upserted, again, retried⟩ := bind_ok.mp retried
          cases pure_ok.mp retried
          obtain ⟨-, rfl⟩ := (mergeDuplicates_ok bound).mp folding
          have folded := mergeDuplicates_folded table named
          refine upsertOne_spares folded.table own gone ?_ again
          refine (folded.others row ?_).mpr ⟨present, fun duplicate => ?_⟩
          · exact fun same => gone (same ▸ named)
          · have holds := (Database.mem_mergeDuplicatesOf.mp duplicate).2.1
            exact Bool.false_ne_true ((unheld rfl cols bound).symm.trans holds)
      | _ => cases stored

theorem spared_of_run {row : MembersRow} (table : MembersTable s.db.members s.db.nextId)
    (own : ∀ member ∈ members, member.stId ∈ roster) (gone : row.stId ∉ roster)
    (present : row ∈ s.db.members)
    (unheld : completeMerges = true → ∀ member ∈ members, ∀ cols,
      bindMember server member = .ok cols → row.holds (some cols.email) cols.discordUserId = false)
    (run : members.foldlM (seeMember server hidden roster completeMerges) s = .ok t) :
    row ∈ t.db.members := by
  suffices step : ∀ member ∈ members, ∀ t u,
      Turned server roster members s t ∧ row ∈ t.db.members →
      seeMember server hidden roster completeMerges t member = .ok u →
      Turned server roster members s u ∧ row ∈ u.db.members from
    (foldlM_keeps step ⟨Turned.refl table, present⟩ run).2
  intro member listed t u ⟨turned, there⟩ seen
  refine ⟨turned.step listed (own member listed) seen, ?_⟩
  rw [seeMember] at seen
  split at seen
  · cases seen
    exact there
  · exact pullMember_spares turned.table (own member listed) gone there
      (fun merging => unheld merging member listed) seen

/-- A record that clashes with nothing brings the bodies it leads. -/
theorem bodies_of_clear {cols : MemberColumns} (table : MembersTable s.db.members s.db.nextId)
    (known : KnownBodies server s.toPullWork)
    (own : ∀ member ∈ members, member.stId ∈ roster) (listed : member ∈ members)
    (run : members.foldlM (seeMember server hidden roster completeMerges) s = .ok t)
    (unhidden : hiddenClash server hidden member = false)
    (bound : bindMember server member = .ok cols)
    (clear : ∀ row ∈ s.db.members, cols.clashesWith row = false)
    (apart : ∀ other ∈ members, ∀ row : MembersRow, other.RecordedAs server row.toMemberColumns →
      cols.clashesWith row = false) :
    ∀ leadership ∈ member.leads, HasBody t.db leadership := by
  intro leadership led
  obtain ⟨before, after, early, turn, late⟩ := turned_at table own listed run
  rcases seeMember_cases early.table (own member listed) turn with
    ⟨rfl, skipped⟩ | ⟨cols', id, duplicates, taken⟩
  · obtain ⟨cols', skipped⟩ := skipped.resolve_left (by simp [unhidden])
    cases bound.symm.trans skipped.bound
    obtain ⟨row, there, clash, -⟩ := skipped.blocked
    rcases early.traced row there with old | ⟨-, other, here, holds⟩
    · cases clash.symm.trans (clear row old)
    · cases clash.symm.trans (apart other here row holds)
  · obtain ⟨bodyId, found⟩ := taken.found leadership led
    have stored := (late.bodies (taken.bodies (early.bodies known))).row leadership bodyId
      (late.known leadership bodyId found)
    obtain ⟨body, there, -, named⟩ := stored
    exact ⟨body, there, named⟩

end

/-! ### Where two pulls meet -/

abbrev Pull.stIds (pull : Pull) : List Int := pull.members.map (·.stId)

section
variable (server : Server) (db : Database)

/-- The member is one that the pull lapses: its fuse holds, and the member is off its roster. -/
def Pull.LapsesRow (pull : Pull) (row : MembersRow) : Prop :=
  lapseFuseTrips db pull.stIds = false ∧ Database.lapses pull.stIds row = true

def Pull.Stores (pull : Pull) (member : Member) : Prop :=
  member ∈ pull.members ∧ Unhindered server pull.stIds
    (completesMerges pull.dryRun pull.stIds db) pull.members db member

/-- The record is on the roster, and nobody else in the tables or on either roster has its email
or its Discord id. -/
def Pull.Brings (pull other : Pull) (member : Member) : Prop :=
  member ∈ pull.members ∧ ∃ cols, bindMember server member = .ok cols ∧
    (∀ row ∈ db.members, cols.clashesWith row = false) ∧
    ∀ m ∈ pull.members ++ other.members, ∀ row : MembersRow,
      m.RecordedAs server row.toMemberColumns → cols.clashesWith row = false

/-- The pull that waits, `second`, writes what `first` has written over the same tables. -/
inductive Meets (first second : Pull) : Prop
  /-- A record that the first stores is on the second's roster. -/
  | shared (member : Member) (stored : first.Stores server db member)
      (rostered : member.stId ∈ second.stIds)
  /-- The first lapses a member on the second's roster, and does not merge the row away. -/
  | lapsed (row : MembersRow) (present : row ∈ db.members) (lapsed : first.LapsesRow db row)
      (unmerged : first.dryRun = true ∨ ∀ member ∈ first.members, ∀ cols,
        bindMember server member = .ok cols →
        row.holds (some cols.email) cols.discordUserId = false)
      (rostered : row.stId ∈ second.stIds)
  /-- The second lapses a member that the first lapses too, or stores. -/
  | lapses (row : MembersRow) (present : row ∈ db.members) (lapses : second.LapsesRow db row)
      (written : first.LapsesRow db row ∨
        ∃ member, first.Stores server db member ∧ member.stId = row.stId)
  /-- Both bring a body that is not there yet. -/
  | body (leadership : Leadership) (absent : ¬HasBody db leadership) (one other : Member)
      (ones : first.Brings server db second one) (others : second.Brings server db first other)
      (led : leadership ∈ one.leads) (ledToo : leadership ∈ other.leads)

end

/-! ### What meets collides -/

section
variable {server : Server} {v : Sight} {pull : Pull} {b : PullBody} {db : Database}
  {member : Member}

theorem pullSeeing_ok (body : pullSeeing server v pull = .ok b) : ∃ s refused,
    pull.members.foldlM (seeMember server v.hidden pull.stIds
      (completesMerges pull.dryRun pull.stIds v.snapshot)) (.start v.visible) = .ok s ∧
    closePull (lapseFuseTrips v.snapshot pull.stIds) refused pull.stIds s =
      .ok (b.report, b.after) ∧
    b.stored = s.presentMemberIds ∧ b.pairs = s.pairs := by
  obtain ⟨roster, bound, body⟩ := bind_ok.mp body
  obtain ⟨-, rfl⟩ := bindRoster_ok.mp bound
  obtain ⟨s, run, body⟩ := bind_ok.mp body
  obtain ⟨⟨report, after⟩, closed, body⟩ := bind_ok.mp body
  cases pure_ok.mp body
  exact ⟨s, _, run, closed, rfl, rfl⟩

theorem knownBodies_start (bodies : LeadershipBodiesTable db.leadershipBodies db.nextId) :
    KnownBodies server (PullState.start db).toPullWork := by
  refine ⟨bodies.ids, bodies.fresh, ?_, ?_⟩
  · rintro leadership id ⟨⟩
  · rintro leadership ⟨⟩

theorem closeRow_clash {cols : MemberColumns} {fuseTripped : Bool} {roster : List Int}
    {row : MembersRow} :
    cols.clashesWith (closeRow fuseTripped roster row) = cols.clashesWith row := by
  rw [closeRow]
  split <;> rfl

theorem body_changed {before after : Database} {leadership : Leadership}
    (absent : ¬HasBody before leadership) (there : HasBody after leadership) :
    (leadership.name, leadership.bodyType.value) ∈
      (changedRows before.leadershipBodies after.leadershipBodies).map
        (fun body => (body.name, body.bodyType)) := by
  obtain ⟨body, present, name, bodyType⟩ := there
  refine List.mem_map.mpr ⟨body, List.mem_append_right _ (List.mem_filter.mpr ⟨present, ?_⟩), ?_⟩
  · exact decide_eq_true fun old => absent ⟨body, old, name, bodyType⟩
  · rw [name, bodyType]

/-! #### The pull that has committed -/

section
variable (keyed : db.Keyed) (ran : pullSeeing server ⟨db, db, written []⟩ pull = .ok b)
include keyed ran

theorem committed_turns : ∃ s refused, Turned server pull.stIds pull.members (.start db) s ∧
    pull.members.foldlM (seeMember server [] pull.stIds
      (completesMerges pull.dryRun pull.stIds db)) (.start db) = .ok s ∧
    closePull (lapseFuseTrips db pull.stIds) refused pull.stIds s = .ok (b.report, b.after) ∧
    b.stored = s.presentMemberIds := by
  obtain ⟨s, refused, run, closed, stored, -⟩ := pullSeeing_ok ran
  rw [Sight.visible_alone, Sight.hidden_alone] at run
  have turned := turned_of_run keyed.members (fun _ => List.mem_map_of_mem) run
  exact ⟨s, refused, turned, run, closed, stored⟩

theorem stored_written (stores : pull.Stores server db member) :
    ∃ row ∈ b.after.members, row.stId = member.stId ∧ row.id ∈ (b.footprint db).members ∧
      ∀ old ∈ db.members, old.stId = member.stId → old.id = row.id := by
  obtain ⟨listed, free⟩ := stores
  obtain ⟨s, refused, turned, run, closed, stored⟩ := committed_turns keyed ran
  have unhidden : hiddenClash server [] member = false := by
    rw [hiddenClash]
    split <;> rfl
  obtain ⟨row, there, stId, noted⟩ := written_of_unhindered keyed.members
    (fun _ => List.mem_map_of_mem) listed run unhidden free
  have rostered : row.stId ∈ pull.stIds := stId ▸ List.mem_map_of_mem listed
  refine ⟨row, ((closePull_ok closed).mem_rostered rostered).mpr there, stId, ?_, ?_⟩
  · exact List.mem_append_left _ (stored ▸ noted)
  · intro old present same
    obtain ⟨now, still, ids, stIds⟩ := turned.kept old present (same ▸ List.mem_map_of_mem listed)
    cases turned.table.row_of_stId still there (stIds.trans (same.trans stId.symm))
    exact ids.symm

variable {row : MembersRow} (present : row ∈ db.members) (lapsed : pull.LapsesRow db row)
include present lapsed

theorem lapsed_written : row.id ∈ (b.footprint db).members := by
  obtain ⟨s, refused, -, -, closed, -⟩ := committed_turns keyed ran
  refine List.mem_append_right _ (List.mem_map_of_mem (List.mem_append_left _ ?_))
  refine List.mem_filter.mpr ⟨present, decide_eq_true fun still => ?_⟩
  rw [(closePull_ok closed).members] at still
  obtain ⟨old, -, same⟩ := List.mem_map.mp still
  have again : closeRow (lapseFuseTrips db pull.stIds) pull.stIds row = row := by
    rw [← same, closeRow_again]
  have once : closeRow (lapseFuseTrips db pull.stIds) pull.stIds row =
      { row with standing := .lapsed } := if_pos lapsed
  have standing : row.standing = .lapsed := congrArg (·.standing) (again.symm.trans once)
  have good := of_decide_eq_true ((Bool.and_eq_true _ _).mp lapsed.2).1
  cases standing.symm.trans good

theorem lapsed_there (unmerged : pull.dryRun = true ∨ ∀ member ∈ pull.members, ∀ cols,
      bindMember server member = .ok cols →
      row.holds (some cols.email) cols.discordUserId = false) :
    ∃ now ∈ b.after.members, now.id = row.id ∧ now.stId = row.stId := by
  obtain ⟨s, refused, -, run, closed, -⟩ := committed_turns keyed ran
  have gone : row.stId ∉ pull.stIds :=
    of_decide_eq_true ((Bool.and_eq_true _ _).mp lapsed.2).2
  have unheld : completesMerges pull.dryRun pull.stIds db = true → ∀ member ∈ pull.members, ∀ cols,
      bindMember server member = .ok cols →
      row.holds (some cols.email) cols.discordUserId = false := by
    intro merging
    refine unmerged.resolve_left fun dry => ?_
    rw [completesMerges, dry] at merging
    cases merging
  have there := spared_of_run keyed.members (fun _ => List.mem_map_of_mem) gone present unheld run
  rw [(closePull_ok closed).members]
  exact ⟨_, List.mem_map_of_mem there, closeRow_keys⟩

end

theorem committed_clear (keyed : db.Keyed)
    (ran : pullSeeing server ⟨db, db, written []⟩ pull = .ok b) {cols : MemberColumns}
    (clear : ∀ row ∈ db.members, cols.clashesWith row = false)
    (apart : ∀ m ∈ pull.members, ∀ row : MembersRow, m.RecordedAs server row.toMemberColumns →
      cols.clashesWith row = false) :
    ∀ row ∈ b.after.members, cols.clashesWith row = false := by
  obtain ⟨s, refused, turned, -, closed, -⟩ := committed_turns keyed ran
  intro row there
  rw [(closePull_ok closed).members] at there
  obtain ⟨old, before, rfl⟩ := List.mem_map.mp there
  rw [closeRow_clash]
  rcases turned.traced old before with here | ⟨-, m, listed, holds⟩
  · exact clear old here
  · exact apart m listed old holds

/-- The bodies a record brings are among those that its pull writes. -/
theorem brought_seen {leadership : Leadership} {cols : MemberColumns} {seen : Database}
    (visible : v.visible = seen) (table : MembersTable seen.members seen.nextId)
    (bodies : LeadershipBodiesTable seen.leadershipBodies seen.nextId)
    (ends : pullSeeing server v pull = .ok b) (absent : ¬HasBody seen leadership)
    (listed : member ∈ pull.members) (led : leadership ∈ member.leads)
    (bound : bindMember server member = .ok cols)
    (unhidden : hiddenClash server v.hidden member = false)
    (clear : ∀ row ∈ seen.members, cols.clashesWith row = false)
    (apart : ∀ m ∈ pull.members, ∀ row : MembersRow, m.RecordedAs server row.toMemberColumns →
      cols.clashesWith row = false) :
    (leadership.name, leadership.bodyType.value) ∈ (b.footprint seen).bodies := by
  subst visible
  obtain ⟨s, refused, run, closed, -, -⟩ := pullSeeing_ok ends
  refine body_changed absent ?_
  rw [HasBody, (closePull_ok closed).bodies]
  exact bodies_of_clear table (knownBodies_start bodies) (fun _ => List.mem_map_of_mem) listed run
    unhidden bound clear apart leadership led

theorem brought_written {leadership : Leadership} {other : Pull} (keyed : db.Keyed)
    (ran : pullSeeing server ⟨db, db, written []⟩ pull = .ok b) (absent : ¬HasBody db leadership)
    (brings : pull.Brings server db other member) (led : leadership ∈ member.leads) :
    (leadership.name, leadership.bodyType.value) ∈ (b.footprint db).bodies := by
  obtain ⟨listed, cols, bound, clear, apart⟩ := brings
  have unhidden : hiddenClash server (Sight.hidden ⟨db, db, written []⟩) member = false := by
    rw [Sight.hidden_alone, hiddenClash, bound]
    rfl
  exact brought_seen (Sight.visible_alone db) keyed.members keyed.bodies ran absent listed led bound
    unhidden clear (fun m here => apart m (List.mem_append_left _ here))

/-- Nothing that was written since hinders the record either. -/
theorem brought_waiting {leadership : Leadership} {other : Pull} {waited : PullBody}
    (keyed : db.Keyed) (ran : pullSeeing server ⟨db, db, written []⟩ other = .ok b)
    (ends : pullSeeing server ⟨db, b.after, written [b.footprint db]⟩ pull = .ok waited)
    (absent : ¬HasBody db leadership) (brings : pull.Brings server db other member)
    (led : leadership ∈ member.leads) :
    (leadership.name, leadership.bodyType.value) ∈
      (waited.footprint (Sight.visible ⟨db, b.after, written [b.footprint db]⟩)).bodies := by
  obtain ⟨listed, cols, bound, clear, apart⟩ := brings
  obtain ⟨s, refused, turned, -, closed, -⟩ := committed_turns keyed ran
  have grown : db.nextId ≤ b.after.nextId := (closePull_frame closed).1 ▸ turned.grown
  have unhidden : hiddenClash server
      (Sight.hidden ⟨db, b.after, written [b.footprint db]⟩) member = false := by
    rw [hiddenClash, bound]
    refine List.any_eq_false.mpr fun row here => ?_
    have free := committed_clear keyed ran clear
      (fun m there => apart m (List.mem_append_right _ there)) row (List.mem_of_mem_filter here)
    rw [free]
    exact Bool.false_ne_true
  have kept := keyed.members.filter fun row => decide (row.id ∉ (b.footprint db).members)
  exact brought_seen rfl
    { kept with fresh := fun row here => lt_of_lt_of_le (kept.fresh row here) grown }
    (keyed.bodies.grow grown) ends absent listed led bound unhidden
    (fun row here => clear row (List.mem_of_mem_filter here))
    (fun m here => apart m (List.mem_append_left _ here))

/-! #### The pull that has waited -/

/-- A member on the waiting pull's roster was written since. -/
theorem collides_of_rostered {row : MembersRow} (there : row ∈ v.hidden)
    (rostered : row.stId ∈ pull.stIds) : v.collides server pull b = true := by
  have meets : v.hidden.any (·.stId ∈ pull.members.map (·.stId)) = true :=
    List.any_eq_true.mpr ⟨row, there, decide_eq_true rostered⟩
  simp only [Sight.collides, meets, Bool.true_or]

/-- A member the waiting pull lapses was written since. -/
theorem collides_of_lapses {row : MembersRow} (there : row ∈ v.stale)
    (lapses : pull.LapsesRow v.snapshot row) : v.collides server pull b = true := by
  have meets : v.stale.any (Database.lapses (pull.members.map (·.stId))) = true :=
    List.any_eq_true.mpr ⟨row, there, lapses.2⟩
  simp only [Sight.collides, lapses.1, meets, Bool.not_false, Bool.true_and, Bool.or_true,
    Bool.true_or]

theorem collides_of_body {key : Str × Str} (since : key ∈ v.since.bodies)
    (wrote : key ∈ (b.footprint v.visible).bodies) : v.collides server pull b = true := by
  have meets : (b.footprint v.visible).bodies.any (v.since.bodies.contains ·) = true :=
    List.any_eq_true.mpr ⟨key, wrote, List.contains_iff_mem.mpr since⟩
  simp only [Sight.collides, meets, Bool.or_true, Bool.true_or]

theorem written_one (footprint : Footprint) : written [footprint] = footprint := rfl

/-- A pull that has waited while another it meets committed collides with what that has written. -/
theorem collides_of_meets {first second : Pull} {waited : PullBody} (keyed : db.Keyed)
    (ran : pullSeeing server ⟨db, db, written []⟩ first = .ok b)
    (ends : pullSeeing server ⟨db, b.after, written [b.footprint db]⟩ second = .ok waited)
    (meets : Meets server db first second) :
    Sight.collides server ⟨db, b.after, written [b.footprint db]⟩ second waited = true := by
  cases meets with
  | shared member stored rostered =>
    obtain ⟨row, there, stId, wrote, -⟩ := stored_written keyed ran stored
    refine collides_of_rostered (List.mem_filter.mpr ⟨there, ?_⟩) (stId ▸ rostered)
    rw [written_one]
    exact decide_eq_true wrote
  | lapsed row present lapsed unmerged rostered =>
    obtain ⟨now, there, ids, stIds⟩ := lapsed_there keyed ran present lapsed unmerged
    refine collides_of_rostered (List.mem_filter.mpr ⟨there, ?_⟩) (stIds ▸ rostered)
    rw [written_one, ids]
    exact decide_eq_true (lapsed_written keyed ran present lapsed)
  | lapses row present lapses written =>
    refine collides_of_lapses (List.mem_filter.mpr ⟨present, ?_⟩) lapses
    rw [written_one]
    rcases written with lapsed | ⟨member, stored, same⟩
    · exact decide_eq_true (lapsed_written keyed ran present lapsed)
    · obtain ⟨now, -, -, wrote, own⟩ := stored_written keyed ran stored
      exact decide_eq_true (own row present same.symm ▸ wrote)
  | body leadership absent one other ones others led ledToo =>
    exact collides_of_body (brought_written keyed ran absent ones led)
      (brought_waiting keyed ran ends absent others ledToo)

end

/-! ### Two pulls at once -/

/-- A pull that comes to the end of its body with an old snapshot meets the other pull there. -/
def MeetsOther (server : Server) (calls : Bool → Pull) (s : Concurrent Bool Database Footprint) :
    TurnEvent Bool → Prop
  | .finish i => ∀ tries snapshot seen, s.calls i = .waiting tries snapshot seen →
      seen < s.log.length → Meets server snapshot (calls !i) (calls i)
  | _ => True

section
variable {server : Server} {calls : Bool → Pull} {s : Concurrent Bool Database Footprint}

theorem pull_commits {ι : Type} {calls : ι → Pull} {i : ι} {db after : Database}
    {footprint : Footprint}
    (commits : (pullTransactions server calls).body i db [] db = .commit after footprint) :
    ∃ b, pullSeeing server ⟨db, db, written []⟩ (calls i) = .ok b ∧ after = b.after ∧
      footprint = b.footprint db := by
  simp only [pullTransactions, Sight.visible_alone] at commits
  cases ran : pullSeeing server ⟨db, db, written []⟩ (calls i) with
  | error e =>
    rw [ran] at commits
    cases commits
  | ok b =>
    rw [ran] at commits
    cases commits
    exact ⟨b, rfl, rfl, rfl⟩

theorem pull_keyed {ι : Type} (calls : ι → Pull) (i : ι) (db after : Database)
    (footprint : Footprint) (keyed : db.Keyed)
    (commits : (pullTransactions server calls).body i db [] db = .commit after footprint) :
    after.Keyed := by
  obtain ⟨b, ran, rfl, -⟩ := pull_commits commits
  have pulled : _ = pullIn server (calls i).members (calls i).dryRun db :=
    pullSeeing_alone (calls i) db
  rw [ran] at pulled
  exact keyed_of_pull keyed pulled.symm

/-- Of two calls, one that waits with an old snapshot has missed the other and nothing else. -/
theorem other_missed {t : Transactions Bool Database Footprint} {held : Database → Prop}
    (trails : t.Trails held s) {i : Bool} {tries : Nat} {snapshot : Database} {seen : Nat}
    (waiting : s.calls i = .waiting tries snapshot seen) (old : seen < s.log.length) :
    held snapshot ∧ ∃ footprint, s.log.drop seen = [footprint] ∧
      t.body (!i) snapshot [] snapshot = .commit s.state footprint := by
  obtain ⟨-, here, order, once, returned, replays⟩ := trails.missed i tries snapshot seen waiting
  refine ⟨here, ?_⟩
  suffices other : order = [!i] by
    subst other
    exact replays.one_missed
  have length : order.length = s.log.length - seen := replays.length.trans List.length_drop
  have only : ∀ j ∈ order, j = !i := by
    intro j there
    cases Bool.eq_or_eq_not j i with
    | inl same =>
      have done := returned j there
      rw [same, waiting] at done
      cases done
    | inr different => exact different
  cases order with
  | nil =>
    simp only [List.length_nil] at length
    omega
  | cons j rest =>
    cases only j List.mem_cons_self
    cases rest with
    | nil => rfl
    | cons k rest =>
      cases only k (List.mem_cons_of_mem _ List.mem_cons_self)
      exact absurd List.mem_cons_self (List.nodup_cons.mp once).1

/-- A pull with an old snapshot that meets the other is refused. -/
theorem fresh_of_meets (e : TurnEvent Bool)
    (trails : (pullTransactions server calls).Trails Database.Keyed s)
    (met : MeetsOther server calls s e) : (pullTransactions server calls).FreshCommits s e := by
  cases e with
  | take i => trivial
  | refuse i => trivial
  | finish i =>
    intro tries snapshot seen waiting old after footprint commits
    obtain ⟨keyed, missed, since, other⟩ := other_missed trails waiting old
    obtain ⟨b, ran, state, rfl⟩ := pull_commits other
    rw [since, state] at commits
    simp only [pullTransactions] at commits
    cases ends : pullSeeing server ⟨snapshot, b.after, written [b.footprint snapshot]⟩
        (calls i) with
    | error e =>
      rw [ends] at commits
      cases commits
    | ok waited =>
      have collides := collides_of_meets keyed ran ends (met tries snapshot seen waiting old)
      simp only [ends, collides, List.isEmpty_cons, Bool.false_eq_true, if_false,
        if_true] at commits
      cases commits

theorem fresh_run {db : Database} {events : List (TurnEvent Bool)} (valid : db.Valid)
    (met : Guarded (pullTransactions server calls).step (MeetsOther server calls) (.start db)
      events) :
    Guarded (pullTransactions server calls).step (pullTransactions server calls).FreshCommits
      (.start db) events := by
  have begun : (pullTransactions server calls).Trails Database.Keyed (.start db) :=
    Transactions.trails_start valid.keyed
  exact guarded_of_invariant (fun _ => fresh_of_meets)
    (fun _ => Transactions.step_trails (pull_keyed calls)) begun met

theorem nodup_two {order : List Bool} (once : order.Nodup) (both : ∀ i, i ∈ order) :
    order = [false, true] ∨ order = [true, false] := by
  have perm : order.Perm [false, true] := by
    rw [List.perm_ext_iff_of_nodup once (by decide)]
    intro i
    cases i <;> simp [both]
  rcases List.perm_pair.mp perm with rfl | rfl
  · exact .inl rfl
  · exact .inr rfl

/-- Two pulls that both return have left what one leaves after the other, where a pull that has
waited while the other committed met it, over the tables both had seen. -/
theorem concurrent_pulls_serial (first second : Pull) (db : Database) (valid : db.Valid)
    (events : List (TurnEvent Bool))
    (met : Guarded (pullTransactions server (fun i => cond i second first)).step
      (MeetsOther server (fun i => cond i second first)) (.start db) events)
    (returned : ∀ i, (events.foldl (pullTransactions server (fun i => cond i second first)).step
      (.start db)).calls i = .returned) :
    (events.foldl (pullTransactions server (fun i => cond i second first)).step
          (.start db)).state =
        second.run server (first.run server db) ∨
      (events.foldl (pullTransactions server (fun i => cond i second first)).step
          (.start db)).state =
        first.run server (second.run server db) := by
  obtain ⟨order, once, same, state⟩ := Transactions.serial_of_fresh db (fresh_run valid met)
  rw [state]
  rcases nodup_two once (fun i => (same i).mpr (returned i)) with rfl | rfl
  · left
    simp only [List.foldl_cons, List.foldl_nil, alone_pull, cond_true, cond_false]
  · right
    simp only [List.foldl_cons, List.foldl_nil, alone_pull, cond_true, cond_false]

end

def ana : Pull := ⟨[plainRecord 1 (str "ana@pdx.org")], false⟩

def ben : Pull := ⟨[plainRecord 2 (str "ben@pdx.org")], false⟩

def sameMember : List (TurnEvent Bool) :=
  [.take false, .take true, .finish false, .finish true, .take true, .finish true]

/-- The pull that waited meets the member the other stored, and pulls again. -/
theorem concurrent_pulls_serial_same_member :
    (sameMember.foldl (pullTransactions textServer (fun i => cond i ana ana)).step
          (.start .empty)).state =
        ana.run textServer (ana.run textServer .empty) ∨
      (sameMember.foldl (pullTransactions textServer (fun i => cond i ana ana)).step
          (.start .empty)).state =
        ana.run textServer (ana.run textServer .empty) := by
  have stored : ana.Stores textServer .empty (plainRecord 1 (str "ana@pdx.org")) := by
    refine ⟨List.mem_singleton.mpr rfl, Or.inr ⟨_, rfl, ?_, fun other listed row holds => ?_⟩⟩
    · rintro ⟨row, ⟨⟩, -⟩
    · cases List.mem_singleton.mp listed
      rw [MemberColumns.clashesWith, holds.stId]
      rfl
  refine concurrent_pulls_serial ana ana .empty Database.empty_valid sameMember
    ⟨trivial, trivial, ?_, ?_, trivial, ?_, trivial⟩ ?_
  · rintro _ _ _ ⟨⟩ old
    exact absurd old (by decide)
  · rintro _ _ _ ⟨⟩ old
    exact Meets.shared _ stored (by decide)
  · rintro _ _ _ ⟨⟩ old
    exact absurd old (by decide)
  · intro i
    cases i <;> rfl

/-- Two pulls that store one member each, and whose snapshots both see nobody, lapse neither. -/
theorem disjoint_pulls_lapse_nobody :
    let t := pullTransactions textServer (fun i => cond i ben ana)
    let s := [TurnEvent.take false, .take true, .finish false, .finish true].foldl t.step
      (.start .empty)
    (∀ i, s.calls i = .returned) ∧ s.state.members.map (fun row => (row.stId, row.standing)) =
        [(1, .goodStanding), (2, .goodStanding)] ∧
      (ben.run textServer (ana.run textServer .empty)).members.map
          (fun row => (row.stId, row.standing)) =
        [(1, .lapsed), (2, .goodStanding)] ∧
      (ana.run textServer (ben.run textServer .empty)).members.map
          (fun row => (row.stId, row.standing)) =
        [(2, .lapsed), (1, .goodStanding)] := by
  refine ⟨fun i => ?_, by decide +kernel, by decide +kernel, by decide +kernel⟩
  cases i <;> rfl

end Rosadmin
