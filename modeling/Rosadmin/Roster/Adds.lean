import Rosadmin.Roster.Leaders

/-!
# Manual adds through a merge

A merge carries the adds of a duplicate to the row it folds into, and keeps
that row's own where both have one. Where its own is a leader row that the
record does not ask for, the pull takes it in the end, and the add is lost.
-/

namespace Rosadmin
open Foundation

/-- The new row is the old one: it kept its member, or alone came to the survivor its member was
folded into. -/
def Continues (report : PullReport) (db after : Database) (old new : BodyMembershipsRow) : Prop :=
  new.bodyId = old.bodyId ∧ (new.memberId = old.memberId ∨
    (FoldedOnto report after old.memberId new.memberId ∧ ∀ other ∈ db.bodyMemberships,
      other.bodyId = old.bodyId →
      other.memberId = new.memberId ∨ FoldedOnto report after other.memberId new.memberId →
        other = old))

/-- The survivor's row is in the body of the duplicate's add, and what the duplicate has added is
its addition. -/
def KeepsAdd (db after : Database) (report : PullReport) (merge : AccountMerge)
    (add : BodyMembershipsRow) : Prop :=
  ∃ row ∈ after.members, row.stId = merge.survivorStId ∧
    (∃ new ∈ after.bodyMemberships, new.key = (row.id, add.bodyId)) ∧
    ∀ old ∈ db.bodyMemberships, old.addedBy = some merge.duplicateMemberId →
      ∀ new ∈ after.bodyMemberships,
      Continues report db after old new → new.role = .member → new.addedBy = some row.id

/-- At the survivor's turn the row its duplicates are folded into leads the body, and its record
does not. -/
def Outranked (server : Server) (members : List Member) (db : Database) (merge : AccountMerge)
    (bodyId : UUID) : Prop :=
  ∃ done member rest s cols target, members = done ++ member :: rest ∧
    member.stId = merge.survivorStId ∧
    pullUpTo server members false db done = .ok s ∧ member.RecordedAs server cols ∧
    s.db.mergeTarget cols.stId (s.db.mergeDuplicatesOf (some cols.email) cols.discordUserId
      (members.map (·.stId))) = some target ∧
    Leads db.bodyMemberships (target, bodyId) ∧ ¬member.LeadsBody db bodyId

section
variable {server : Server} {roster : List Int} {completeMerges : Bool} {members : List Member}
    {member : Member} {stId : Int} {s t : PullState}

/-- No merge into a member is noted at the turns of others. -/
theorem merges_of_run (table : MembersTable s.db.members s.db.nextId)
    (own : ∀ member ∈ members, member.stId ∈ roster)
    (others : ∀ member ∈ members, member.stId ≠ stId)
    (run : members.foldlM (pullMember server roster completeMerges) s = .ok t)
    {merge : AccountMerge} (into : merge.survivorStId = stId) :
    merge ∈ t.merges ↔ merge ∈ s.merges := by
  suffices step : ∀ member ∈ members, ∀ t u,
      MembersTable t.db.members t.db.nextId ∧ (merge ∈ t.merges ↔ merge ∈ s.merges) →
      pullMember server roster completeMerges t member = .ok u →
      MembersTable u.db.members u.db.nextId ∧ (merge ∈ u.merges ↔ merge ∈ s.merges) from
    (foldlM_keeps step ⟨table, Iff.rfl⟩ run).2
  intro member listed t u ⟨table, same⟩ turn
  rcases pullMember_cases table (own member listed) turn with ⟨_, -, rfl⟩
    | ⟨cols, id, duplicates, taken⟩
  · exact ⟨table, same⟩
  · refine ⟨taken.table, ?_⟩
    rw [taken.merges, List.mem_append, ← same]
    refine or_iff_left fun new => ?_
    obtain ⟨d, -, rfl⟩ := List.mem_map.mp new
    exact others member listed into

theorem bodies_of_run (run : members.foldlM (pullMember server roster completeMerges) s = .ok t) :
    s.db.leadershipBodies ⊆ t.db.leadershipBodies := by
  have kept := foldlM_keeps (fun _ _ _ _ =>
    pullMember_bodies (BodiesRule.kept s.db.leadershipBodies))
    (List.Subset.refl s.db.leadershipBodies) run
  exact kept

theorem names_survives {folds : List Fold} (tidy : Tidy folds) (id : UUID) :
    names folds id ∉ folds.map (·.source) := by
  by_cases folded : id ∈ folds.map (·.source)
  · obtain ⟨f, listed, rfl⟩ := List.mem_map.mp folded
    rw [names_source tidy listed]
    intro again
    obtain ⟨g, there, same⟩ := List.mem_map.mp again
    exact tidy.apart f listed g there same.symm
  · rw [names_other folded]
    exact folded

end

section
variable {server : Server} {members : List Member} {dryRun : Bool} {db after : Database}
  {report : PullReport} {s e : PullState} {folds : List Fold} {member : Member}
  {merge : AccountMerge} {add : BodyMembershipsRow}

theorem Reconciled.leads_db_iff
    (reconciled : Reconciled server members dryRun db report after e folds) {bodyId : UUID}
    (there : bodyId ∈ db.leadershipBodies.map (·.id)) : member.LeadsBody db bodyId ↔
      member.LeadsBody after bodyId := by
  have kept : db.leadershipBodies ⊆ after.leadershipBodies :=
    reconciled.closed.bodies ▸ bodies_of_run reconciled.run
  constructor
  · rintro ⟨leadership, led, body, present, named⟩
    exact ⟨leadership, led, body, kept present, named⟩
  · rintro ⟨leadership, led, body, present, rfl, named⟩
    obtain ⟨held, before, same⟩ := List.mem_map.mp there
    cases List.inj_on_of_nodup_map reconciled.keyed.bodies.ids (kept before) present same
    exact ⟨leadership, led, _, before, rfl, named⟩

/-- The turn in which the merge was made leaves the survivor's row under the id of the merge's
target. -/
theorem merge_turn {done rest : List Member} (keyed : db.Keyed)
    (distinct : (members.map (·.stId)).Nodup)
    (reconciled : Reconciled server members dryRun db report after e folds)
    (listed : members = done ++ member :: rest) (into : merge.survivorStId = member.stId)
    (merged : merge ∈ report.merges) (reached : pullUpTo server members dryRun db done = .ok s) :
    ∃ cols id, member.RecordedAs server cols ∧
      s.db.mergeTarget cols.stId (s.db.mergeDuplicatesOf (some cols.email) cols.discordUserId
        (members.map (·.stId))) = some id ∧ (⟨cols, id⟩ : MembersRow) ∈ after.members := by
  obtain ⟨s', t, reached', turn, later⟩ := pullUpTo_at listed reconciled.run
  cases reached.symm.trans reached'
  obtain ⟨fresh, others, -⟩ := distinct_split (listed ▸ distinct)
  have own : ∀ m ∈ members, m.stId ∈ members.map (·.stId) := fun _ => List.mem_map_of_mem
  have table := (midway_at keyed distinct listed reached).table
  rw [reconciled.closed.merges] at merged
  -- the merge was not noted before this turn, nor in the turns after it
  have before : merge ∉ s.merges := fun earlier => by
    refine absurd ((merges_of_run keyed.members (fun m turn => own m (by simp [listed, turn])) ?_
      reached into).mp earlier)
      List.not_mem_nil
    exact fun m earlier same => fresh (same ▸ List.mem_map_of_mem earlier)
  have mine : member.stId ∈ members.map (·.stId) := own member (by simp [listed])
  rcases pullMember_sent table mine turn with rfl | ⟨cols, id, duplicates, taken, sent⟩
  · have skips : MembersTable ({ s with skippedStIds := s.skippedStIds ++
      [member.stId] } : PullState).db.members
        s.db.nextId := table
    have now := (merges_of_run skips (fun m after => own m (by simp [listed, after])) others later
      into).mp merged
    exact absurd now before
  · have record := (bindMember_ok taken.bound).2
    have now := (merges_of_run taken.table (fun m after => own m (by simp [listed, after])) others
      later into).mp merged
    rw [taken.merges] at now
    have some : duplicates ≠ [] := by
      rintro rfl
      exact (List.mem_append.mp now).elim before List.not_mem_nil
    have quiet : Quiet member.stId t e :=
      quiet_of_run taken.table mine (fun m after => own m (by simp [listed, after])) others later
    have written := (quiet.row ⟨cols, id⟩ record.stId).mpr taken.written
    exact ⟨cols, id, record, sent.target.resolve_left some,
      (reconciled.closed.mem_rostered (record.stId ▸ mine)).mpr written⟩

/-- A row under the key of a leader row of the survivor, who is stored, is the pull's own. -/
theorem Reconciled.paired_of_led
    (reconciled : Reconciled server members dryRun db report after e folds)
    (memberships : (db.bodyMemberships.map (·.key)).Nodup) {pair : UUID × UUID}
    (unfolded : pair.1 ∉ folds.map (·.source))
    (noted : pair.1 ∈ e.presentMemberIds) {new : BodyMembershipsRow}
    (kept : new ∈ after.bodyMemberships)
    (key : new.key = pair) (led : Leads db.bodyMemberships pair) : pair ∈ e.pairs := by
  have moved := reconciled.moved
  obtain ⟨old, before, memberId, bodyId, leader⟩ := led
  have before : old ∈ db.attached.memberships := before
  rcases (moved.mem_memberships reconciled.closed).mp kept with ⟨left, -, standing⟩
    | ⟨other, paired, rfl⟩
  · -- the row left is the leader row, and the survivor is stored, so it would not have been left
    have stays := foldAll_kept moved.tidy before (memberId.symm ▸ unfolded)
    have renamed : (old.rename (names folds)).key = new.key := by
      rw [key]
      exact Prod.ext ((names_other (memberId.symm ▸ unfolded)).trans memberId) bodyId
    cases List.inj_on_of_nodup_map (moved.folded_keys memberships) stays left renamed
    refine absurd noted ?_
    have same : (old.rename (names folds)).memberId = pair.1 := congrArg Prod.fst key
    exact same ▸ standing leader
  · have same : other = pair := key
    exact same ▸ paired

/-- An add has its place under the survivor's id where the pull asks for the body, or no leader row
was there. -/
theorem Reconciled.add_placed
    (reconciled : Reconciled server members dryRun db report after e folds)
    (there : add ∈ db.bodyMemberships) (role : add.role = .member) {bodyId into : UUID}
    (body : add.bodyId = bodyId)
    (goes : names folds add.memberId = into)
    (unled : (into, bodyId) ∈ e.pairs ∨ ¬Leads db.bodyMemberships (into, bodyId)) :
    ∃ new ∈ after.bodyMemberships, new.key = (into, bodyId) := by
  have moved := reconciled.moved
  by_cases paired : (into, bodyId) ∈ e.pairs
  · exact ⟨_, (moved.mem_memberships reconciled.closed).mpr (Or.inr ⟨_, paired, rfl⟩), rfl⟩
  · have there : add ∈ db.attached.memberships := there
    obtain ⟨new, left, memberId, bodies, kind⟩ := foldAll_carried moved.tidy there role
    rw [goes] at memberId kind
    have kind := kind.resolve_right fun ⟨own, before, id, same, leader⟩ =>
      unled.resolve_left paired ⟨own, before, id, same.trans body, leader⟩
    have key : new.key = (into, bodyId) := Prod.ext memberId (bodies.trans body)
    refine ⟨new, (moved.mem_memberships reconciled.closed).mpr
      (Or.inl ⟨left, key ▸ paired, fun leader => ?_⟩), key⟩
    cases kind.symm.trans leader

/-- The body is led by the survivor's row before the pull and by its record not, or the add has its
place. -/
theorem add_kept_iff (valid : db.Valid) (distinct : (members.map (·.stId)).Nodup)
    (reconciled : Reconciled server members dryRun db report after e folds)
    (merged : merge ∈ report.merges) (there : add ∈ db.bodyMemberships)
    (mine : add.memberId = merge.duplicateMemberId) (role : add.role = .member) {row : MembersRow}
    (present : row ∈ after.members) (into : row.stId = merge.survivorStId)
    (listed : member ∈ members) (own : member.stId = row.stId) :
    (∃ new ∈ after.bodyMemberships, new.key = (row.id, add.bodyId)) ↔
      (Leads db.bodyMemberships (row.id, add.bodyId) → member.LeadsBody db add.bodyId) := by
  obtain ⟨-, survivor, held, stId, rostered, goes, noted⟩ :=
    reconciled.moved.merged merge (reconciled.closed.merges ▸ merged)
  have still := (reconciled.closed.mem_rostered rostered).mpr held
  cases reconciled.keyed.members.row_of_stId still present (stId.trans into.symm)
  have unskipped := ((reconciled.present_iff valid.keyed distinct still).mp noted).2
  have pair : (row.id, add.bodyId) ∈ e.pairs ↔ member.LeadsBody after add.bodyId :=
    reconciled.pair_iff distinct listed (own ▸ unskipped) still own.symm
  rw [reconciled.leads_db_iff (valid.memberships.body add there), ← pair]
  have unfolded : row.id ∉ folds.map (·.source) := reconciled.unfolded (List.mem_map_of_mem still)
  constructor
  · rintro ⟨new, kept, key⟩ led
    exact reconciled.paired_of_led valid.memberships.keys unfolded noted kept key led
  · intro led
    exact reconciled.add_placed there role rfl ((congrArg (names folds) mine).trans goes.symm)
      (imp_iff_not_or.mp led).symm

theorem attribution_kept (valid : db.Valid)
    (reconciled : Reconciled server members dryRun db report after e folds)
    (merged : merge ∈ report.merges) {row : MembersRow} (present : row ∈ after.members)
    (into : row.stId = merge.survivorStId) {old new : BodyMembershipsRow}
    (there : old ∈ db.bodyMemberships) (added : old.addedBy = some merge.duplicateMemberId)
    (kept : new ∈ after.bodyMemberships) (continues : Continues report db after old new)
    (role : new.role = .member) :
    new.addedBy = some row.id := by
  have moved := reconciled.moved
  obtain ⟨-, survivor, held, stId, rostered, goes, -⟩ :=
    moved.merged merge (reconciled.closed.merges ▸ merged)
  have still := (reconciled.closed.mem_rostered rostered).mpr held
  cases reconciled.keyed.members.row_of_stId still present (stId.trans into.symm)
  obtain ⟨bodyId, continues⟩ := continues
  rcases (moved.mem_memberships reconciled.closed).mp kept with ⟨left, -⟩ | ⟨pair, -, rfl⟩
  · obtain ⟨other, before, rfl, -⟩ := foldAll_traced moved.tidy left
    suffices same : other.rename (names folds) = old.rename (names folds) by
      rw [same]
      show old.addedBy.map (names folds) = some row.id
      rw [added, goes]
      rfl
    rcases continues with own | ⟨-, alone⟩
    · -- the member was not folded, and its own row keeps the key
      have unfolded : old.memberId ∉ folds.map (·.source) :=
        own ▸ names_survives moved.tidy other.memberId
      have once := moved.folded_keys valid.memberships.keys
      have there : old ∈ db.attached.memberships := there
      have stays := foldAll_kept moved.tidy there unfolded
      exact List.inj_on_of_nodup_map once left stays
        (Prod.ext (own.trans (names_other unfolded).symm) bodyId)
    · refine congrArg (BodyMembershipsRow.rename · (names folds)) (alone other before bodyId ?_)
      by_cases folded : other.memberId ∈ folds.map (·.source)
      · exact Or.inr (reconciled.onto_iff.mpr ⟨folded, rfl⟩)
      · exact Or.inl (names_other folded).symm
  · cases role

/-- A merge of a pull keeps each add of its duplicate unless the row it folds into outranks the add;
and only then. -/
theorem merge_keeps_add_iff (valid : db.Valid) (distinct : (members.map (·.stId)).Nodup)
    (pulled : pullIn server members false db = .ok (report, after)) (merged : merge ∈ report.merges)
    (there : add ∈ db.bodyMemberships) (mine : add.memberId = merge.duplicateMemberId)
    (role : add.role = .member) :
    KeepsAdd db after report merge add ↔ ¬Outranked server members db merge add.bodyId := by
  obtain ⟨e, folds, reconciled⟩ := pull_reconciled valid.keyed distinct pulled
  obtain ⟨-, row, held, into, rostered, -, -⟩ :=
    reconciled.moved.merged merge (reconciled.closed.merges ▸ merged)
  have present := (reconciled.closed.mem_rostered rostered).mpr held
  obtain ⟨member, listed, own⟩ := List.mem_map.mp rostered
  have kept := add_kept_iff valid distinct reconciled merged there mine role present into listed own
  have turn : ∀ {done member rest s}, members = done ++ member :: rest →
      member.stId = merge.survivorStId →
        pullUpTo server members false db done = .ok s → ∃ cols, member.RecordedAs server cols ∧
          s.db.mergeTarget cols.stId
            (s.db.mergeDuplicatesOf (some cols.email) cols.discordUserId (members.map (·.stId))) =
              some row.id := by
    intro done member rest s whole same reached
    obtain ⟨cols, id, record, target, written⟩ :=
      merge_turn valid.keyed distinct reconciled whole same.symm merged reached
    cases reconciled.keyed.members.row_of_stId written present
      (record.stId.trans (same.trans into.symm))
    exact ⟨cols, record, target⟩
  constructor
  · rintro ⟨other, there', into', new, -⟩ ⟨done, record, rest, s, cols, target, whole, same,
      reached, recorded, found, leads, unled⟩
    cases reconciled.keyed.members.row_of_stId there' present (into'.trans into.symm)
    obtain ⟨cols', recorded', found'⟩ := turn whole same reached
    cases recorded.unique recorded'
    cases found.symm.trans found'
    have one : record = member :=
      List.inj_on_of_nodup_map distinct (by simp [whole]) listed (same.trans (own.trans into).symm)
    exact unled (one ▸ kept.mp new leads)
  · intro clear
    refine ⟨row, present, into, kept.mpr fun leads => ?_,
      fun old before added new left continues role =>
      attribution_kept valid reconciled merged present into before added left continues role⟩
    by_contra unled
    obtain ⟨done, rest, whole⟩ := List.append_of_mem listed
    obtain ⟨s, -, reached, -⟩ := pullUpTo_at whole reconciled.run
    obtain ⟨cols, record, target⟩ := turn whole (own.trans into) reached
    exact clear ⟨done, member, rest, s, cols, row.id, whole, own.trans into, reached, record,
      target, leads, unled⟩

end

/-! ### A leader row in the way -/

/-- A member added to a body, whose account is merged into that of one who led it. -/
def steppedDown : Database :=
  { Database.empty with
    members := [plainMember 0 (str "ana@pdx.org"), plainMember 1 (str "cyd@pdx.org")]
    leadershipBodies := [⟨2, str "Steering", str "committee", none, none⟩]
    bodyMemberships := [⟨0, 2, .member, none, some 0⟩, ⟨1, 2, .leader, none, none⟩], nextId := 3 }

theorem steppedDown_valid : steppedDown.Valid := by
  constructor <;> constructor <;> decide

theorem KeepsAdd.some {db after : Database} {report : PullReport} {merge : AccountMerge}
    {add : BodyMembershipsRow} (keeps : KeepsAdd db after report merge add) :
    after.bodyMemberships ≠ [] := by
  obtain ⟨_, -, -, ⟨new, kept, -⟩, -⟩ := keeps
  exact List.ne_nil_of_mem kept

/-- The survivor ends in no body at all. -/
theorem merge_loses_add : ∃ report after,
    pullIn textServer [plainRecord 1 (str "ana@pdx.org")] false steppedDown = .ok (report, after) ∧
      report.merges = [⟨1, 0, 0⟩] ∧ ¬KeepsAdd steppedDown after report ⟨1, 0, 0⟩ ⟨0, 2, .member,
        none, some 0⟩ :=
  ⟨_, _, rfl, rfl, fun keeps => keeps.some rfl⟩

theorem merge_outranks_add :
    Outranked textServer [plainRecord 1 (str "ana@pdx.org")] steppedDown ⟨1, 0, 0⟩ 2 := by
  have pulled : pullIn textServer [plainRecord 1 (str "ana@pdx.org")] false steppedDown =
    .ok (_, _) := rfl
  by_contra clear
  have there : (⟨0, 2, .member, none, some 0⟩ : BodyMembershipsRow) ∈ steppedDown.bodyMemberships :=
    List.mem_cons_self
  have keeps := (merge_keeps_add_iff steppedDown_valid
    (by decide) pulled List.mem_cons_self there rfl rfl).mpr clear
  exact keeps.some rfl

end Rosadmin
