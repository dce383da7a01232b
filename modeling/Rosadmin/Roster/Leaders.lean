import Rosadmin.Roster.Memberships

/-!
# The leader rows a pull leaves

A stored member leads the bodies of its record and no others. The pull takes no
leader row of anyone else, and turns no add into one that no record asks for;
but what a folded row has added is its survivor's addition afterwards.
-/

namespace Rosadmin
open Foundation

/-- The row as it was, or with the row that its adder was folded into. -/
def Reattributed (report : PullReport) (after : Database) (old new : BodyMembershipsRow) : Prop :=
  new = old ∨ ∃ adder into, old.addedBy = some adder ∧ FoldedOnto report after adder into ∧
    new = { old with addedBy := some into }

/-- A row that no record of the roster was stored under. -/
def Unstored (members : List Member) (report : PullReport) (row : MembersRow) : Prop :=
  row.stId ∉ members.map (·.stId) ∨ row.stId ∈ report.skippedStIds

/-- Some stored record has its row under the first id and leads the body under the second. -/
def RecordsLead (members : List Member) (report : PullReport) (after : Database)
    (pair : UUID × UUID) : Prop :=
  ∃ member ∈ members, member.stId ∉ report.skippedStIds ∧
    (∃ row ∈ after.members, row.stId = member.stId ∧ row.id = pair.1) ∧
      member.LeadsBody after pair.2

/-- What a pull makes of the leader rows and of the adds. -/
structure LeaderRows (server : Server) (members : List Member) (db : Database) (report : PullReport)
    (after : Database) : Prop where
  stored : ∀ member ∈ members, member.stId ∉ report.skippedStIds →
    ∃ row ∈ after.members, member.RecordedAs server row.toMemberColumns ∧
      ∀ bodyId, Leads after.bodyMemberships (row.id, bodyId) ↔ member.LeadsBody after bodyId
  kept : ∀ row ∈ after.members, Unstored members report row → ∀ old ∈ db.bodyMemberships,
    old.memberId = row.id → old.role = .leader → ∃ new ∈ after.bodyMemberships,
      Reattributed report after old new
  none : ∀ row ∈ after.members, Unstored members report row → ∀ new ∈ after.bodyMemberships,
    new.memberId = row.id → new.role = .leader → ∃ old ∈ db.bodyMemberships,
      Reattributed report after old new
  added : ∀ old ∈ db.bodyMemberships, old.role = .member → old.memberId ∈ after.members.map (·.id) →
    ∃ new ∈ after.bodyMemberships, (∀ other ∈ after.bodyMemberships, other.key = old.key →
      other = new) ∧ ((RecordsLead members report after old.key ∧ new = leaderRow old.key) ∨
        (¬RecordsLead members report after old.key ∧ Reattributed report after old new))

section
variable {server : Server} {members : List Member} {dryRun : Bool} {db after : Database}
    {report : PullReport} {s : PullState} {folds : List Fold} {row : MembersRow}

theorem Unstored.iff_not : Unstored members report row ↔
    ¬(row.stId ∈ members.map (·.stId) ∧ row.stId ∉ report.skippedStIds) := by
  rw [Unstored, not_and_or, not_not]

section
variable (reconciled : Reconciled server members dryRun db report after s folds)
include reconciled

theorem Reconciled.onto_iff {id into : UUID} :
    FoldedOnto report after id into ↔ id ∈ folds.map (·.source) ∧ names folds id = into :=
  reconciled.moved.foldedOnto_iff reconciled.closed reconciled.keyed.members

theorem Reconciled.unfolded {id : UUID} (there : id ∈ after.members.map (·.id)) :
    id ∉ folds.map (·.source) := by
  intro folded
  obtain ⟨f, listed, rfl⟩ := List.mem_map.mp folded
  exact (reconciled.moved.gone f listed).2 (reconciled.closed.ids ▸ there)

/-- A row of one who is not folded, under its new names. -/
theorem Reconciled.reattributed {old : BodyMembershipsRow}
    (other : old.memberId ∉ folds.map (·.source)) :
    Reattributed report after old (old.rename (names folds)) := by
  obtain ⟨memberId, bodyId, role, addedBy, manuallyAddedAt⟩ := old
  have same : names folds memberId = memberId := names_other other
  cases addedBy with
  | none =>
    left
    simp only [BodyMembershipsRow.rename, same, Option.map_none]
  | some adder =>
    by_cases folded : adder ∈ folds.map (·.source)
    · refine Or.inr ⟨adder, names folds adder, rfl, reconciled.onto_iff.mpr ⟨folded, rfl⟩, ?_⟩
      simp only [BodyMembershipsRow.rename, same, Option.map_some]
    · left
      simp only [BodyMembershipsRow.rename, same, Option.map_some, names_other folded]

theorem Reconciled.pair_iff_lead (keyed : db.Keyed) (distinct : (members.map (·.stId)).Nodup)
    {pair : UUID × UUID} : pair ∈ s.pairs ↔ RecordsLead members report after pair := by
  constructor
  · intro paired
    obtain ⟨member, listed, unskipped, row, there, mine, rowId, -⟩ :=
      reconciled.pair_stored keyed distinct paired
    refine ⟨member, listed, unskipped, ⟨row, there, mine, rowId⟩, ?_⟩
    refine (reconciled.pair_iff distinct listed unskipped there mine).mp ?_
    rw [rowId]
    exact paired
  · rintro ⟨member, listed, unskipped, ⟨row, there, mine, rowId⟩, leads⟩
    have paired := (reconciled.pair_iff distinct listed unskipped there mine).mpr leads
    rw [rowId] at paired
    exact paired

section
variable (keyed : db.Keyed) (distinct : (members.map (·.stId)).Nodup)
include keyed distinct

theorem Reconciled.absent (there : row ∈ after.members) (unstored : Unstored members report row) :
    row.id ∉ s.presentMemberIds := by
  intro present
  exact Unstored.iff_not.mp unstored ((reconciled.present_iff keyed distinct there).mp present)

theorem Reconciled.unpaired (there : row ∈ after.members) (unstored : Unstored members report row)
    (bodyId : UUID) : (row.id, bodyId) ∉ s.pairs := by
  intro paired
  obtain ⟨-, -, -, held, -, -, same, present⟩ := reconciled.pair_stored keyed distinct paired
  have same : held.id = row.id := same
  exact reconciled.absent keyed distinct there unstored (same ▸ present)

theorem Reconciled.leader_kept (there : row ∈ after.members)
    (unstored : Unstored members report row) {old : BodyMembershipsRow}
    (before : old ∈ db.bodyMemberships) (mine : old.memberId = row.id) :
    ∃ new ∈ after.bodyMemberships, Reattributed report after old new := by
  have moved := reconciled.moved
  have other : old.memberId ∉ folds.map (·.source) :=
    reconciled.unfolded (List.mem_map.mpr ⟨row, there, mine.symm⟩)
  have key : (old.rename (names folds)).key = (row.id, old.bodyId) :=
    Prod.ext ((names_other other).trans mine) rfl
  refine ⟨old.rename (names folds), ?_, reconciled.reattributed other⟩
  refine (moved.mem_memberships reconciled.closed).mpr
    (Or.inl ⟨foldAll_kept moved.tidy before other, ?_, fun _ => ?_⟩)
  · rw [key]
    exact reconciled.unpaired keyed distinct there unstored old.bodyId
  · have same : (old.rename (names folds)).memberId = row.id := congrArg Prod.fst key
    rw [same]
    exact reconciled.absent keyed distinct there unstored

/-- A leader row of one the pull has not stored was there. -/
theorem Reconciled.leader_traced (there : row ∈ after.members)
    (unstored : Unstored members report row) {new : BodyMembershipsRow}
    (left : new ∈ after.bodyMemberships) (mine : new.memberId = row.id)
    (role : new.role = .leader) : ∃ old ∈ db.bodyMemberships,
      Reattributed report after old new := by
  have moved := reconciled.moved
  rcases (moved.mem_memberships reconciled.closed).mp left with ⟨left, -⟩ | ⟨pair, paired, rfl⟩
  · obtain ⟨old, before, rfl, folded⟩ := foldAll_traced moved.tidy left
    have other : old.memberId ∉ folds.map (·.source) :=
      fun gone => nomatch (folded gone).symm.trans role
    exact ⟨old, before, reconciled.reattributed other⟩
  · refine absurd paired ?_
    have mine : pair.1 = row.id := mine
    rw [← Prod.eta pair, mine]
    exact reconciled.unpaired keyed distinct there unstored pair.2

/-- An add is the leader row that a record asks for, or is still there. -/
theorem Reconciled.add_settled (memberships : (db.bodyMemberships.map (·.key)).Nodup)
    {old : BodyMembershipsRow} (before : old ∈ db.bodyMemberships) (role : old.role = .member)
    (there : old.memberId ∈ after.members.map (·.id)) :
    ∃ new ∈ after.bodyMemberships, (∀ other ∈ after.bodyMemberships, other.key = old.key →
      other = new) ∧ ((RecordsLead members report after old.key ∧ new = leaderRow old.key) ∨
        (¬RecordsLead members report after old.key ∧ Reattributed report after old new)) := by
  have moved := reconciled.moved
  have other := reconciled.unfolded there
  have key : (old.rename (names folds)).key = old.key := Prod.ext (names_other other) rfl
  have once := moved.after_keys reconciled.closed memberships
  rw [← reconciled.pair_iff_lead keyed distinct]
  by_cases paired : old.key ∈ s.pairs
  · have led := (moved.mem_memberships reconciled.closed).mpr (Or.inr ⟨old.key, paired, rfl⟩)
    exact ⟨leaderRow old.key, led, fun row held same => List.inj_on_of_nodup_map once held led same,
      Or.inl ⟨paired, rfl⟩⟩
  · have kept := (moved.mem_memberships reconciled.closed).mpr
      (Or.inl ⟨foldAll_kept moved.tidy before other, key.symm ▸ paired, fun leader =>
        nomatch role.symm.trans leader⟩)
    exact ⟨_, kept, fun row held same =>
      List.inj_on_of_nodup_map once held kept (same.trans key.symm),
      Or.inr ⟨paired, reconciled.reattributed other⟩⟩

end

end

/-- For every roster of distinct st_ids, dry run or not. -/
theorem pull_leader_rows (valid : db.Valid) (distinct : (members.map (·.stId)).Nodup)
    (pulled : pullIn server members dryRun db = .ok (report, after)) :
    LeaderRows server members db report after := by
  obtain ⟨s, folds, reconciled⟩ := pull_reconciled valid.keyed distinct pulled
  exact
    { stored := by
        intro member listed unskipped
        obtain ⟨row, there, holds, present⟩ := reconciled.stored_row listed unskipped
        refine ⟨row, there, holds, fun bodyId => ?_⟩
        rw [← reconciled.pair_iff distinct listed unskipped there holds.stId]
        exact ⟨fun leads => reconciled.closed.pair_of_leads leads present, reconciled.closed.leads⟩
      kept := fun row there unstored old before mine _ =>
        reconciled.leader_kept valid.keyed distinct there unstored before mine
      none := fun row there unstored new left mine role =>
        reconciled.leader_traced valid.keyed distinct there unstored left mine role
      added := fun old before role there =>
        reconciled.add_settled valid.keyed distinct valid.memberships.keys before role there }

end

/-- The leader row of a member the roster has lost, added by one whose account is merged into a
third. -/
def addedLeader : Database :=
  { Database.empty with
    members := [plainMember 0 (str "ana@pdx.org"), plainMember 1 (str "cyd@pdx.org"),
      plainMember 2 (str "dee@pdx.org")]
    leadershipBodies := [⟨3, str "Steering", str "committee", none, none⟩]
    bodyMemberships := [⟨0, 3, .leader, some 1, some 0⟩], nextId := 4 }

/-- The pull stores nothing under the first row, and names another adder in its leader row. -/
theorem leader_row_reattributed : ∃ report after,
    pullIn textServer [plainRecord 2 (str "cyd@pdx.org")] false addedLeader = .ok (report, after) ∧
      ¬∀ row ∈ after.members, Unstored [plainRecord 2 (str "cyd@pdx.org")] report row →
        ∀ old ∈ addedLeader.bodyMemberships, old.memberId = row.id → old.role = .leader →
          old ∈ after.bodyMemberships := by
  refine ⟨_, _, rfl, fun unchanged => ?_⟩
  have kept := unchanged { plainMember 0 (str "ana@pdx.org") with standing := .lapsed }
    List.mem_cons_self
    (Or.inl (by decide)) _ List.mem_cons_self rfl rfl
  exact absurd kept (by decide)

theorem pull_leader_rows_merged : ∃ report after,
    pullIn textServer [plainRecord 2 (str "cyd@pdx.org")] false addedLeader = .ok (report, after) ∧
      report.merges = [⟨2, 1, 1⟩] ∧ LeaderRows textServer
        [plainRecord 2 (str "cyd@pdx.org")] addedLeader report after := by
  have valid : addedLeader.Valid := by
    constructor <;> constructor <;> decide
  have pulled : pullIn textServer [plainRecord 2 (str "cyd@pdx.org")] false addedLeader =
    .ok (_, _) := rfl
  exact ⟨_, _, pulled, rfl, pull_leader_rows valid (by decide) pulled⟩

end Rosadmin
