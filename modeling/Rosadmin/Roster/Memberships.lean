import Rosadmin.Roster.Survival
import Rosadmin.Roster.Settled

/-!
# The memberships a pull leaves

The closing of a pull puts a leader row under each pair gathered and takes the
other leader rows of the members it stored. Any other row is one that was there
before the pull, with its member and its adder under the ids they have come to.
-/

namespace Rosadmin
open Foundation

def BodyMembershipsRow.key (row : BodyMembershipsRow) : UUID × UUID := (row.memberId, row.bodyId)

/-- The row the records own: nobody added it. -/
def leaderRow (pair : UUID × UUID) : BodyMembershipsRow := ⟨pair.1, pair.2, .leader, none, none⟩

section
variable {pair : UUID × UUID} {pairs : List (UUID × UUID)} {rows : List BodyMembershipsRow}
    {row : BodyMembershipsRow}

theorem key_matches : (row.memberId = pair.1 && row.bodyId = pair.2) = true ↔ row.key = pair := by
  rw [Bool.and_eq_true, decide_eq_true_iff, decide_eq_true_iff, BodyMembershipsRow.key,
    Prod.ext_iff]

theorem promoted_eq (same : row.key = pair) :
    { row with role := .leader, addedBy := none, manuallyAddedAt := none } = leaderRow pair := by
  subst same
  rfl

theorem mem_promote : row ∈ promote rows pair ↔ (row ∈ rows ∧ row.key ≠ pair) ∨
    row = leaderRow pair := by
  rw [promote]
  split
  · rename_i there
    obtain ⟨held, present, matched⟩ := List.any_eq_true.mp there
    rw [mem_update]
    constructor
    · rintro (⟨old, member, matched, rfl⟩ | ⟨member, other⟩)
      · exact Or.inr (promoted_eq (key_matches.mp matched))
      · exact Or.inl ⟨member, fun same =>
          Bool.false_ne_true (other.symm.trans (key_matches.mpr same))⟩
    · rintro (⟨member, other⟩ | rfl)
      · exact Or.inr ⟨member, eq_false_of_ne_true fun matched => other (key_matches.mp matched)⟩
      · exact Or.inl ⟨held, present, matched, promoted_eq (key_matches.mp matched)⟩
  · rename_i missing
    rw [List.mem_append, List.mem_singleton]
    refine or_congr_left ((and_iff_left_of_imp fun member same => missing ?_).symm)
    exact List.any_eq_true.mpr ⟨row, member, key_matches.mpr same⟩

theorem mem_promoted : row ∈ pairs.foldl promote rows ↔
    (row ∈ rows ∧ row.key ∉ pairs) ∨ ∃ pair ∈ pairs, row = leaderRow pair := by
  induction pairs generalizing rows with
  | nil => simp
  | cons pair pairs ih =>
    rw [List.foldl_cons, ih, mem_promote]
    constructor
    · rintro (⟨⟨member, other⟩ | rfl, unlisted⟩ | ⟨later, listed, rfl⟩)
      · exact Or.inl ⟨member, fun listed => (List.mem_cons.mp listed).elim other unlisted⟩
      · exact Or.inr ⟨pair, List.mem_cons_self, rfl⟩
      · exact Or.inr ⟨later, List.mem_cons_of_mem _ listed, rfl⟩
    · rintro (⟨member, unlisted⟩ | ⟨other, listed, rfl⟩)
      · rw [List.mem_cons, not_or] at unlisted
        exact Or.inl ⟨Or.inl ⟨member, unlisted.1⟩, unlisted.2⟩
      · by_cases later : other ∈ pairs
        · exact Or.inr ⟨other, later, rfl⟩
        · cases (List.mem_cons.mp listed).resolve_right later
          exact Or.inl ⟨Or.inr rfl, later⟩

theorem promote_keys (once : (rows.map (·.key)).Nodup) :
    ((promote rows pair).map (·.key)).Nodup := by
  rw [promote]
  split
  · have same : (update (fun row => row.memberId = pair.1 && row.bodyId = pair.2)
        (fun row => { row with role := .leader, addedBy := none, manuallyAddedAt := none })
          rows).map (·.key) = rows.map (·.key) := by
      rw [update, List.map_map]
      refine List.map_congr_left fun row _ => ?_
      show (if _ then _ else row).key = row.key
      split <;> rfl
    exact same ▸ once
  · rename_i missing
    rw [List.map_append]
    refine List.nodup_append.mpr ⟨once, List.nodup_singleton _, ?_⟩
    rintro key old _ new rfl
    obtain ⟨row, member, rfl⟩ := List.mem_map.mp old
    exact missing (List.any_eq_true.mpr ⟨row, member, key_matches.mpr (List.mem_singleton.mp new)⟩)

theorem promoted_keys (once : (rows.map (·.key)).Nodup) :
    ((pairs.foldl promote rows).map (·.key)).Nodup := by
  induction pairs generalizing rows with
  | nil => exact once
  | cons pair pairs ih => exact ih (promote_keys once)

end

/-! ### Folds keep the keys -/

section
variable {a : Attached} {f : Fold} {folds : List Fold}

theorem fold_keys (apart : f.into ≠ f.source) (once : (a.memberships.map (·.key)).Nodup) :
    ((a.fold f).memberships.map (·.key)).Nodup := by
  have carried : (a.carried f).Pairwise (fun x y => x.key ≠ y.key) := by
    refine List.pairwise_map.mpr
      ((List.Pairwise.filter _ (List.pairwise_map.mp once)).imp_of_mem ?_)
    intro x y first second distinct same
    have bodies : x.bodyId = y.bodyId := congrArg Prod.snd same
    have mine := (moves_iff.mp (List.mem_filter.mp first).2).1.trans
      (moves_iff.mp (List.mem_filter.mp second).2).1.symm
    exact distinct (Prod.ext mine bodies)
  have together : (a.memberships ++ a.carried f).Pairwise (fun x y => x.key ≠ y.key) := by
    refine List.pairwise_append.mpr ⟨List.pairwise_map.mp once, carried, ?_⟩
    intro own there moved new same
    obtain ⟨old, kept, rfl⟩ := List.mem_map.mp new
    obtain ⟨-, -, free⟩ := moves_iff.mp (List.mem_filter.mp kept).2
    exact free own there (congrArg Prod.fst same) (congrArg Prod.snd same)
  rw [fold_memberships apart, List.map_map]
  exact List.pairwise_map.mpr (together.filter _)

theorem foldAll_keys (apart : ∀ f ∈ folds, f.into ≠ f.source)
    (once : (a.memberships.map (·.key)).Nodup) :
    ((a.foldAll folds).memberships.map (·.key)).Nodup := by
  induction folds generalizing a with
  | nil => exact once
  | cons f folds ih =>
    exact ih (fun g later => apart g (List.mem_cons_of_mem _ later))
      (fold_keys (apart f List.mem_cons_self) once)

end

/-! ### What the closing leaves -/

section
variable {roster : List Int} {fuseTripped : Bool} {db after : Database} {report : PullReport}
  {s : PullState} {folds : List Fold} (moved : Moved roster db s folds)
  (closed : Closed fuseTripped roster s report after)
include moved

theorem Moved.memberships : s.db.bodyMemberships = (db.attached.foldAll folds).memberships :=
  congrArg (·.memberships) moved.attached

theorem Moved.folded_keys (once : (db.bodyMemberships.map (·.key)).Nodup) :
    ((db.attached.foldAll folds).memberships.map (·.key)).Nodup :=
  foldAll_keys (fun f listed => moved.tidy.apart f listed f listed) once

include closed

theorem Moved.mem_memberships {row : BodyMembershipsRow} : row ∈ after.bodyMemberships ↔
    (row ∈ (db.attached.foldAll folds).memberships ∧ row.key ∉ s.pairs ∧
      (row.role = .leader → row.memberId ∉ s.presentMemberIds)) ∨ ∃ pair ∈ s.pairs,
        row = leaderRow pair := by
  rw [closed.memberships, List.mem_filter, mem_promoted, moved.memberships, decide_eq_true_iff]
  constructor
  · rintro ⟨⟨there, unpaired⟩ | led, kept⟩
    · exact Or.inl ⟨there, unpaired, fun role present => kept ⟨role, present, unpaired⟩⟩
    · exact Or.inr led
  · rintro (⟨there, unpaired, kept⟩ | ⟨pair, listed, rfl⟩)
    · exact ⟨Or.inl ⟨there, unpaired⟩, fun stale => kept stale.1 stale.2.1⟩
    · exact ⟨Or.inr ⟨pair, listed, rfl⟩, fun stale => stale.2.2 listed⟩

theorem Moved.after_keys (once : (db.bodyMemberships.map (·.key)).Nodup) :
    (after.bodyMemberships.map (·.key)).Nodup := by
  rw [closed.memberships, moved.memberships]
  exact (promoted_keys (moved.folded_keys once)).sublist (List.filter_sublist.map _)

end

/-! ### The pull as a whole -/

/-- A body of the table under the name and type of one of the record's leaderships. -/
def Member.LeadsBody (member : Member) (db : Database) (bodyId : UUID) : Prop :=
  ∃ leadership ∈ member.leads, ∃ body ∈ db.leadershipBodies,
    body.id = bodyId ∧ body.name = leadership.name ∧ body.bodyType = leadership.bodyType.value

/-- A committed pull of a roster of distinct st_ids, with all that its turns noted. -/
structure Reconciled (server : Server) (members : List Member) (dryRun : Bool) (db : Database)
    (report : PullReport) (after : Database) (s : PullState) (folds : List Fold) : Prop where
  run : pullUpTo server members dryRun db members = .ok s
  closed : Closed (lapseFuseTrips db (members.map (·.stId))) (members.map (·.stId)) s report after
  moved : Moved (members.map (·.stId)) db s folds
  midway : Midway server (members.map (·.stId)) (completesMerges dryRun (members.map (·.stId)) db)
    db members s
  noted : Noted server members s
  known : KnownBodies server s.toPullWork
  keyed : after.Keyed

section
variable {server : Server} {members : List Member} {dryRun : Bool} {db after : Database}
  {report : PullReport} {s : PullState} {folds : List Fold} {member : Member} {row : MembersRow}
  {bodyId : UUID}

theorem pull_reconciled (keyed : db.Keyed) (distinct : (members.map (·.stId)).Nodup)
    (pulled : pullIn server members dryRun db = .ok (report, after)) :
    ∃ s folds, Reconciled server members dryRun db report after s folds := by
  obtain ⟨s, folds, run, closed, -, moved⟩ := pull_moved keyed pulled
  have midway := midway_at keyed distinct (List.append_nil members).symm run
  have noted := noted_at keyed distinct (List.append_nil members).symm run
  have gathered := gathered_at keyed (List.append_nil members).symm run
  exact ⟨s, folds, run, closed, moved, midway, noted, gathered.bodies, keyed_of_pull keyed pulled⟩

section
variable (reconciled : Reconciled server members dryRun db report after s folds)
include reconciled

theorem Reconciled.stored_row (listed : member ∈ members)
    (unskipped : member.stId ∉ report.skippedStIds) :
    ∃ row ∈ after.members, member.RecordedAs server row.toMemberColumns ∧
      row.id ∈ s.presentMemberIds := by
  obtain ⟨row, there, holds, present, -⟩ :=
    reconciled.noted.stored member listed (reconciled.closed.skipped ▸ unskipped)
  exact ⟨row, (reconciled.closed.mem_rostered (holds.rostered listed)).mpr there, holds, present⟩

theorem Reconciled.present_iff (keyed : db.Keyed) (distinct : (members.map (·.stId)).Nodup)
    (there : row ∈ after.members) :
    row.id ∈ s.presentMemberIds ↔ row.stId ∈ members.map (·.stId) ∧
      row.stId ∉ report.skippedStIds := by
  rw [reconciled.closed.skipped]
  constructor
  · intro present
    obtain ⟨member, listed, written, held, holds, same⟩ := reconciled.noted.present _ present
    have rostered := holds.rostered listed
    have still := (reconciled.closed.mem_rostered rostered).mpr held
    cases reconciled.keyed.members.row_of_id still there same
    refine ⟨rostered, fun skipped => ?_⟩
    have old := (reconciled.midway.untouched row rostered (Or.inr skipped)).mp held
    exact recorded_unskipped keyed distinct reconciled.run listed old holds (holds.stId ▸ skipped)
  · rintro ⟨rostered, unskipped⟩
    obtain ⟨member, listed, same⟩ := List.mem_map.mp rostered
    obtain ⟨written, held, holds, present⟩ := reconciled.stored_row listed
      (reconciled.closed.skipped.symm ▸ same.symm ▸ unskipped)
    cases reconciled.keyed.members.row_of_stId held there (holds.stId.trans same)
    exact present

theorem Reconciled.pair_iff (distinct : (members.map (·.stId)).Nodup) (listed : member ∈ members)
    (unskipped : member.stId ∉ report.skippedStIds) (there : row ∈ after.members)
    (mine : row.stId = member.stId) :
    (row.id, bodyId) ∈ s.pairs ↔ member.LeadsBody after bodyId := by
  constructor
  · intro paired
    obtain ⟨other, listed', written, held, holds, same, leadership, led, found⟩ :=
      reconciled.noted.pairs _ paired
    have still := (reconciled.closed.mem_rostered (holds.rostered listed')).mpr held
    cases reconciled.keyed.members.row_of_id still there same
    cases List.inj_on_of_nodup_map distinct listed' listed (holds.stId.symm.trans mine)
    obtain ⟨body, present, named⟩ := reconciled.known.row leadership bodyId found
    exact ⟨leadership, led, body, reconciled.closed.bodies.symm ▸ present, named⟩
  · rintro ⟨leadership, led, body, present, rfl, name, bodyType⟩
    obtain ⟨written, held, holds, -, leads⟩ :=
      reconciled.noted.stored member listed (reconciled.closed.skipped ▸ unskipped)
    have still := (reconciled.closed.mem_rostered (holds.rostered listed)).mpr held
    cases reconciled.keyed.members.row_of_stId still there (holds.stId.trans mine.symm)
    obtain ⟨bodyId, found, paired⟩ := leads leadership led
    obtain ⟨other, present', rfl, name', bodyType'⟩ := reconciled.known.row leadership bodyId found
    rw [← reconciled.closed.bodies] at present'
    have keys : (other.name, other.bodyType) = (body.name, body.bodyType) :=
      Prod.ext (name'.trans name.symm) (bodyType'.trans bodyType.symm)
    cases List.inj_on_of_nodup_map reconciled.keyed.bodies.names present' present keys
    exact paired

theorem Reconciled.pair_stored {pair : UUID × UUID} (keyed : db.Keyed)
    (distinct : (members.map (·.stId)).Nodup) (paired : pair ∈ s.pairs) :
    ∃ member ∈ members, member.stId ∉ report.skippedStIds ∧
      ∃ row ∈ after.members, row.stId = member.stId ∧ row.id = pair.1 ∧
        row.id ∈ s.presentMemberIds := by
  obtain ⟨member, listed, row, held, holds, same, -⟩ := reconciled.noted.pairs _ paired
  have still := (reconciled.closed.mem_rostered (holds.rostered listed)).mpr held
  have unskipped : member.stId ∉ report.skippedStIds := by
    rw [reconciled.closed.skipped]
    intro skipped
    have old := (reconciled.midway.untouched row (holds.rostered listed)
      (Or.inr (holds.stId ▸ skipped))).mp held
    exact recorded_unskipped keyed distinct reconciled.run listed old holds skipped
  refine ⟨member, listed, unskipped, row, still, holds.stId, same, ?_⟩
  exact (reconciled.present_iff keyed distinct still).mpr ⟨holds.rostered listed,
    holds.stId ▸ unskipped⟩

end

end

end Rosadmin
