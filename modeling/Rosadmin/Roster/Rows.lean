import Rosadmin.Roster.Pull

/-!
# The statements on `members`

What an upsert and an account merge leave of the table: one row is written
under its st_id, the duplicates are gone, and the constraints still hold.
-/

namespace Rosadmin
open Foundation

/-- Two rows that no unique column confuses. -/
structure MembersRow.Apart (a b : MembersRow) : Prop where
  id : a.id ≠ b.id
  stId : a.stId ≠ b.stId
  email : a.email ≠ b.email
  discordId : ∀ x, a.discordUserId = some x → b.discordUserId ≠ some x

theorem MembersRow.Apart.symm {a b : MembersRow} (apart : a.Apart b) : b.Apart a :=
  ⟨apart.id.symm, apart.stId.symm, apart.email.symm, fun x there here =>
    apart.discordId x here there⟩

instance : Std.Symm MembersRow.Apart := ⟨fun _ _ => MembersRow.Apart.symm⟩

theorem membersTable_iff {rows : List MembersRow} {nextId : UUID} :
    MembersTable rows nextId ↔ rows.Pairwise MembersRow.Apart ∧ ∀ row ∈ rows, row.id < nextId := by
  have discord : (rows.filterMap (·.discordUserId)).Nodup ↔
      rows.Pairwise fun a b => ∀ x, a.discordUserId = some x → b.discordUserId ≠ some x := by
    refine List.pairwise_filterMap.trans ⟨fun h => h.imp ?_, fun h => h.imp ?_⟩
    · intro a b distinct x here there
      exact distinct x here x there rfl
    · intro a b distinct x here y there same
      exact distinct x here (same ▸ there)
  constructor
  · rintro ⟨ids, stIds, emails, discordIds, fresh⟩
    have columns := ((List.pairwise_map.mp ids).and (List.pairwise_map.mp stIds)).and
      ((List.pairwise_map.mp emails).and (discord.mp discordIds))
    exact ⟨columns.imp fun both => ⟨both.1.1, both.1.2, both.2.1, both.2.2⟩, fresh⟩
  · rintro ⟨apart, fresh⟩
    exact ⟨List.pairwise_map.mpr (apart.imp (·.id)), List.pairwise_map.mpr (apart.imp (·.stId)),
      List.pairwise_map.mpr (apart.imp (·.email)), discord.mpr (apart.imp (·.discordId)), fresh⟩

namespace MembersTable
variable {rows : List MembersRow} {nextId : UUID} {a b : MembersRow}

theorem apart (table : MembersTable rows nextId) (first : a ∈ rows) (second : b ∈ rows)
    (distinct : a ≠ b) : a.Apart b :=
  (membersTable_iff.mp table).1.forall first second distinct

theorem row_of_id (table : MembersTable rows nextId) (first : a ∈ rows) (second : b ∈ rows)
    (same : a.id = b.id) : a = b := List.inj_on_of_nodup_map table.ids first second same

theorem row_of_stId (table : MembersTable rows nextId) (first : a ∈ rows) (second : b ∈ rows)
    (same : a.stId = b.stId) : a = b := List.inj_on_of_nodup_map table.stIds first second same

theorem nodup (table : MembersTable rows nextId) : rows.Nodup := table.ids.of_map

theorem filter (table : MembersTable rows nextId) (kept : MembersRow → Bool) :
    MembersTable (rows.filter kept) nextId :=
  have ⟨apart, fresh⟩ := membersTable_iff.mp table
  membersTable_iff.mpr ⟨apart.filter kept, fun row member =>
    fresh row (List.mem_of_mem_filter member)⟩

end MembersTable

/-! ### The upsert -/

section
variable {cols : MemberColumns} {row : MembersRow}

theorem apart_of_clear {id : UUID} (clear : cols.clashesWith row = false)
    (stId : row.stId ≠ cols.stId) (ids : id ≠ row.id) : (MembersRow.mk cols id).Apart row := by
  have free : row.holds (some cols.email) cols.discordUserId = false := by
    simpa [MemberColumns.clashesWith, stId] using clear
  obtain ⟨email, discord⟩ := Bool.or_eq_false_iff.mp free
  refine ⟨ids, stId.symm, fun same => ?_, fun x here there => ?_⟩
  · exact of_decide_eq_false email (congrArg some same)
  · have mine : cols.discordUserId = some x := here
    rw [mine, there] at discord
    simp at discord

theorem clear_of_apart {holder : MembersRow} (holds : holder.toMemberColumns = cols)
    (apart : holder.Apart row) : cols.clashesWith row = false := by
  subst holds
  have discord : (holder.discordUserId.isSome &&
      decide (row.discordUserId = holder.discordUserId)) = false := by
    cases mine : holder.discordUserId with
    | none => rfl
    | some x => simpa using apart.discordId x mine
  rw [MemberColumns.clashesWith, MembersRow.holds, discord, Bool.or_false,
    decide_eq_false (fun same => apart.email (Option.some.inj same)), Bool.and_false]

end

structure Upserted (cols : MemberColumns) (id : UUID) (before after : Database) : Prop where
  rows : ∀ row, row ∈ after.members ↔ row = ⟨cols, id⟩ ∨
    (row ∈ before.members ∧ row.stId ≠ cols.stId)
  own : ∀ row ∈ before.members, row.stId = cols.stId → row.id = id
  source : id ∈ before.members.map (·.id) ∨ id = before.nextId
  table : MembersTable after.members after.nextId
  grown : before.nextId ≤ after.nextId
  bodies : after.leadershipBodies = before.leadershipBodies

namespace Database
variable {db after : Database} {cols : MemberColumns} {id : UUID}

theorem upsertMember_ok (table : MembersTable db.members db.nextId)
    (upserted : db.upsertMember cols = .ok (id, after)) :
    (∀ row ∈ db.members, cols.clashesWith row = false) ∧ Upserted cols id db after := by
  obtain ⟨_, clear, upserted⟩ := bind_ok.mp upserted
  have clear : ∀ row ∈ db.members, cols.clashesWith row = false := by simpa using ensure_ok.mp clear
  obtain ⟨apart, fresh⟩ := membersTable_iff.mp table
  refine ⟨clear, ?_⟩
  cases found : db.members.find? (·.stId = cols.stId) with
  | some own =>
    rw [found] at upserted
    cases upserted
    have present := List.mem_of_find?_eq_some found
    have stId : own.stId = cols.stId := by simpa using List.find?_some found
    refine ⟨?_, ?_, Or.inl (List.mem_map_of_mem present), ?_, le_refl _, rfl⟩
    · intro row
      refine mem_update.trans (or_congr ⟨?_, ?_⟩ (and_congr_right fun _ => by simp))
      · rintro ⟨old, member, held, rfl⟩
        rw [table.row_of_stId member present ((of_decide_eq_true held).trans stId.symm)]
      · rintro rfl
        exact ⟨own, present, decide_eq_true stId, rfl⟩
    · intro row member same
      rw [table.row_of_stId member present (same.trans stId.symm)]
    · refine membersTable_iff.mpr
        ⟨pairwise_update (fun _ _ => MembersRow.Apart.symm) table.stIds apart ?_, ?_⟩
      · intro a ma b mb here other
        exact apart_of_clear (clear b mb) other
          (table.apart ma mb fun same => other (same ▸ here)).id
      · intro row member
        rcases mem_update.mp member with ⟨old, present, -, rfl⟩ | ⟨present, -⟩
        · exact fresh old present
        · exact fresh row present
  | none =>
    rw [found] at upserted
    cases upserted
    have absent : ∀ row ∈ db.members, row.stId ≠ cols.stId :=
      by simpa using List.find?_eq_none.mp found
    refine ⟨?_, fun row member same => absurd same (absent row member), Or.inr rfl, ?_,
      Nat.le_succ _, rfl⟩
    · intro row
      rw [List.mem_append, List.mem_singleton, or_comm]
      exact or_congr_right ⟨fun member => ⟨member, absent row member⟩, And.left⟩
    · refine membersTable_iff.mpr ⟨List.pairwise_append.mpr ⟨apart,
        List.pairwise_singleton _ _, ?_⟩, ?_⟩
      · intro row member new single
        cases List.mem_singleton.mp single
        exact (apart_of_clear (clear row member) (absent row member) (fresh row member).ne').symm
      · intro row member
        rcases List.mem_append.mp member with old | new
        · exact Nat.lt_succ_of_lt (fresh row old)
        · cases List.mem_singleton.mp new
          exact Nat.lt_succ_self _

theorem upsertMember_self {row : MembersRow} (table : MembersTable db.members db.nextId)
    (present : row ∈ db.members) : db.upsertMember row.toMemberColumns = .ok (row.id, db) := by
  have clear : db.members.any row.clashesWith = false := by
    apply List.any_eq_false.mpr
    intro other member
    by_cases same : other = row
    · simp [MemberColumns.clashesWith, same]
    · rw [clear_of_apart rfl (table.apart present member (Ne.symm same))]
      exact Bool.false_ne_true
  have found : db.members.find? (·.stId = row.stId) = some row := find?_key table.stIds present
  have same : update (·.stId = row.stId)
      (fun old => { old with toMemberColumns := row.toMemberColumns }) db.members = db.members := by
    apply update_self
    intro other member held
    rw [table.row_of_stId member present (of_decide_eq_true held)]
  simp only [upsertMember, clear, ensure, Bool.not_false, if_true, ok_bind, found, same]

/-- The upsert fails on a clash, and on nothing else. -/
theorem upsertMember_error {error : DbError} :
    db.upsertMember cols = .error error ↔
      error = .uniqueViolation ∧ ∃ row ∈ db.members, cols.clashesWith row = true := by
  cases clash : db.members.any cols.clashesWith with
  | true =>
    have failed : db.upsertMember cols = .error .uniqueViolation := by
      simp [upsertMember, clash, ensure, bind, Except.bind]
    have holder := List.any_eq_true.mp clash
    rw [failed, Except.error.injEq, eq_comm]
    exact ⟨fun same => ⟨same, holder⟩, And.left⟩
  | false =>
    have none : ¬∃ row ∈ db.members, cols.clashesWith row = true := by simpa using clash
    refine iff_of_false (fun failed => ?_) (fun failed => none failed.2)
    cases found : db.members.find? (·.stId = cols.stId) <;>
      simp [upsertMember, clash, ensure, bind, Except.bind, found] at failed

/-! ### The merge -/

section
variable {into : UUID} {duplicates : List MembersRow}

theorem foldAll_frame :
    (duplicates.foldl (fun db d => db.foldInto into d.id) db).leadershipBodies =
      db.leadershipBodies ∧
    (duplicates.foldl (fun db d => db.foldInto into d.id) db).nextId = db.nextId := by
  induction duplicates generalizing db with
  | nil => exact ⟨rfl, rfl⟩
  | cons d rest ih => exact ⟨ih.1, ih.2⟩

theorem foldAll_members : (duplicates.foldl (fun db d => db.foldInto into d.id) db).members =
    db.members.filter (fun row => row.id ∉ duplicates.map (·.id)) := by
  induction duplicates generalizing db with
  | nil => simp
  | cons d rest ih =>
    have one : (db.foldInto into d.id).members = db.members.filter (fun row => row.id ≠ d.id) := rfl
    rw [List.foldl_cons, ih, one, List.filter_filter]
    apply List.filter_congr
    intro row _
    simp only [List.map_cons, List.mem_cons, not_or, Bool.decide_and, Bool.and_comm]

end

variable {email : Option Str} {discordId : Option Int} {roster : List Int} {row : MembersRow}

theorem mem_mergeDuplicatesOf :
    row ∈ db.mergeDuplicatesOf email discordId roster ↔
      row ∈ db.members ∧ row.holds email discordId = true ∧ row.stId ∉ roster := by
  simp [mergeDuplicatesOf, List.mem_insertionSort]

theorem nodup_mergeDuplicatesOf (table : MembersTable db.members db.nextId) :
    (db.mergeDuplicatesOf email discordId roster).Nodup :=
  (List.perm_insertionSort _ _).nodup_iff.mpr (table.nodup.filter _)

end Database

structure Folded (stId : Int) (duplicates : List MembersRow) (before after : Database) : Prop where
  others : ∀ row, row.stId ≠ stId → (row ∈ after.members ↔ row ∈ before.members ∧ row ∉ duplicates)
  own : ∀ row ∈ before.members, row.stId = stId → row ∈ after.members
  source : ∀ row ∈ after.members, row.id ∈ before.members.map (·.id)
  table : MembersTable after.members after.nextId
  nextId : after.nextId = before.nextId
  bodies : after.leadershipBodies = before.leadershipBodies

section
variable {db : Database} {stId : Int} {duplicates : List MembersRow}

theorem unnamed_iff (table : MembersTable db.members db.nextId)
    (present : ∀ d ∈ duplicates, d ∈ db.members ∧ d.stId ≠ stId) {row : MembersRow}
    (member : row ∈ db.members) :
    row.id ∉ duplicates.map (·.id) ↔ row ∉ duplicates := by
  refine not_congr ⟨fun named => ?_, List.mem_map_of_mem⟩
  obtain ⟨d, chosen, same⟩ := List.mem_map.mp named
  exact table.row_of_id (present d chosen).1 member same ▸ chosen

/-- The member has a row, and the duplicates are folded into it. -/
theorem foldAll_folded (into : UUID) (table : MembersTable db.members db.nextId)
    (present : ∀ d ∈ duplicates, d ∈ db.members ∧ d.stId ≠ stId) :
    Folded stId duplicates db (duplicates.foldl (fun db d => db.foldInto into d.id) db) := by
  have rows : ∀ row, row ∈ (duplicates.foldl (fun db d => db.foldInto into d.id) db).members ↔
      row ∈ db.members ∧ row ∉ duplicates := by
    intro row
    rw [Database.foldAll_members, List.mem_filter]
    exact and_congr_right fun member => decide_eq_true_iff.trans (unnamed_iff table present member)
  refine ⟨fun row _ => rows row, ?_, ?_, ?_, ?_, ?_⟩
  · intro row member own
    exact (rows row).mpr ⟨member, fun duplicate => (present row duplicate).2 own⟩
  · intro row member
    exact List.mem_map_of_mem ((rows row).mp member).1
  · rw [Database.foldAll_members, Database.foldAll_frame.2]
    exact table.filter _
  · rw [Database.foldAll_frame.2]
  · rw [Database.foldAll_frame.1]

theorem membersTable_rekeyMember (first : UUID) (table : MembersTable db.members db.nextId)
    (absent : ∀ row ∈ db.members, row.stId ≠ stId) :
    MembersTable (db.rekeyMember first stId).members db.nextId := by
  obtain ⟨apart, fresh⟩ := membersTable_iff.mp table
  refine membersTable_iff.mpr ⟨pairwise_update (fun _ _ => MembersRow.Apart.symm) table.ids
    apart ?_, ?_⟩
  · intro a ma b mb here other
    have before := table.apart ma mb fun same => other (same ▸ here)
    exact ⟨before.id, (absent b mb).symm, before.email, before.discordId⟩
  · intro row member
    rcases mem_update.mp member with ⟨old, present, -, rfl⟩ | ⟨present, -⟩
    · exact fresh old present
    · exact fresh row present

/-- The member has no row, so the first duplicate becomes its row and the others are folded into
that. -/
theorem rekeyed_folded {first : MembersRow} {rest : List MembersRow}
    (table : MembersTable db.members db.nextId)
    (present : ∀ d ∈ first :: rest, d ∈ db.members ∧ d.stId ≠ stId)
    (absent : ∀ row ∈ db.members, row.stId ≠ stId) :
    Folded stId (first :: rest) db
      (rest.foldl (fun db d => db.foldInto first.id d.id) (db.rekeyMember first.id stId)) := by
  have rows : ∀ row,
      row ∈ (rest.foldl (fun db d => db.foldInto first.id d.id)
      (db.rekeyMember first.id stId)).members ↔
        ((∃ old ∈ db.members, old.id = first.id ∧ { old with stId } = row) ∨
          (row ∈ db.members ∧ row.id ≠ first.id)) ∧ row.id ∉ rest.map (·.id) := by
    intro row
    rw [Database.foldAll_members, List.mem_filter, Database.rekeyMember, mem_update,
      decide_eq_true_iff]
    simp only [decide_eq_true_iff, decide_eq_false_iff_not, ne_eq]
  refine ⟨?_, fun row member own => absurd own (absent row member), ?_, ?_, ?_, ?_⟩
  · intro row other
    rw [rows row]
    constructor
    · rintro ⟨⟨old, -, -, rfl⟩ | ⟨member, notFirst⟩, notRest⟩
      · exact absurd rfl other
      · refine ⟨member, (unnamed_iff table present member).mp ?_⟩
        simpa using ⟨notFirst, by simpa using notRest⟩
    · rintro ⟨member, kept⟩
      have kept := (unnamed_iff table present member).mpr kept
      rw [List.map_cons, List.mem_cons, not_or] at kept
      exact ⟨Or.inr ⟨member, kept.1⟩, kept.2⟩
  · intro row member
    rcases ((rows row).mp member).1 with ⟨old, present, -, rfl⟩ | ⟨present, -⟩
    · exact List.mem_map_of_mem (f := (·.id)) present
    · exact List.mem_map_of_mem present
  · rw [Database.foldAll_members, Database.foldAll_frame.2]
    exact (membersTable_rekeyMember first.id table absent).filter _
  · rw [Database.foldAll_frame.2]
    rfl
  · rw [Database.foldAll_frame.1]
    rfl

theorem mergeInto_folded (table : MembersTable db.members db.nextId)
    (present : ∀ d ∈ duplicates, d ∈ db.members ∧ d.stId ≠ stId) :
    Folded stId duplicates db (mergeInto stId duplicates db) := by
  cases found : db.members.find? (·.stId = stId) with
  | some survivor =>
    have merged : mergeInto stId duplicates db = duplicates.foldl
        (fun db d => db.foldInto survivor.id d.id) db := by
      simp only [mergeInto, found]
    exact merged ▸ foldAll_folded survivor.id table present
  | none =>
    have absent : ∀ row ∈ db.members, row.stId ≠ stId := by simpa using List.find?_eq_none.mp found
    cases duplicates with
    | nil =>
      have merged : mergeInto stId [] db = db := by simp only [mergeInto, found]
      rw [merged]
      exact foldAll_folded db.nextId table present
    | cons first rest =>
      have merged : mergeInto stId (first :: rest) db =
          rest.foldl (fun db d => db.foldInto first.id d.id) (db.rekeyMember first.id stId) := by
        simp only [mergeInto, found]
      exact merged ▸ rekeyed_folded table present absent

end

end Rosadmin
