import Rosadmin.Db.Schema

/-!
# Desired state for the reconcile sweep

Who belongs in which group. Every read folds rows into a dictionary under the
casefolded target of each row, so what a read answers is said row by row.
-/

namespace Rosadmin
open Foundation

structure DesiredRow where
  memberId : UUID
  addresses : SyncAddresses
  deriving DecidableEq

structure AudienceRow extends DesiredRow where
  groupEmail : Email
  deriving DecidableEq

abbrev Audience := Dict Str UUID
abbrev Audiences := Dict Email Audience

namespace Database

/-- `m.standing = 'good_standing' AND m.id NOT IN (SELECT member_id FROM member_bans)` -/
def eligible (db : Database) (m : MembersRow) : Bool :=
  m.standing = .goodStanding && !db.banned m.id

def desiredRow (m : MembersRow) : DesiredRow := ⟨m.id, m.addresses⟩

/-- The rows of one role, under the group address their body holds in `column`. -/
def linkedRows (role : Role) (column : LeadershipBodiesRow → Option Email) (db : Database) :
    List AudienceRow :=
  (db.bodyMemberships.filter (·.role = role)).flatMap fun bm =>
    (db.leadershipBodies.filter (·.id = bm.bodyId)).flatMap fun lb =>
      match column lb with
      | none => []
      | some groupEmail =>
        (db.members.filter (fun m => m.id = bm.memberId && db.eligible m)).map fun m =>
          ⟨desiredRow m, groupEmail⟩

def linkedLeaderRows (db : Database) : List AudienceRow :=
  linkedRows .leader (·.leaderGoogleGroupEmail) db

def linkedMemberRows (db : Database) : List AudienceRow :=
  linkedRows .member (·.memberGoogleGroupEmail) db

def goodStandingRows (db : Database) : List DesiredRow :=
  (db.members.filter db.eligible).map desiredRow

/-- Whether a membership row of the body counts towards the group. -/
def holdsGroup (groupEmail : Email) (bm : BodyMembershipsRow) (lb : LeadershipBodiesRow) : Bool :=
  (bm.role = .leader && lb.leaderGoogleGroupEmail = some groupEmail) ||
    (bm.role = .member && lb.memberGoogleGroupEmail = some groupEmail)

def oneLinkedGroupRows (db : Database) (groupEmail : Email) : List DesiredRow :=
  db.bodyMemberships.flatMap fun bm =>
    (db.leadershipBodies.filter (fun lb => lb.id = bm.bodyId &&
      holdsGroup groupEmail bm lb)).flatMap fun _ =>
      (db.members.filter (fun m => m.id = bm.memberId && db.eligible m)).map desiredRow

def allLinkedGroups (db : Database) : List Email :=
  (db.leadershipBodies.filter (·.leaderGoogleGroupEmail.isSome)).flatMap fun lb =>
    lb.leaderGoogleGroupEmail.toList ++ lb.memberGoogleGroupEmail.toList

end Database

section
variable (statuses : EmailStatuses)

def admitInto (row : DesiredRow) (desired : Audience) : Audience :=
  let address := syncTarget row.addresses statuses
  if isExample address then desired else desired.set (casefold address) row.memberId

/-- `_admit`: resolve one row's sync address into `audiences`, or drop it. -/
def admitRow (audiences : Audiences) (groupEmail : Email) (row : DesiredRow) : Audiences :=
  let address := syncTarget row.addresses statuses
  if isExample address then audiences
  else audiences.update groupEmail (fun desired =>
    (desired.getD Dict.empty).set (casefold address) row.memberId)

def admitLinked (audiences : Audiences) (row : AudienceRow) : Audiences :=
  admitRow statuses (audiences.setDefault row.groupEmail Dict.empty) row.groupEmail row.toDesiredRow

def audiencesIn (db : Database) (mainGroupEmail : Email) : Audiences :=
  let audiences := Dict.empty.set mainGroupEmail Dict.empty
  let audiences := (db.linkedLeaderRows ++ db.linkedMemberRows).foldl
    (admitLinked statuses) audiences
  let audiences := db.goodStandingRows.foldl
    (fun a row => admitRow statuses a mainGroupEmail row) audiences
  db.allLinkedGroups.foldl (fun a groupEmail => a.setDefault groupEmail Dict.empty) audiences

def desiredForGroup (db : Database) (groupEmail mainGroupEmail : Email) : Audience :=
  let rows := if groupEmail = mainGroupEmail then db.goodStandingRows
    else db.oneLinkedGroupRows groupEmail
  rows.foldl (fun desired row => admitInto statuses row desired) Dict.empty

/-! ### What a row puts where -/

def Admits (row : DesiredRow) (key : Str) : Prop :=
  isExample (syncTarget row.addresses statuses) = false ∧
    casefold (syncTarget row.addresses statuses) = key

def Audiences.at (audiences : Audiences) (groupEmail : Email) : Audience :=
  (audiences.get? groupEmail).getD Dict.empty

end

theorem at_of_sorted {audiences : Audiences} {audience : Email × Audience}
    (member : audience ∈ audiences.sorted) : audiences.at audience.1 = audience.2 := by
  have found : audiences.get? audience.1 = some audience.2 :=
    Dict.get?_eq_some_iff.mpr (Dict.mem_sorted.mp member)
  rw [Audiences.at, found]
  rfl

section
variable {statuses : EmailStatuses}

theorem mem_admitInto {row : DesiredRow} {desired : Audience} {key : Str} :
    key ∈ admitInto statuses row desired ↔ Admits statuses row key ∨ key ∈ desired := by
  unfold admitInto Admits
  dsimp only
  split
  · rename_i fabricated
    simp [fabricated]
  · rename_i real
    simp [Bool.eq_false_iff.mpr real, eq_comm]

theorem mem_foldl_admitInto {rows : List DesiredRow} {desired : Audience} {key : Str} :
    key ∈ rows.foldl (fun d row => admitInto statuses row d) desired ↔
      (∃ row ∈ rows, Admits statuses row key) ∨ key ∈ desired := by
  induction rows generalizing desired with
  | nil => simp
  | cons row rows ih =>
    rw [List.foldl_cons, ih, mem_admitInto, List.exists_mem_cons_iff]
    exact or_left_comm.trans or_assoc.symm

theorem at_admitRow {audiences : Audiences} {groupEmail : Email} {row : DesiredRow} {g : Email} :
    (admitRow statuses audiences groupEmail row).at g =
      if g = groupEmail then admitInto statuses row (audiences.at g) else audiences.at g := by
  unfold admitRow admitInto Audiences.at
  dsimp only
  split
  · simp
  · rw [Dict.get?_update]
    split
    · rename_i here
      rw [here]; rfl
    · rfl

theorem at_setDefault {audiences : Audiences} {groupEmail g : Email} :
    Audiences.at (audiences.setDefault groupEmail Dict.empty) g = audiences.at g := by
  unfold Audiences.at Dict.setDefault
  rw [Dict.get?_update]
  split
  · rename_i here
    rw [here]; rfl
  · rfl

theorem mem_at_admitLinked {rows : List AudienceRow} {audiences : Audiences} {g : Email}
    {key : Str} : key ∈ (rows.foldl (admitLinked statuses) audiences).at g ↔
      (∃ row ∈ rows, row.groupEmail = g ∧ Admits statuses row.toDesiredRow key) ∨
        key ∈ audiences.at g := by
  induction rows generalizing audiences with
  | nil => simp
  | cons row rows ih =>
    rw [List.foldl_cons, ih, List.exists_mem_cons_iff, admitLinked, at_admitRow]
    by_cases here : g = row.groupEmail
    · rw [if_pos here, mem_admitInto, at_setDefault, ← here, eq_self, true_and]
      exact or_left_comm.trans or_assoc.symm
    · rw [if_neg here, at_setDefault, eq_false (Ne.symm here), false_and, false_or]

theorem mem_at_admitRow {rows : List DesiredRow} {groupEmail : Email} {audiences : Audiences}
    {g : Email} {key : Str} :
    key ∈ (rows.foldl (fun a row => admitRow statuses a groupEmail row) audiences).at g ↔
      (g = groupEmail ∧ ∃ row ∈ rows, Admits statuses row key) ∨ key ∈ audiences.at g := by
  induction rows generalizing audiences with
  | nil => simp
  | cons row rows ih =>
    rw [List.foldl_cons, ih, List.exists_mem_cons_iff, at_admitRow]
    by_cases here : g = groupEmail
    · rw [if_pos here, mem_admitInto, eq_true here, true_and, true_and]
      exact or_left_comm.trans or_assoc.symm
    · rw [if_neg here, eq_false here, false_and, false_and]

theorem at_foldl_setDefault {groups : List Email} {audiences : Audiences} {g : Email} :
    Audiences.at (groups.foldl (fun a groupEmail => a.setDefault groupEmail Dict.empty) audiences)
      g = audiences.at g := by
  induction groups generalizing audiences with
  | nil => rfl
  | cons group groups ih => rw [List.foldl_cons, ih, at_setDefault]

theorem mem_audiencesIn {db : Database} {mainGroupEmail g : Email} {key : Str} :
    key ∈ (audiencesIn statuses db mainGroupEmail).at g ↔
      (g = mainGroupEmail ∧ ∃ row ∈ db.goodStandingRows, Admits statuses row key) ∨
      ∃ row ∈ db.linkedLeaderRows ++ db.linkedMemberRows, row.groupEmail = g ∧
        Admits statuses row.toDesiredRow key := by
  have start : Audiences.at (Dict.empty.set mainGroupEmail Dict.empty) g = Dict.empty := by
    unfold Audiences.at
    rw [Dict.get?_set]
    split <;> rfl
  unfold audiencesIn
  rw [at_foldl_setDefault, mem_at_admitRow, mem_at_admitLinked, start]
  simp only [Dict.not_mem_empty, or_false]

theorem mem_desiredForGroup {db : Database} {groupEmail mainGroupEmail : Email} {key : Str} :
    key ∈ desiredForGroup statuses db groupEmail mainGroupEmail ↔
      ∃ row ∈ (if groupEmail = mainGroupEmail then db.goodStandingRows
        else db.oneLinkedGroupRows groupEmail), Admits statuses row key := by
  unfold desiredForGroup
  rw [mem_foldl_admitInto]
  simp only [Dict.not_mem_empty, or_false]

end

/-! ### Every row is an eligible member's -/

namespace Database
variable {db : Database}

theorem eligible_iff {m : MembersRow} : db.eligible m = true ↔
    m.standing = .goodStanding ∧ db.banned m.id = false := by
  simp [eligible]

theorem mem_goodStandingRows {row : DesiredRow} :
    row ∈ db.goodStandingRows ↔ ∃ m ∈ db.members, db.eligible m = true ∧ desiredRow m = row := by
  simp [goodStandingRows, and_assoc]

theorem mem_linkedRows {role : Role} {column : LeadershipBodiesRow → Option Email}
    {row : AudienceRow} :
    row ∈ linkedRows role column db ↔ ∃ bm ∈ db.bodyMemberships, bm.role = role ∧
      ∃ lb ∈ db.leadershipBodies, lb.id = bm.bodyId ∧ column lb = some row.groupEmail ∧
        ∃ m ∈ db.members, m.id = bm.memberId ∧ db.eligible m = true ∧
          desiredRow m = row.toDesiredRow := by
  simp only [linkedRows, List.mem_flatMap, List.mem_filter, decide_eq_true_eq, and_assoc]
  refine exists_congr fun bm => and_congr_right fun _ => and_congr_right fun _ =>
    exists_congr fun lb =>
    and_congr_right fun _ => and_congr_right fun _ => ?_
  cases found : column lb with
  | none => simp
  | some groupEmail =>
    obtain ⟨desired, group⟩ := row
    simp only [List.mem_map, List.mem_filter, Bool.and_eq_true, decide_eq_true_eq,
      AudienceRow.mk.injEq, Option.some.injEq]
    constructor
    · rintro ⟨m, ⟨present, same, fit⟩, rfl, rfl⟩
      exact ⟨rfl, m, present, same, fit, rfl⟩
    · rintro ⟨rfl, m, present, same, fit, rfl⟩
      exact ⟨m, ⟨present, same, fit⟩, rfl, rfl⟩

theorem mem_oneLinkedGroupRows {groupEmail : Email} {row : DesiredRow} :
    row ∈ db.oneLinkedGroupRows groupEmail ↔ ∃ bm ∈ db.bodyMemberships, ∃ lb ∈ db.leadershipBodies,
      lb.id = bm.bodyId ∧ holdsGroup groupEmail bm lb = true ∧
        ∃ m ∈ db.members, m.id = bm.memberId ∧ db.eligible m = true ∧ desiredRow m = row := by
  simp [oneLinkedGroupRows, and_assoc]

theorem eligible_of_linkedRow {row : AudienceRow}
    (member : row ∈ db.linkedLeaderRows ++ db.linkedMemberRows) :
    ∃ m ∈ db.members, db.eligible m = true ∧ desiredRow m = row.toDesiredRow := by
  rcases List.mem_append.mp member with leader | plain
  · obtain ⟨-, -, -, -, -, -, -, m, present, -, fit, same⟩ := mem_linkedRows.mp leader
    exact ⟨m, present, fit, same⟩
  · obtain ⟨-, -, -, -, -, -, -, m, present, -, fit, same⟩ := mem_linkedRows.mp plain
    exact ⟨m, present, fit, same⟩

end Database

end Rosadmin
