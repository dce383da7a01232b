import Rosadmin.Db.Desired

/-!
# Two reads of one group

The whole audience map and the read of a single group are two formulations of
who a group's links admit. They agree on every address.
-/

namespace Rosadmin
open Foundation

namespace Database

/-- Some body holds the address in its leader or its member column. -/
def Linked (db : Database) (g : Email) : Prop :=
  ∃ lb ∈ db.leadershipBodies, lb.leaderGoogleGroupEmail = some g ∨
    lb.memberGoogleGroupEmail = some g

/-- A link admits the member: everyone to the main group, the leader rows of a body to its leader
address, the member rows to its member address. -/
def LinkAdmits (db : Database) (mainGroupEmail g : Email) (m : MembersRow) : Prop :=
  g = mainGroupEmail ∨ ∃ bm ∈ db.bodyMemberships, bm.memberId = m.id ∧ ∃ lb ∈ db.leadershipBodies,
    lb.id = bm.bodyId ∧
    ((bm.role = .leader ∧ lb.leaderGoogleGroupEmail = some g) ∨
      (bm.role = .member ∧ lb.memberGoogleGroupEmail = some g))

theorem mem_allLinkedGroups {db : Database} {g : Email} :
    g ∈ db.allLinkedGroups ↔ ∃ lb ∈ db.leadershipBodies, lb.leaderGoogleGroupEmail.isSome = true ∧
      (lb.leaderGoogleGroupEmail = some g ∨ lb.memberGoogleGroupEmail = some g) := by
  simp [allLinkedGroups, and_assoc]

theorem linked_of_row {db : Database} {row : AudienceRow}
    (member : row ∈ db.linkedLeaderRows ++ db.linkedMemberRows) : db.Linked row.groupEmail := by
  rcases List.mem_append.mp member with leader | plain
  · obtain ⟨-, -, -, lb, body, -, column, -⟩ := mem_linkedRows.mp leader
    exact ⟨lb, body, Or.inl column⟩
  · obtain ⟨-, -, -, lb, body, -, column, -⟩ := mem_linkedRows.mp plain
    exact ⟨lb, body, Or.inr column⟩

end Database

/-! ### The keys of the map -/

section
variable {statuses : EmailStatuses} {audiences : Audiences} {groupEmail g : Email}

theorem mem_admitRow {row : DesiredRow} (known : groupEmail ∈ audiences) :
    g ∈ admitRow statuses audiences groupEmail row ↔ g ∈ audiences := by
  unfold admitRow
  dsimp only
  split
  · exact Iff.rfl
  · rw [Dict.mem_update]
    exact or_iff_right_of_imp fun same => same ▸ known

theorem mem_admitRows {rows : List DesiredRow} (known : groupEmail ∈ audiences) :
    g ∈ rows.foldl (fun a row => admitRow statuses a groupEmail row) audiences ↔ g ∈ audiences := by
  induction rows generalizing audiences with
  | nil => exact Iff.rfl
  | cons row rows ih =>
    rw [List.foldl_cons, ih ((mem_admitRow known).mpr known)]
    exact mem_admitRow known

theorem mem_admitLinked {row : AudienceRow} :
    g ∈ admitLinked statuses audiences row ↔ g = row.groupEmail ∨ g ∈ audiences := by
  have known : row.groupEmail ∈ audiences.setDefault row.groupEmail Dict.empty :=
    Dict.mem_update.mpr (Or.inl rfl)
  rw [admitLinked, mem_admitRow known]
  exact Dict.mem_update

theorem mem_admitLinkedRows {rows : List AudienceRow} :
    g ∈ rows.foldl (admitLinked statuses) audiences ↔ (∃ row ∈ rows, row.groupEmail = g) ∨
      g ∈ audiences := by
  induction rows generalizing audiences with
  | nil => simp
  | cons row rows ih =>
    rw [List.foldl_cons, ih, mem_admitLinked, List.exists_mem_cons_iff, eq_comm]
    exact or_left_comm.trans or_assoc.symm

theorem mem_foldl_setDefault {groups : List Email} :
    g ∈ groups.foldl (fun a groupEmail => a.setDefault groupEmail Dict.empty) audiences ↔
      g ∈ groups ∨ g ∈ audiences := by
  induction groups generalizing audiences with
  | nil => simp
  | cons group groups ih =>
    rw [List.foldl_cons, ih, Dict.setDefault, Dict.mem_update, List.mem_cons]
    exact or_left_comm.trans or_assoc.symm

end

section
variable {statuses : EmailStatuses} {db : Database} {mainGroupEmail g : Email} {key : Str}

theorem mem_audiences_keys (valid : db.Valid) :
    g ∈ audiencesIn statuses db mainGroupEmail ↔ g = mainGroupEmail ∨ db.Linked g := by
  have main : mainGroupEmail ∈ (db.linkedLeaderRows ++ db.linkedMemberRows).foldl
      (admitLinked statuses)
        (Dict.empty.set mainGroupEmail Dict.empty) :=
    mem_admitLinkedRows.mpr (Or.inr (Dict.mem_set.mpr (Or.inl rfl)))
  unfold audiencesIn
  rw [mem_foldl_setDefault, mem_admitRows main, mem_admitLinkedRows, Database.mem_allLinkedGroups]
  constructor
  · rintro (⟨lb, body, -, linked⟩ | ⟨row, member, rfl⟩ | first)
    · exact Or.inr ⟨lb, body, linked⟩
    · exact Or.inr (Database.linked_of_row member)
    · exact Or.inl ((Dict.mem_set.mp first).resolve_right (Dict.not_mem_empty g))
  · rintro (rfl | ⟨lb, body, linked⟩)
    · exact Or.inr (Or.inr (Dict.mem_set.mpr (Or.inl rfl)))
    · -- the constraint links a body on both columns or on neither
      have pair := valid.bodies.linkedPair lb body
      refine Or.inl ⟨lb, body, ?_, linked⟩
      rcases linked with leader | plain
      · rw [leader]
        rfl
      · rw [plain, Option.isNone_some] at pair
        simpa using pair

/-! ### What each read answers for a group -/

theorem entitled_of_rows : (∃ row ∈ db.linkedLeaderRows ++ db.linkedMemberRows, row.groupEmail = g ∧
      Admits statuses row.toDesiredRow key) ↔
    ∃ row ∈ db.oneLinkedGroupRows g, Admits statuses row key := by
  constructor
  · rintro ⟨row, member, rfl, admits⟩
    refine ⟨row.toDesiredRow, ?_, admits⟩
    rw [Database.mem_oneLinkedGroupRows]
    rcases List.mem_append.mp member with leader | plain
    · obtain ⟨bm, held, role, lb, body, link, column, rest⟩ := Database.mem_linkedRows.mp leader
      exact ⟨bm, held, lb, body, link, by simp [Database.holdsGroup, role, column], rest⟩
    · obtain ⟨bm, held, role, lb, body, link, column, rest⟩ := Database.mem_linkedRows.mp plain
      exact ⟨bm, held, lb, body, link, by simp [Database.holdsGroup, role, column], rest⟩
  · rintro ⟨row, member, admits⟩
    obtain ⟨bm, held, lb, body, link, holds, rest⟩ := Database.mem_oneLinkedGroupRows.mp member
    simp only [Database.holdsGroup, Bool.or_eq_true, Bool.and_eq_true, decide_eq_true_eq] at holds
    refine ⟨⟨row, g⟩, List.mem_append.mpr ?_, rfl, admits⟩
    refine holds.imp (fun leader => ?_) fun plain => ?_
    · exact Database.mem_linkedRows.mpr ⟨bm, held, leader.1, lb, body, link, leader.2, rest⟩
    · exact Database.mem_linkedRows.mpr ⟨bm, held, plain.1, lb, body, link, plain.2, rest⟩

/-- The linked rows of an address are rows of members in good standing, so the main group gains
nothing from them. -/
theorem admitted_of_linked (linked : ∃ row ∈ db.oneLinkedGroupRows g, Admits statuses row key) :
    ∃ row ∈ db.goodStandingRows, Admits statuses row key := by
  obtain ⟨row, member, admits⟩ := linked
  obtain ⟨-, -, -, -, -, -, m, present, -, fit, same⟩ := Database.mem_oneLinkedGroupRows.mp member
  exact ⟨row, Database.mem_goodStandingRows.mpr ⟨m, present, fit, same⟩, admits⟩

theorem mem_at_iff_reread :
    key ∈ (audiencesIn statuses db mainGroupEmail).at g ↔
      key ∈ desiredForGroup statuses db g mainGroupEmail := by
  rw [mem_audiencesIn, entitled_of_rows, mem_desiredForGroup]
  by_cases main : g = mainGroupEmail
  · rw [if_pos main, eq_true main, true_and]
    exact or_iff_left_of_imp admitted_of_linked
  · rw [if_neg main, eq_false main, false_and, false_or]

/-- The address is the target of a member in good standing, not banned, whom a link of the group
admits. -/
def Entitled (statuses : EmailStatuses) (db : Database) (mainGroupEmail g : Email) (key : Str) :
    Prop :=
  ∃ m ∈ db.members, m.standing = .goodStanding ∧ db.banned m.id = false ∧
    db.LinkAdmits mainGroupEmail g m ∧
    isExample (syncTarget m.addresses statuses) = false ∧
      casefold (syncTarget m.addresses statuses) = key

theorem mem_reread_iff_entitled :
    key ∈ desiredForGroup statuses db g mainGroupEmail ↔
      Entitled statuses db mainGroupEmail g key := by
  rw [mem_desiredForGroup]
  constructor
  · rintro ⟨row, member, admits⟩
    split at member
    · rename_i main
      obtain ⟨m, present, fit, rfl⟩ := Database.mem_goodStandingRows.mp member
      obtain ⟨standing, unbanned⟩ := Database.eligible_iff.mp fit
      exact ⟨m, present, standing, unbanned, Or.inl main, admits⟩
    · obtain ⟨bm, held, lb, body, link, holds, m, present, same, fit, rfl⟩ :=
        Database.mem_oneLinkedGroupRows.mp member
      obtain ⟨standing, unbanned⟩ := Database.eligible_iff.mp fit
      simp only [Database.holdsGroup, Bool.or_eq_true, Bool.and_eq_true, decide_eq_true_eq] at holds
      exact ⟨m, present, standing, unbanned, Or.inr ⟨bm, held, same.symm, lb, body, link, holds⟩,
        admits⟩
  · rintro ⟨m, present, standing, unbanned, link, admits⟩
    have fit := Database.eligible_iff.mpr ⟨standing, unbanned⟩
    refine ⟨Database.desiredRow m, ?_, admits⟩
    split
    · exact Database.mem_goodStandingRows.mpr ⟨m, present, fit, rfl⟩
    · rename_i other
      obtain ⟨bm, held, same, lb, body, link, holds⟩ := link.resolve_left other
      refine Database.mem_oneLinkedGroupRows.mpr ⟨bm, held, lb, body, link, ?_, m, present,
        same.symm, fit, rfl⟩
      simpa [Database.holdsGroup] using holds

end

/-- The map has the main group and every linked address for keys, and its addresses, the re-read's
and the entitled ones are the same for each. -/
structure ReadsAgree (statuses : EmailStatuses) (db : Database) (mainGroupEmail : Email) :
    Prop where
  keys : ∀ g, g ∈ audiencesIn statuses db mainGroupEmail ↔ g = mainGroupEmail ∨ db.Linked g
  reread : ∀ g ∈ audiencesIn statuses db mainGroupEmail, ∀ key,
    key ∈ (audiencesIn statuses db mainGroupEmail).at g ↔
      key ∈ desiredForGroup statuses db g mainGroupEmail
  entitled : ∀ g ∈ audiencesIn statuses db mainGroupEmail, ∀ key,
    key ∈ desiredForGroup statuses db g mainGroupEmail ↔ Entitled statuses db mainGroupEmail g key

theorem audience_reads_agree {statuses : EmailStatuses} {db : Database} {mainGroupEmail : Email}
    (valid : db.Valid) : ReadsAgree statuses db mainGroupEmail :=
  ⟨fun _ => mem_audiences_keys valid, fun _ _ _ => mem_at_iff_reread, fun _ _ _ =>
    mem_reread_iff_entitled⟩

/-- Two bodies share an address across the columns, and the second's leader address is the main
group's. -/
def sharedLinks : Database :=
  { Database.empty with
    members := [plainMember 0 (str "Ana@pdx.org"), plainMember 1 (str "bo@pdx.org")]
    leadershipBodies := [
      ⟨2, str "Steering", str "Committee", some (str "shared@pdx.org"),
        some (str "steering@pdx.org")⟩,
      ⟨3, str "Tenants", str "Committee", some (str "everyone@pdx.org"),
        some (str "shared@pdx.org")⟩]
    bodyMemberships := [⟨0, 2, .leader, none, none⟩, ⟨1, 3, .member, none, none⟩]
    nextId := 4 }

theorem audience_reads_agree_shared :
    ReadsAgree ⟨[], Dict.empty, []⟩ sharedLinks (str "everyone@pdx.org") ∧
      ((audiencesIn ⟨[], Dict.empty, []⟩ sharedLinks (str "everyone@pdx.org")).at
        (str "shared@pdx.org")).keys = [str "ana@pdx.org", str "bo@pdx.org"] := by
  have valid : sharedLinks.Valid := by
    constructor <;> constructor <;> decide
  exact ⟨audience_reads_agree valid, by decide +kernel⟩

end Rosadmin
