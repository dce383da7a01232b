import Rosadmin.Db.Desired

/-!
# What a ban keeps out of the desired sets

A ban drops a member's row; the desired sets are keyed by address. So a banned
address stays out exactly when no other member brings it back in.
-/

namespace Rosadmin
open Foundation

def sweepKey (statuses : EmailStatuses) (m : MembersRow) : Str :=
  casefold (syncTarget m.addresses statuses)

/-- No desired set of the sweep holds the key. -/
def KeptOut (statuses : EmailStatuses) (db : Database) (mainGroupEmail : Email) (key : Str) :
    Prop :=
  (∀ g, key ∉ (audiencesIn statuses db mainGroupEmail).at g) ∧
    ∀ g, key ∉ desiredForGroup statuses db g mainGroupEmail

/-- A member the sweep places resolves to the key. -/
def Placed (statuses : EmailStatuses) (db : Database) (key : Str) : Prop :=
  ∃ m ∈ db.members, db.eligible m = true ∧ isExample (syncTarget m.addresses statuses) = false ∧
    sweepKey statuses m = key

section
variable {statuses : EmailStatuses} {db : Database} {mainGroupEmail : Email} {key : Str}

theorem placed_of_row {row : DesiredRow}
    (source : ∃ m ∈ db.members, db.eligible m = true ∧ Database.desiredRow m = row)
    (admits : Admits statuses row key) : Placed statuses db key := by
  obtain ⟨m, member, fit, rfl⟩ := source
  exact ⟨m, member, fit, admits⟩

theorem placed_of_audience {g : Email}
    (desired : key ∈ (audiencesIn statuses db mainGroupEmail).at g) : Placed statuses db key := by
  rcases mem_audiencesIn.mp desired with ⟨-, row, member, admits⟩ | ⟨row, member, -, admits⟩
  · exact placed_of_row (Database.mem_goodStandingRows.mp member) admits
  · exact placed_of_row (Database.eligible_of_linkedRow member) admits

theorem placed_of_group {g : Email} (desired : key ∈ desiredForGroup statuses db g mainGroupEmail) :
    Placed statuses db key := by
  obtain ⟨row, member, admits⟩ := mem_desiredForGroup.mp desired
  split at member
  · exact placed_of_row (Database.mem_goodStandingRows.mp member) admits
  · obtain ⟨-, -, -, -, -, -, m, present, -, fit, same⟩ := Database.mem_oneLinkedGroupRows.mp member
    exact placed_of_row ⟨m, present, fit, same⟩ admits

theorem main_of_placed (placed : Placed statuses db key) :
    key ∈ desiredForGroup statuses db mainGroupEmail mainGroupEmail := by
  obtain ⟨m, member, fit, admits⟩ := placed
  refine mem_desiredForGroup.mpr ⟨Database.desiredRow m, ?_, admits⟩
  rw [if_pos rfl]
  exact Database.mem_goodStandingRows.mpr ⟨m, member, fit, rfl⟩

theorem keptOut_iff : KeptOut statuses db mainGroupEmail key ↔ ¬Placed statuses db key :=
  ⟨fun out placed => out.2 mainGroupEmail (main_of_placed placed),
    fun free => ⟨fun _ desired => free (placed_of_audience desired), fun _ desired =>
      free (placed_of_group desired)⟩⟩

/-- A ban keeps its member's address out of every desired set exactly when no other member who is in
good standing and not banned resolves to the same address. -/
theorem ban_keeps_out_iff {m : MembersRow} (ban : db.banned m.id = true) :
    KeptOut statuses db mainGroupEmail (sweepKey statuses m) ↔
      ∀ other ∈ db.members, other.id ≠ m.id → other.standing = .goodStanding →
        db.banned other.id = false →
        isExample (syncTarget other.addresses statuses) = false →
          sweepKey statuses other ≠ sweepKey statuses m := by
  rw [keptOut_iff]
  constructor
  · intro free other member _ standing unbanned real same
    exact free ⟨other, member, Database.eligible_iff.mpr ⟨standing, unbanned⟩, real, same⟩
  · rintro alone ⟨other, member, fit, real, same⟩
    obtain ⟨standing, unbanned⟩ := Database.eligible_iff.mp fit
    have different : other.id ≠ m.id := by
      intro equal
      rw [equal, ban] at unbanned
      cases unbanned
    exact alone other member different standing unbanned real same

end

/-! ### Two rows, one mailbox -/

def noStatuses : EmailStatuses := ⟨[], Dict.empty, []⟩

def everyone : Email := str "everyone@pdx.org"

def caseTwins : Database :=
  { Database.empty with
    members := [plainMember 0 (str "flowery@pdx.org"), plainMember 1 (str "Flowery@pdx.org")]
    memberBans := [⟨0, 0, str "asked to leave"⟩]
    nextId := 2 }

theorem banned_twin_stays_desired : caseTwins.Valid ∧ caseTwins.banned 0 = true ∧
    ¬KeptOut noStatuses caseTwins everyone
      (sweepKey noStatuses (plainMember 0 (str "flowery@pdx.org"))) := by
  refine ⟨by constructor <;> constructor <;> decide, by decide, fun out => out.2 everyone ?_⟩
  decide

theorem ban_keeps_out_alone :
    let db := { caseTwins with members := [plainMember 0 (str "flowery@pdx.org"),
      plainMember 1 (str "susie@pdx.org")] }
    KeptOut noStatuses db everyone (sweepKey noStatuses (plainMember 0 (str "flowery@pdx.org"))) :=
  (ban_keeps_out_iff (m := plainMember 0 (str "flowery@pdx.org")) (by decide)).mpr (by decide)

end Rosadmin
