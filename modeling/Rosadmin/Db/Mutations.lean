import Rosadmin.Db.Directory

/-!
# Membership writes

A claim on the body, then a write scoped to `role = 'member'`, in one
transaction.
-/

namespace Rosadmin
open Foundation

inductive ClaimOutcome where
  | inserted | alreadyPresent | isLeader
  deriving DecidableEq, Repr

inductive RemoveOutcome where
  | removed | notAMember | isLeader
  deriving DecidableEq, Repr

namespace Database
variable (db : Database) (bodyId memberId : UUID)

def atKey (row : BodyMembershipsRow) : Bool := row.memberId = memberId && row.bodyId = bodyId

def roleOf : Option Role := (db.bodyMemberships.find? (atKey bodyId memberId)).map (·.role)

/-- Insert the member row unless one is there; `none` when the body is gone. -/
def claimAndAddMember (now : Time) (addedBy : UUID) : Option ClaimOutcome × Database :=
  if db.leadershipBodies.any (·.id = bodyId) then
    if db.bodyMemberships.any (atKey bodyId memberId) then
      (some (if db.roleOf bodyId memberId = some .leader then .isLeader else .alreadyPresent), db)
    else
      (some .inserted, { db with
        bodyMemberships := db.bodyMemberships ++
          [⟨memberId, bodyId, .member, some addedBy, some now⟩] })
  else (none, db)

/-- Delete the member row; a leader row is out of reach. -/
def claimAndRemoveMember : Option RemoveOutcome × Database :=
  if db.leadershipBodies.any (·.id = bodyId) then
    if (db.bodyMemberships.countP (fun row => atKey bodyId memberId row && row.role = .member)) = 1
      then
      (some .removed, { db with
        bodyMemberships :=
          db.bodyMemberships.filter (fun row => !(atKey bodyId memberId row && row.role = .member))
          })
    else (some (if db.roleOf bodyId memberId = some .leader then .isLeader else .notAMember), db)
  else (none, db)

def hasMemberRow : Bool := db.bodyMemberships.any (fun row =>
    atKey bodyId memberId row && row.role = .member)

variable {db} {bodyId memberId}

theorem claimAndAddMember_cases {now : Time} {addedBy : UUID} {claimed : Option ClaimOutcome}
    {after : Database}
    (claim : db.claimAndAddMember bodyId memberId now addedBy = (claimed, after)) :
    (claimed = some .inserted ∧ db.bodyMemberships.any (atKey bodyId memberId) = false ∧
      after = { db with
      bodyMemberships := db.bodyMemberships ++
        [⟨memberId, bodyId, .member, some addedBy, some now⟩] }) ∨
    (claimed ≠ some .inserted ∧ after = db) := by
  rw [claimAndAddMember] at claim
  split at claim
  · split at claim
    · cases claim
      refine Or.inr ⟨?_, rfl⟩
      split <;> simp
    · rename_i free
      cases claim
      exact Or.inl ⟨rfl, Bool.eq_false_iff.mpr free, rfl⟩
  · cases claim
    exact Or.inr ⟨nofun, rfl⟩

theorem claimAndRemoveMember_cases {removed : Option RemoveOutcome} {after : Database}
    (claim : db.claimAndRemoveMember bodyId memberId = (removed, after)) :
    (removed = some .removed ∧ db.hasMemberRow bodyId memberId = true ∧ after = { db with
      bodyMemberships :=
        db.bodyMemberships.filter (fun row => !(atKey bodyId memberId row && row.role = .member))
        }) ∨
    (removed ≠ some .removed ∧ after = db) := by
  rw [claimAndRemoveMember] at claim
  split at claim
  · split at claim
    · rename_i one
      cases claim
      refine Or.inl ⟨rfl, ?_, rfl⟩
      obtain ⟨row, there, mine⟩ := List.countP_pos_iff.mp (one.symm ▸ Nat.one_pos)
      exact List.any_eq_true.mpr ⟨row, there, mine⟩
    · cases claim
      refine Or.inr ⟨?_, rfl⟩
      split <;> simp
  · cases claim
    exact Or.inr ⟨nofun, rfl⟩

end Database

end Rosadmin
