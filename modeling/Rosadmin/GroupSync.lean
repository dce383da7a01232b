import Rosadmin.Foundation.Dict
import Rosadmin.Membership.Source

/-!
# The Google boundary

Which address a member is mirrored under, what one membership call can answer,
and the ports a sweep or a write endpoint calls through. A port threads a state
`σ`, so that an implementation may answer anything at every call.
-/

namespace Rosadmin
open Foundation

def exampleDomain : Str := str "@example.com"

def isExample (address : Email) : Bool := endsWith (lower address) exampleDomain

structure SyncAddresses where
  email : Email
  alternateEmail : Option Email
  deriving DecidableEq

/-- What Google last said about each address it has been offered, keyed lowercase. -/
structure EmailStatuses where
  accepted : List Str
  refusedAt : Dict Str Time
  live : List Str

def EmailStatuses.lapsed (statuses : EmailStatuses) : List Str :=
  statuses.refusedAt.keys.filter (fun a => a ∉ statuses.live)

def candidates (primary : Email) (alternate : Option Email) : List Email :=
  match alternate with
  | none => [primary]
  | some a =>
    if lower a = lower primary then [primary]
    else if isExample a then [primary]
    else if endsWith (lower a) (str "@gmail.com") then [a, primary]
    else [primary, a]

/-- `min` by the time of the refusal, from `best` on: the first of the oldest. It is only reached
when every candidate has one. -/
def oldestRefusal (statuses : EmailStatuses) (best : Email) : List Email → Email
  | [] => best
  | a :: rest =>
    if (statuses.refusedAt.get? (lower a)).getD 0 < (statuses.refusedAt.get? (lower best)).getD 0
    then oldestRefusal statuses a rest else oldestRefusal statuses best rest

/-- The address a Google membership operation targets for this member. -/
def syncTarget (row : SyncAddresses) (statuses : EmailStatuses) : Email :=
  if isExample row.email then row.email
  else
    let offered := candidates row.email row.alternateEmail
    match offered.find? (fun a => lower a ∈ statuses.accepted) with
    | some a => a
    | none => match offered.find? (fun a => lower a ∉ statuses.refusedAt) with
      | some a => a
      | none => match offered with
        | [] => row.email
        | a :: rest => oldestRefusal statuses a rest

theorem candidates_subset {primary : Email} {alternate : Option Email} {a : Email}
    (member : a ∈ candidates primary alternate) : a = primary ∨ alternate = some a := by
  unfold candidates at member
  split at member
  · exact Or.inl (List.mem_singleton.mp member)
  · split at member
    · exact Or.inl (List.mem_singleton.mp member)
    split at member
    · exact Or.inl (List.mem_singleton.mp member)
    split at member <;> · simp only [List.mem_cons, List.not_mem_nil, or_false] at member; aesop

theorem oldestRefusal_mem (statuses : EmailStatuses) (best : Email) (rest : List Email) :
    oldestRefusal statuses best rest = best ∨ oldestRefusal statuses best rest ∈ rest := by
  induction rest generalizing best with
  | nil => exact Or.inl rfl
  | cons a rest ih =>
    rw [oldestRefusal]
    split
    · rcases ih a with same | member
      · exact Or.inr (by rw [same]; exact List.mem_cons_self)
      · exact Or.inr (List.mem_cons_of_mem _ member)
    · exact (ih best).imp_right (List.mem_cons_of_mem _)

theorem syncTarget_mem (row : SyncAddresses) (statuses : EmailStatuses) :
    syncTarget row statuses = row.email ∨ row.alternateEmail = some (syncTarget row statuses) := by
  unfold syncTarget
  split
  · exact Or.inl rfl
  dsimp only
  split
  · rename_i a found
    exact candidates_subset (List.mem_of_find?_eq_some found)
  split
  · rename_i a found
    exact candidates_subset (List.mem_of_find?_eq_some found)
  split
  · exact Or.inl rfl
  · rename_i a rest offered
    have member : oldestRefusal statuses a rest ∈ candidates row.email row.alternateEmail := by
      rw [offered]
      exact List.mem_cons.mpr (oldestRefusal_mem statuses a rest)
    exact candidates_subset member

theorem candidates_ne_nil (primary : Email) (alternate : Option Email) :
    candidates primary alternate ≠ [] := by
  unfold candidates
  split
  · exact List.cons_ne_nil _ _
  · split_ifs <;> exact List.cons_ne_nil _ _

theorem syncTarget_candidate {row : SyncAddresses} (real : isExample row.email = false)
    (statuses : EmailStatuses) :
    syncTarget row statuses ∈ candidates row.email row.alternateEmail := by
  rw [syncTarget, if_neg (by simp [real])]
  dsimp only
  split
  · rename_i a found
    exact List.mem_of_find?_eq_some found
  split
  · rename_i a found
    exact List.mem_of_find?_eq_some found
  split
  · rename_i none
    exact absurd none (candidates_ne_nil _ _)
  · rename_i a rest offered
    rw [offered]
    exact List.mem_cons.mpr (oldestRefusal_mem statuses a rest)

/-! ### Outcomes -/

inductive SyncOutcome where
  | applied | skippedUnlinked | skippedExampleEmail | skippedDryRun | alreadyConverged
      | noGoogleAccount
  | addressNotFound | failed
  deriving DecidableEq, Repr

namespace SyncOutcome

def value : SyncOutcome → Str
  | applied => str "applied"
  | skippedUnlinked => str "skipped_unlinked"
  | skippedExampleEmail => str "skipped_example_email"
  | skippedDryRun => str "skipped_dry_run"
  | alreadyConverged => str "already_converged"
  | noGoogleAccount => str "no_google_account"
  | addressNotFound => str "address_not_found"
  | failed => str "failed"

def unmirrorable : SyncOutcome → Bool
  | noGoogleAccount | addressNotFound => true
  | _ => false

def accepted : SyncOutcome → Bool
  | applied | alreadyConverged => true
  | _ => false

def skipped : SyncOutcome → Bool
  | skippedUnlinked | skippedExampleEmail | skippedDryRun => true
  | _ => false

end SyncOutcome

structure HttpError where
  statusCode : Nat
  reasons : List (Option Str)
  deriving DecidableEq

inductive GroupsPermissionLevel where
  | owner | manager | member | other
  deriving DecidableEq

structure GroupMemberEntry where
  email : Str
  permissionLevel : GroupsPermissionLevel
  status : Option Str
  type : Option Str
  deriving DecidableEq

structure GroupSync (σ : Type) where
  add : Option Email → Email → σ → SyncOutcome × σ
  remove : Option Email → Email → σ → SyncOutcome × σ

structure GroupLister (σ : Type) where
  list : Email → σ → Except HttpError (List GroupMemberEntry) × σ
  groupExists : Email → σ → Except HttpError Bool × σ

end Rosadmin
