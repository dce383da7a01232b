import Rosadmin.Db.EmailStatus
import Rosadmin.Sweep.Plan

/-!
# Applying one group's plan

The add loop with its presence question, the closing question, the removes, and
the four ways out. The ports thread a state, so that whatever they answer may
depend on everything asked before.
-/

namespace Rosadmin
open Foundation

structure GroupOutcome where
  groupEmail : Email
  plannedAdds : Nat
  plannedRemoves : Nat
  applied : Nat
  alreadyConverged : Nat
  skipped : Nat
  excluded : Nat
  unmirrorable : Nat
  refused : Nat
  failed : Int
  deriving DecidableEq

/-- An audit row of the sweep: its actor is always the sweep itself. -/
inductive AuditEvent where
  | sweepMemberAdded (subject : UUID) (group : Email)
  | sweepMemberRemoved (group : Email)

/-- Everything outside the sweep. `pool` answers what the tables hold at that moment. -/
structure Ports (σ : Type) where
  sync : GroupSync σ
  lister : GroupLister σ
  audit : AuditEvent → σ → σ
  pool : σ → Database × σ

/-- What Google says about a group when an insert's 404 makes it matter. -/
inductive Presence where
  | present | gone | unknown
  deriving DecidableEq, Repr

def Presence.ofAnswer : Except HttpError Bool → Presence
  | .ok true => .present
  | .ok false => .gone
  | .error _ => .unknown

/-- `tally[outcome]` summed over the outcomes that satisfy `p`. -/
def tallied (tally : List SyncOutcome) (p : SyncOutcome → Bool) : Nat := tally.countP p

section
variable {σ : Type}

def presenceOf (lister : GroupLister σ) (groupEmail : Email) (port : σ) : Presence × σ :=
  let (found, port) := lister.groupExists groupEmail port
  (.ofAnswer found, port)

structure AddLoop (σ : Type) where
  tally : List SyncOutcome
  presence : Option Presence
  found : List Refusal
  unmirrorable : List Str
  accepted : List Email
  port : σ

variable (ports : Ports σ) (plan : GroupPlan)

def settleAdd (add : PlannedAdd) (outcome : SyncOutcome) (l : AddLoop σ) : AddLoop σ :=
  let l := { l with tally := l.tally ++ [outcome] }
  let l := if outcome.accepted then { l with accepted := l.accepted.insert add.address } else l
  if outcome = .applied then
    { l with port := ports.audit (.sweepMemberAdded add.memberId plan.groupEmail) l.port }
  else if outcome.unmirrorable then
    { l with
      found := l.found ++ [⟨add.address, add.memberId, plan.groupEmail, outcome⟩]
      unmirrorable := l.unmirrorable.insert (casefold add.address) }
  else l

section
variable (add : PlannedAdd) (outcome : SyncOutcome) (l : AddLoop σ)

@[simp] theorem settleAdd_tally : (settleAdd ports plan add outcome l).tally = l.tally ++
    [outcome] := by
  cases outcome <;> rfl

@[simp] theorem settleAdd_presence :
    (settleAdd ports plan add outcome l).presence = l.presence := by
  cases outcome <;> rfl

@[simp] theorem settleAdd_found : (settleAdd ports plan add outcome l).found =
    if outcome.unmirrorable then l.found ++ [⟨add.address, add.memberId, plan.groupEmail, outcome⟩]
      else l.found := by
  cases outcome <;> rfl

@[simp] theorem settleAdd_unmirrorable : (settleAdd ports plan add outcome l).unmirrorable =
    if outcome.unmirrorable then l.unmirrorable.insert (casefold add.address)
      else l.unmirrorable := by
  cases outcome <;> rfl

@[simp] theorem settleAdd_accepted : (settleAdd ports plan add outcome l).accepted =
    if outcome.accepted then l.accepted.insert add.address else l.accepted := by
  cases outcome <;> rfl

@[simp] theorem settleAdd_port : (settleAdd ports plan add outcome l).port =
    if outcome = .applied then ports.audit (.sweepMemberAdded add.memberId plan.groupEmail) l.port
      else l.port := by
  cases outcome <;> rfl

end

def askOnce (presence : Option Presence) (port : σ) : Presence × σ :=
  match presence with
  | some known => (known, port)
  | none => presenceOf ports.lister plan.groupEmail port

/-- A 404 read with what Google says about the group. The error is the early way out: the group is
gone. -/
def readMissing (l : AddLoop σ) (add : PlannedAdd) (heard : Presence × σ) :
    Except (AddLoop σ) (AddLoop σ) :=
  let l := { l with presence := some heard.1, port := heard.2 }
  match heard.1 with
  | .gone => .error l
  -- The 404 may have been about the group.
  | .unknown => .ok { l with tally := l.tally ++ [.failed] }
  | .present => .ok (settleAdd ports plan add .addressNotFound l)

def applyAdd (l : AddLoop σ) (add : PlannedAdd) : Except (AddLoop σ) (AddLoop σ) :=
  let (outcome, port) := ports.sync.add (some plan.groupEmail) add.address l.port
  if outcome = .addressNotFound then readMissing ports plan l add
    (askOnce ports plan l.presence port)
  else .ok (settleAdd ports plan add outcome { l with port })

def applyAdds (adds : List PlannedAdd) (l : AddLoop σ) : Except (AddLoop σ) (AddLoop σ) :=
  adds.foldlM (applyAdd ports plan) l

/-- The adds are believed only if the group is still there when a 404 among them was. -/
def confirmAdds (l : AddLoop σ) : Except (AddLoop σ) (AddLoop σ) :=
  if l.found.any (·.outcome = .addressNotFound) then
    let (presence, port) := presenceOf ports.lister plan.groupEmail l.port
    let l := { l with presence := some presence, port }
    if presence = .present then .ok l else .error l
  else .ok l

structure RemoveLoop (σ : Type) where
  tally : List SyncOutcome
  converged : Nat
  port : σ

def applyRemove (l : RemoveLoop σ) (address : Email) : RemoveLoop σ :=
  let (outcome, port) := ports.sync.remove (some plan.groupEmail) address l.port
  let l := { l with tally := l.tally ++ [outcome], port }
  if outcome = .applied then { l with
    port := ports.audit (.sweepMemberRemoved plan.groupEmail) l.port }
  else if outcome = .alreadyConverged then { l with converged := l.converged + 1 }
  else l

def abandoned (tally : List SyncOutcome) : GroupOutcome :=
  let applied := tallied tally (· = .applied)
  let converged := tallied tally (· = .alreadyConverged)
  let skipped := tallied tally SyncOutcome.skipped
  let unmirrorable := tallied tally SyncOutcome.unmirrorable
  { groupEmail := plan.groupEmail, plannedAdds := plan.adds.length,
    plannedRemoves := plan.removes.length, applied, alreadyConverged := converged, skipped,
    excluded := plan.excluded.length, unmirrorable, refused := plan.refusedRemoves,
    failed := plan.adds.length - (applied + converged + skipped + unmirrorable : Nat) +
      plan.removes.length }

/-- The outcome when every removal answered that the member was already gone, and the group is gone
too. -/
def vanished (tally : List SyncOutcome) : GroupOutcome :=
  { groupEmail := plan.groupEmail, plannedAdds := plan.adds.length,
    plannedRemoves := plan.removes.length, applied := 0,
    alreadyConverged := 0, skipped := tallied tally SyncOutcome.skipped,
    excluded := plan.excluded.length,
    unmirrorable := 0, refused := plan.refusedRemoves, failed := plan.removes.length }

def completed (tally : List SyncOutcome) : GroupOutcome :=
  { groupEmail := plan.groupEmail, plannedAdds := plan.adds.length,
    plannedRemoves := plan.removes.length,
    applied := tallied tally (· = .applied),
    alreadyConverged := tallied tally (· = .alreadyConverged),
    skipped := tallied tally SyncOutcome.skipped, excluded := plan.excluded.length,
    unmirrorable := tallied tally SyncOutcome.unmirrorable, refused := plan.refusedRemoves,
    failed := tallied tally (· = .failed) }

def applyRemoves (tally : List SyncOutcome) (port : σ) : GroupOutcome × σ :=
  let l := plan.removes.foldl (applyRemove ports plan) ⟨tally, 0, port⟩
  if plan.removes ≠ [] ∧ l.converged = plan.removes.length ∧ tallied l.tally (· = .applied) = 0 then
    let (presence, port) := presenceOf ports.lister plan.groupEmail l.port
    (if presence = .gone then vanished plan l.tally else completed plan l.tally, port)
  else (completed plan l.tally, l.port)

structure Applied (σ : Type) where
  outcome : GroupOutcome
  unmirrorable : List Str
  refusals : List Refusal
  accepted : List Email
  port : σ

def loopStart (unmirrorable : List Str) (accepted : List Email) (port : σ) : AddLoop σ :=
  ⟨[], none, [], unmirrorable, accepted, port⟩

/-- What follows the adds: nothing for a group Google could not vouch for, else the removes. -/
def finish (refusals : List Refusal) : Except (AddLoop σ) (AddLoop σ) → Applied σ
  | .error l => ⟨abandoned plan l.tally, l.unmirrorable, refusals, l.accepted, l.port⟩
  | .ok l =>
    let rest := applyRemoves ports plan l.tally l.port
    ⟨rest.1, l.unmirrorable, refusals ++ l.found, l.accepted, rest.2⟩

def apply (unmirrorable : List Str) (refusals : List Refusal) (accepted : List Email) (port : σ) :
    Applied σ :=
  finish ports plan refusals
    (applyAdds ports plan plan.adds (loopStart unmirrorable accepted port) >>=
      confirmAdds ports plan)

end

end Rosadmin
