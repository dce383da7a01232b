import Rosadmin.Foundation.Runs
import Rosadmin.Sweep.Apply

/-!
# One sweep over its audiences

The loop of a locked sweep from the moment it has read the statuses, and the two
writes that close it.
-/

namespace Rosadmin
open Foundation

structure RunState (σ : Type) where
  unmirrorable : List Str
  lapsedRefusals : List Str
  retrySlots : Nat
  refusals : List Refusal
  accepted : List Email
  outcomes : List GroupOutcome
  port : σ

def unlisted (groupEmail : Email) : GroupOutcome :=
  { groupEmail, plannedAdds := 0, plannedRemoves := 0, applied := 0, alreadyConverged := 0,
    skipped := 0, excluded := 0, unmirrorable := 0, refused := 0, failed := 1 }

def RunState.start {σ : Type} (statuses : EmailStatuses) (port : σ) : RunState σ :=
  { unmirrorable := statuses.live, lapsedRefusals := statuses.lapsed, retrySlots := retriesPerRun,
    refusals := [], accepted := [], outcomes := [], port }

section
variable {σ : Type} (ports : Ports σ) (mainGroupEmail : Email) (statuses : EmailStatuses)
    (allowMassRemoval : Bool)

/-- The plan after its second look, which an empty plan is spared. -/
def rechecked (plan : GroupPlan) (port : σ) : GroupPlan × σ :=
  if plan.adds ≠ [] ∨ plan.removes ≠ [] ∨ plan.excluded ≠ [] then
    let (db, port) := ports.pool port
    (recheck plan (desiredForGroup statuses db plan.groupEmail mainGroupEmail), port)
  else (plan, port)

def RunState.plan (s : RunState σ) (audience : Email × Audience) (actual : List GroupMemberEntry) :
    GroupPlan :=
  planGroup s.unmirrorable s.lapsedRefusals s.retrySlots audience.1 audience.2 actual
    allowMassRemoval

def sweepGroup (s : RunState σ) (audience : Email × Audience) : RunState σ :=
  match ports.lister.list audience.1 s.port with
  | (.error _, port) => { s with outcomes := s.outcomes ++ [unlisted audience.1], port }
  | (.ok actual, port) =>
    let plan := s.plan allowMassRemoval audience actual
    let (fresh, port) := rechecked ports mainGroupEmail statuses plan port
    let done := apply ports fresh s.unmirrorable s.refusals s.accepted port
    { unmirrorable := done.unmirrorable
      lapsedRefusals := s.lapsedRefusals.filter (· ∉ plan.retried)
      retrySlots := s.retrySlots - plan.retried.length
      refusals := done.refusals
      accepted := done.accepted
      outcomes := s.outcomes ++ [done.outcome]
      port := done.port }

def sweepAudiences (audiences : Audiences) (port : σ) : RunState σ :=
  audiences.sorted.foldl (sweepGroup ports mainGroupEmail statuses allowMassRemoval)
    (.start statuses port)

/-- The writes that close a run: the refusals, then the addresses not already known to be
accepted. -/
def closeRun (writer : StatusWriter σ) (dryRun : Bool) (s : RunState σ) (store : StatusStore) :
    RefusalReport × StatusStore × σ :=
  let committed := commitRefusals writer s.refusals statuses.lapsed dryRun store s.port
  if dryRun then committed
  else (committed.1, rememberAccepted writer
    (s.accepted.filter (fun a => lower a ∉ statuses.accepted)) committed.2.1 committed.2.2)

end

end Rosadmin
