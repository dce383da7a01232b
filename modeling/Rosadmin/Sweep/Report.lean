import Rosadmin.Roster.Pull
import Rosadmin.Sweep.Provision
import Rosadmin.Sweep.Run

/-!
# The report of a run

What a locked sweep answers once it has read the statuses, and what makes it
red.
-/

namespace Rosadmin
open Foundation

def RefusalReport.hasFailures (report : RefusalReport) : Bool :=
  0 < report.refused || report.recorded < report.received - report.refused

def ProvisionReport.hasFailures (report : ProvisionReport) : Bool :=
  0 < report.failed || 0 < report.refusedOverCap

structure SweepReport where
  pull : Option PullReport
  groups : List GroupOutcome
  listerAvailable : Bool
  provision : Option ProvisionReport
  refusals : Option RefusalReport

def SweepReport.hasFailures (report : SweepReport) : Bool :=
  report.provision.any ProvisionReport.hasFailures ||
    report.refusals.any RefusalReport.hasFailures ||
    report.groups.any (fun g => 0 < g.failed || 0 < g.refused)

/-- What a sweep leaves: its report, the statuses and everything outside. -/
structure Swept (σ : Type) where
  report : SweepReport
  store : StatusStore
  port : σ

section
variable {σ : Type} (ports : Ports σ) (writer : StatusWriter σ) (mainGroupEmail : Email)
    (allowMassRemoval dryRun : Bool)

/-- The locked sweep with a lister, from the moment it reads the statuses: the audiences of one
snapshot, group by group, and the two writes. -/
def sweepLocked (pull : Option PullReport) (provision : Option ProvisionReport)
    (store : StatusStore) (now : Time) (port : σ) : Swept σ :=
  let statuses := emailStatuses store now
  let (db, port) := ports.pool port
  let run := sweepAudiences ports mainGroupEmail statuses allowMassRemoval
    (audiencesIn statuses db mainGroupEmail) port
  let closed := closeRun statuses writer dryRun run store
  { report :=
      { pull, groups := run.outcomes, listerAvailable := true, provision,
        refusals := some closed.1 }
    store := closed.2.1
    port := closed.2.2 }

end

theorem hasFailures_of_group {report : SweepReport} {outcome : GroupOutcome}
    (listed : outcome ∈ report.groups) (failed : 0 < outcome.failed) :
    report.hasFailures = true := by
  have red : report.groups.any (fun g => 0 < g.failed || 0 < g.refused) = true :=
    List.any_eq_true.mpr ⟨outcome, listed, by simp [failed]⟩
  rw [SweepReport.hasFailures, red, Bool.or_true]

end Rosadmin
