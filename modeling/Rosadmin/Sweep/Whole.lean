import Rosadmin.Sweep.Report

/-!
# A whole run

The lock, the pull, the provisioning and the locked sweep, over the tables a run
may write and whatever lies outside them. One group's trouble with Google ends
up in a count everywhere but in one place: the existence reads that size the
creations are not caught.
-/

namespace Rosadmin
open Foundation

inductive AuditRow where
  | sweep (event : AuditEvent)
  | rosterAccountMerged (duplicateMemberId : UUID)

/-- The tables a run may write, and what lies outside them. -/
structure Deployment (γ : Type) where
  db : Database
  bootstrappedGroupProvisioning : Bool
  googleEmailStatus : StatusStore
  auditLog : List AuditRow
  outside : γ

inductive SweepFailure where
  | sweepAlreadyRunning
  | source
  | database (error : DbError)
  | rosterPullUnsafe (lapseRefused : Nat)
  | google (failure : Failure)
  deriving DecidableEq

/-- What a run is given. The source is the roster it answers, or none where it fails. -/
structure Wiring (γ : Type) where
  source : Option (Option (List Member))
  lister : Option (GroupLister γ)
  sync : GroupSync γ
  /-- What a best-effort write makes of the audit log. -/
  audit : AuditRow → List AuditRow → List AuditRow
  writer : StatusWriter γ
  mainGroupEmail : Email
  provisioner : Option (GroupProvisioner γ)
  provision : Option ProvisionConfig
  allowMassRemoval : Bool
  dryRun : Bool
  server : Server
  locale : Locale

section
variable {γ : Type}

/-- A call to the outside, beside the audit log. -/
def aside {α : Type} (call : γ → α × γ) (port : γ × List AuditRow) : α × γ × List AuditRow :=
  ((call port.1).1, (call port.1).2, port.2)

variable (wiring : Wiring γ)

/-- The ports of the sweep over its audiences. Nobody else writes the tables meanwhile. -/
def Wiring.ports (lister : GroupLister γ) (db : Database) : Ports (γ × List AuditRow) where
  sync :=
    { add := fun groupEmail memberEmail => aside (wiring.sync.add groupEmail memberEmail)
      remove := fun groupEmail memberEmail => aside (wiring.sync.remove groupEmail memberEmail) }
  lister :=
    { list := fun groupEmail => aside (lister.list groupEmail)
      groupExists := fun groupEmail => aside (lister.groupExists groupEmail) }
  audit := fun event port => (port.1, wiring.audit (.sweep event) port.2)
  pool := fun port => (db, port)

def Wiring.statusWriter : StatusWriter (γ × List AuditRow) :=
  ⟨fun address status => aside (wiring.writer.write address status)⟩

/-- `pull_roster`: a merge is audited once the pull has committed. -/
def pullRoster (members : List Member) (d : Deployment γ) :
    Except SweepFailure PullReport × Deployment γ :=
  match pullIn wiring.server members wiring.dryRun d.db with
  | .error error => (.error (.database error), d)
  | .ok (report, db) =>
    let auditLog := report.merges.foldl (fun log merge =>
      wiring.audit (.rosterAccountMerged merge.duplicateMemberId) log)
      d.auditLog
    (.ok report, { d with db, auditLog })

def pullStage (d : Deployment γ) : Except SweepFailure (Option PullReport) × Deployment γ :=
  match wiring.source with
  | none => (.ok none, d)
  | some none => (.error .source, d)
  | some (some members) =>
    andThen (pullRoster wiring members d) fun report d =>
      if 0 < report.lapseRefused then (.error (.rosterPullUnsafe report.lapseRefused), d)
        else (.ok (some report), d)

/-- Without a provisioner the groups are only named in the log. -/
def provisionStage (d : Deployment γ) :
    Except SweepFailure (Option ProvisionReport) × Deployment γ :=
  match wiring.provisioner, wiring.provision with
  | some provisioner, some config =>
    let done := provision provisioner wiring.locale config wiring.mainGroupEmail wiring.dryRun d.db
      d.bootstrappedGroupProvisioning d.outside
    ((done.report.map some).mapError .google,
      { d with
        db := done.db, bootstrappedGroupProvisioning := done.bootstrapped, outside := done.port })
  | _, _ => (.ok none, d)

def reconcileStage (now : Time) (pull : Option PullReport) (provision : Option ProvisionReport)
    (d : Deployment γ) : SweepReport × Deployment γ :=
  match wiring.lister with
  | none => ({ pull, groups := [], listerAvailable := false, provision, refusals := none }, d)
  | some lister =>
    let swept := sweepLocked (wiring.ports lister d.db) wiring.statusWriter wiring.mainGroupEmail
      wiring.allowMassRemoval wiring.dryRun pull provision d.googleEmailStatus now
      (d.outside, d.auditLog)
    (swept.report, { d with
      googleEmailStatus := swept.store, outside := swept.port.1, auditLog := swept.port.2 })

/-- `run_sweep`. `locked` says that another run holds the lock, and `now` when the statuses are
read. -/
def runSweep (locked : Bool) (now : Time) (d : Deployment γ) :
    Except SweepFailure SweepReport × Deployment γ :=
  if locked then (.error .sweepAlreadyRunning, d)
  else andThen (pullStage wiring d) fun pull d =>
    andThen (provisionStage wiring d) fun provision d =>
    let reconciled := reconcileStage wiring now pull provision d
    (.ok reconciled.1, reconciled.2)

end

/-! ### One outcome for each audience -/

section
variable {σ : Type} (ports : Ports σ) (mainGroupEmail : Email) (statuses : EmailStatuses)
    (allowMassRemoval : Bool)

theorem outcome_groupEmail (plan : GroupPlan) (unmirrorable : List Str) (refusals : List Refusal)
    (accepted : List Email) (port : σ) :
    (apply ports plan unmirrorable refusals accepted port).outcome.groupEmail =
      plan.groupEmail := by
  unfold apply finish
  split
  · rfl
  · unfold applyRemoves
    dsimp only
    split
    · split <;> rfl
    · rfl

theorem sweepGroup_outcomes (s : RunState σ) (audience : Email × Audience) :
    (sweepGroup ports mainGroupEmail statuses allowMassRemoval s audience).outcomes.map
      (·.groupEmail) = s.outcomes.map (·.groupEmail) ++ [audience.1] := by
  unfold sweepGroup
  split
  · exact List.map_append
  · rename_i actual port _
    have same : (rechecked ports mainGroupEmail statuses
        (s.plan allowMassRemoval audience actual) port).1.groupEmail = audience.1 := by
      unfold rechecked
      split <;> rfl
    dsimp only
    rw [List.map_append, List.map_singleton, outcome_groupEmail, same]

theorem sweepAudiences_outcomes (audiences : Audiences) (port : σ) :
    (sweepAudiences ports mainGroupEmail statuses allowMassRemoval audiences port).outcomes.map
      (·.groupEmail) = audiences.sorted.map (·.1) := by
  have walk : ∀ (audiences : List (Email × Audience)) (s : RunState σ),
      (audiences.foldl (sweepGroup ports mainGroupEmail statuses allowMassRemoval) s).outcomes.map
        (·.groupEmail) = s.outcomes.map (·.groupEmail) ++ audiences.map (·.1) := by
    intro audiences
    induction audiences with
    | nil => exact fun s => (List.append_nil _).symm
    | cons audience audiences ih =>
      intro s
      rw [List.foldl_cons, ih, sweepGroup_outcomes, List.map_cons, List.append_assoc,
        List.singleton_append]
  exact walk audiences.sorted (.start statuses port)

end

/-! ### What a failing call costs -/

section
variable {σ : Type} (provisioner : GroupProvisioner σ)

/-- Whether each existence read is answered: that the group is there, or that it is not. -/
def existenceAnswered : List PlannedGroup → σ → Bool
  | [], _ => true
  | group :: groups, port => match provisioner.groupExists group.email port with
    | (.ok _, port) => existenceAnswered groups port
    | (.error _, _) => false

variable {provisioner}

theorem missingGroups_answered (groups : List PlannedGroup) (port : σ) :
    (missingGroups provisioner groups port).1.isOk = existenceAnswered provisioner groups port := by
  induction groups generalizing port with
  | nil => rfl
  | cons group groups ih =>
    unfold missingGroups existenceAnswered
    rcases provisioner.groupExists group.email port with ⟨found, after⟩
    cases found with
    | error failure => rfl
    | ok found =>
      dsimp only [andThen]
      rw [← ih after]
      rcases missingGroups provisioner groups after with ⟨rest, last⟩
      cases rest <;> rfl

theorem provision_isOk (provisioner : GroupProvisioner σ) (locale : Locale)
    (config : ProvisionConfig) (mainEmail : Email) (dryRun : Bool) (db : Database)
    (bootstrapped : Bool) (port : σ) :
    (provision provisioner locale config mainEmail dryRun db bootstrapped port).report.isOk =
      existenceAnswered provisioner (planPending config mainEmail (db.allBodies locale)).1
        port := by
  rw [← missingGroups_answered]
  unfold provision
  dsimp only
  rcases missingGroups provisioner (planPending config mainEmail (db.allBodies locale)).1 port
    with ⟨sized, after⟩
  cases sized with
  | error failure => rfl
  | ok toCreate =>
    dsimp only
    split <;> rfl

end

section
variable {γ : Type} (wiring : Wiring γ) (provisioner : GroupProvisioner γ)
    (config : ProvisionConfig) (lister : GroupLister γ)

/-- A run without a pull, with a provisioner and a lister. -/
def Wiring.sweeping : Wiring γ :=
  { wiring with
    source := none, provisioner := some provisioner, provision := some config, lister := some lister }

/-- The run reports, with one outcome for each audience of the tables it sweeps. -/
def ReportsEvery (now : Time) (d : Deployment γ) : Prop :=
  ∃ report after, runSweep wiring false now d = (.ok report, after) ∧
    report.groups.map (·.groupEmail) =
    (audiencesIn (emailStatuses d.googleEmailStatus now) after.db wiring.mainGroupEmail).sorted.map
      (·.1)

theorem runSweep_sweeping (now : Time) (d : Deployment γ) :
    let done := provision provisioner wiring.locale config wiring.mainGroupEmail wiring.dryRun d.db
      d.bootstrappedGroupProvisioning d.outside
    let provisioned : Deployment γ :=
      { d with db := done.db, bootstrappedGroupProvisioning := done.bootstrapped, outside := done.port }
    runSweep (wiring.sweeping provisioner config lister) false now d = match done.report with
      | .error failure => (.error (.google failure), provisioned)
      | .ok report =>
        let reconciled := reconcileStage (wiring.sweeping provisioner config lister) now none
          (some report) provisioned
        (.ok reconciled.1, reconciled.2) := by
  dsimp only
  unfold runSweep
  rw [if_neg Bool.false_ne_true]
  show andThen (provisionStage (wiring.sweeping provisioner config lister) d) _ = _
  unfold provisionStage Wiring.sweeping
  dsimp only
  generalize provision provisioner wiring.locale config wiring.mainGroupEmail wiring.dryRun d.db
    d.bootstrappedGroupProvisioning d.outside = done
  obtain ⟨report, db, bootstrapped, port⟩ := done
  cases report <;> rfl

/-- A run reports one outcome for each audience, whatever Google answers otherwise, exactly if the
existence reads of its plan are answered. -/
theorem reports_every_iff (now : Time) (d : Deployment γ) :
    ReportsEvery (wiring.sweeping provisioner config lister) now d ↔
      existenceAnswered provisioner (planPending config wiring.mainGroupEmail
        (d.db.allBodies wiring.locale)).1 d.outside = true := by
  have answered := provision_isOk provisioner wiring.locale config wiring.mainGroupEmail wiring.dryRun d.db
    d.bootstrappedGroupProvisioning d.outside
  have run := runSweep_sweeping wiring provisioner config lister now d
  rw [← answered]
  dsimp only at run
  unfold ReportsEvery
  rw [run]
  generalize provision provisioner wiring.locale config wiring.mainGroupEmail wiring.dryRun d.db
    d.bootstrappedGroupProvisioning d.outside = done
  obtain ⟨report, db, bootstrapped, port⟩ := done
  cases report with
  | error failure =>
    constructor
    · rintro ⟨report, after, failed, -⟩
      cases failed
    · intro returned
      cases returned
  | ok report =>
    refine iff_of_true ⟨_, _, rfl, ?_⟩ rfl
    exact sweepAudiences_outcomes _ _ _ _ _ _

end

/-! ### One read that fails -/

/-- Google answers everything but one existence read. -/
def unreadable (email : Email) : GroupProvisioner Unit where
  groupExists := fun asked port => (if asked = email then .error (.http ⟨503, []⟩)
    else .ok true, port)
  ensure := fun _ _ port => (.ok ⟨secureSettings, securityLabel⟩, port)

def quietLister : GroupLister Unit where
  list := fun _ port => (.ok [], port)
  groupExists := fun _ port => (.ok true, port)

def quietWiring {γ : Type} : Wiring γ where
  source := none
  lister := none
  sync := ⟨fun _ _ port => (.applied, port), fun _ _ port => (.applied, port)⟩
  audit := fun row log => log ++ [row]
  writer := ⟨fun _ _ port => (some 0, port)⟩
  mainGroupEmail := str "everyone@pdx.org"
  provisioner := none
  provision := none
  allowMassRemoval := false
  dryRun := false
  server := ⟨fun _ => none, fun _ => false, fun _ => true⟩
  locale := ⟨lower, fun a b => a ≤ b⟩

def oneUnlinked : Deployment Unit where
  db := { Database.empty with
    leadershipBodies := [⟨0, str "Steering", str "Committee", none, none⟩]
    nextId := 1 }
  bootstrappedGroupProvisioning := true
  googleEmailStatus := ⟨Dict.empty, true⟩
  auditLog := []
  outside := ()

/-- Google would not say whether the leaders' group of one body exists, and the run sweeps no group
at all. -/
theorem existence_read_uncaught :
    ¬ReportsEvery (quietWiring.sweeping (unreadable (str "steering-committee-leaders@pdx.org"))
    ⟨str "pdx.org", str "Everyone", 10⟩ quietLister) 0 oneUnlinked := by
  rintro ⟨report, after, run, -⟩
  have raised : (runSweep (quietWiring.sweeping
      (unreadable (str "steering-committee-leaders@pdx.org"))
        ⟨str "pdx.org", str "Everyone", 10⟩ quietLister) false 0 oneUnlinked).1.isOk = false := by
    decide +kernel
  rw [run] at raised
  cases raised

end Rosadmin
