import Rosadmin.Foundation.SessionLock
import Rosadmin.Sweep.Whole

/-!
# Sweeps at the same time

A timer, an operator and a restarted unit may each start a sweep. A sweep is cut
into its stages and its groups, the steps of several come in any order, and any
of them may be killed; the session lock makes of that one sweep after another.
-/

namespace Rosadmin
open Foundation

/-- How far a locked sweep has come. -/
inductive SweepStage (γ : Type) where
  | pulling
  | provisioning (pull : Option PullReport)
  | reading (pull : Option PullReport) (provision : Option ProvisionReport)
  | sweeping (lister : GroupLister γ) (statuses : EmailStatuses) (pull : Option PullReport)
    (provision : Option ProvisionReport) (audiences : List (Email × Audience))
    (run : RunState (γ × List AuditRow))

abbrev SweepResult := Except SweepFailure SweepReport

section
variable {γ : Type} (wiring : Wiring γ) (now : Time)

def endOr {α : Type} (next : α → SweepStage γ) :
    Except SweepFailure α × Deployment γ → (SweepStage γ ⊕ SweepResult) × Deployment γ
  | (.error failure, d) => (.inr (.error failure), d)
  | (.ok a, d) => (.inl (next a), d)

/-- One stage of a sweep, or one of its groups. The outside is taken as it is found and left as it
is made. -/
def sweepStep : SweepStage γ → Deployment γ → (SweepStage γ ⊕ SweepResult) × Deployment γ
  | .pulling, d => endOr .provisioning (pullStage wiring d)
  | .provisioning pull, d => endOr (.reading pull) (provisionStage wiring d)
  | .reading pull provision, d => match wiring.lister with
    | none =>
      (.inr (.ok { pull, groups := [], listerAvailable := false, provision, refusals := none }), d)
    | some lister =>
      let statuses := emailStatuses d.googleEmailStatus now
      (.inl (.sweeping lister statuses pull provision
        (audiencesIn statuses d.db wiring.mainGroupEmail).sorted
        (.start statuses (d.outside, d.auditLog))), d)
  | .sweeping lister statuses pull provision (audience :: audiences) run, d =>
    let run := sweepGroup (wiring.ports lister d.db) wiring.mainGroupEmail statuses
      wiring.allowMassRemoval
      { run with port := (d.outside, d.auditLog) } audience
    (.inl (.sweeping lister statuses pull provision audiences run),
      { d with outside := run.port.1, auditLog := run.port.2 })
  | .sweeping _ statuses pull provision [] run, d =>
    let closed := closeRun statuses wiring.statusWriter wiring.dryRun
      { run with port := (d.outside, d.auditLog) }
      d.googleEmailStatus
    (.inr (.ok {
        pull, groups := run.outcomes, listerAvailable := true, provision,
        refusals := some closed.1 }),
      { d with
        googleEmailStatus := closed.2.1, outside := closed.2.2.1, auditLog := closed.2.2.2 })

def sweepProcess : Process (SweepStage γ) (Deployment γ) SweepResult :=
  ⟨.pulling, sweepStep wiring now⟩

/-! ### A sweep alone -/

variable {wiring} {now}

theorem alone_step (n : Nat) (stage : SweepStage γ) (d : Deployment γ) :
    (sweepProcess wiring now).alone (n + 1) (.inl stage, d) = (sweepProcess wiring now).alone n
      (sweepStep wiring now stage d) :=
  rfl

/-- The groups one by one, and the close. -/
theorem alone_sweeping (lister : GroupLister γ) (statuses : EmailStatuses)
    (pull : Option PullReport) (provision : Option ProvisionReport)
    (audiences : List (Email × Audience)) (run : RunState (γ × List AuditRow)) (d : Deployment γ)
    (current : run.port = (d.outside, d.auditLog)) :
    let last := audiences.foldl (sweepGroup (wiring.ports lister d.db) wiring.mainGroupEmail
      statuses wiring.allowMassRemoval) run
    let closed := closeRun statuses wiring.statusWriter wiring.dryRun last d.googleEmailStatus
    (sweepProcess wiring now).alone (audiences.length + 1)
      (.inl (.sweeping lister statuses pull provision audiences run), d) =
      (.inr (.ok {
          pull, groups := last.outcomes, listerAvailable := true, provision,
          refusals := some closed.1 }),
        { d with
          googleEmailStatus := closed.2.1, outside := closed.2.2.1,
          auditLog := closed.2.2.2 }) := by
  induction audiences generalizing run d with
  | nil =>
    rw [List.length_nil, alone_step, sweepStep, ← current, Process.alone]
    rfl
  | cons audience audiences ih =>
    rw [List.length_cons, alone_step, sweepStep, ← current]
    exact ih _ _ rfl

theorem alone_reading (pull : Option PullReport) (provision : Option ProvisionReport)
    (d : Deployment γ) :
    ∃ n, (sweepProcess wiring now).alone n (.inl (.reading pull provision), d) =
      (.inr (.ok (reconcileStage wiring now pull provision d).1),
        (reconcileStage wiring now pull provision d).2) := by
  rw [reconcileStage]
  cases listing : wiring.lister with
  | none => exact ⟨1, by rw [alone_step, sweepStep, listing]; rfl⟩
  | some lister =>
    let audiences := audiencesIn (emailStatuses d.googleEmailStatus now) d.db wiring.mainGroupEmail
    refine ⟨audiences.sorted.length + 1 + 1, ?_⟩
    rw [alone_step, sweepStep, listing]
    exact alone_sweeping lister _ pull provision _ _ d rfl

/-- Alone, the stages make a whole sweep. -/
theorem sweep_completes (d : Deployment γ) :
    ∃ n, (sweepProcess wiring now).alone n (.inl .pulling, d) =
    (.inr (runSweep wiring false now d).1, (runSweep wiring false now d).2) := by
  rw [runSweep, if_neg Bool.false_ne_true]
  cases pulled : pullStage wiring d with
  | mk pull d =>
    cases pull with
    | error failure => exact ⟨1, by rw [alone_step, sweepStep, pulled]; rfl⟩
    | ok pull =>
      dsimp only [andThen]
      cases provisioned : provisionStage wiring d with
      | mk provision d =>
        cases provision with
        | error failure =>
            exact ⟨2, by rw [alone_step, sweepStep, pulled, endOr, alone_step, sweepStep, provisioned]; rfl⟩
        | ok provision =>
          obtain ⟨n, read⟩ := @alone_reading γ wiring now pull provision d
          refine ⟨n + 1 + 1, ?_⟩
          rw [alone_step, sweepStep, pulled, endOr, alone_step, sweepStep, provisioned, endOr, read]

end

/-! ### Many sweeps -/

section
variable {γ ι : Type} [DecidableEq ι] (wirings : ι → Wiring γ) (nows : ι → Time)

/-- Each sweep as a process, with its own wiring and the moment it reads the statuses. -/
def sweeps (i : ι) : Process (SweepStage γ) (Deployment γ) SweepResult :=
  sweepProcess (wirings i) (nows i)

/-- The sweeps that took the lock, the latest first, each alone for so many steps. -/
structure OneAfterAnother (d : Deployment γ) (order : List (ι × Nat))
    (w : LockWorld ι (SweepStage γ) (Deployment γ) SweepResult) : Prop where
  once : (order.map (·.1)).Nodup
  took : ∀ i, (w.turns i).took = true ↔ i ∈ order.map (·.1)
  state : w.shared = LockWorld.replay (sweeps wirings nows) d order
  /-- One that ended is a whole sweep of what those before it left. -/
  whole : ∀ i n earlier result, (i, n) :: earlier <:+ order → w.turns i = .ended result →
    runSweep (wirings i) false (nows i) (LockWorld.replay (sweeps wirings nows) d earlier) =
      (result, LockWorld.replay (sweeps wirings nows) d ((i, n) :: earlier))
  /-- Where all of them ended, nothing else was done. -/
  only : (∀ i, (w.turns i).took = true → ∃ result, w.turns i = .ended result) →
    w.shared = order.foldr (fun e d => (runSweep (wirings e.1) false (nows e.1) d).2) d

variable {wirings nows} {d : Deployment γ} {order : List (ι × Nat)}
  {w : LockWorld ι (SweepStage γ) (Deployment γ) SweepResult}

omit [DecidableEq ι] in
theorem ended_whole (serial : LockWorld.Serial (sweeps wirings nows) d order w) {i : ι} {n : Nat}
    {earlier : List (ι × Nat)} {result : SweepResult} (suffix : (i, n) :: earlier <:+ order)
    (ended : w.turns i = .ended result) :
    runSweep (wirings i) false (nows i) (LockWorld.replay (sweeps wirings nows) d earlier) =
      (result, LockWorld.replay (sweeps wirings nows) d ((i, n) :: earlier)) := by
  have stands := serial.accounted i n earlier suffix
  rw [ended] at stands
  obtain ⟨m, completes⟩ := @sweep_completes γ (wirings i) (nows i)
    (LockWorld.replay (sweeps wirings nows) d earlier)
  have here : (sweeps wirings nows i).alone n (.inl .pulling,
      LockWorld.replay (sweeps wirings nows) d earlier) =
        (.inr result, LockWorld.replay (sweeps wirings nows) d ((i, n) :: earlier)) :=
        Prod.ext stands rfl
  obtain ⟨same, left⟩ := Process.alone_unique _ completes here
  exact Prod.ext same left

omit [DecidableEq ι] in
theorem all_ended (serial : LockWorld.Serial (sweeps wirings nows) d order w)
    (ended : ∀ i, (w.turns i).took = true → ∃ result, w.turns i = .ended result) :
    w.shared = order.foldr (fun e d => (runSweep (wirings e.1) false (nows e.1) d).2) d := by
  have all : ∀ part, part <:+ order → LockWorld.replay (sweeps wirings nows) d part =
      part.foldr (fun e d => (runSweep (wirings e.1) false (nows e.1) d).2) d := by
    intro part
    induction part with
    | nil => exact fun _ => rfl
    | cons e earlier ih =>
      intro suffix
      obtain ⟨i, n⟩ := e
      obtain ⟨result, done⟩ := ended i ((serial.took i).mpr (LockWorld.mem_of_suffix suffix))
      have whole := ended_whole serial suffix done
      rw [List.foldr_cons, ← ih ((List.suffix_cons _ _).trans suffix), whole]
  rw [serial.shared]
  exact all order (List.suffix_refl _)

end

/-- However the steps of many sweeps come in between one another, and whichever of them are killed,
they are sweeps one after another; one that finds the lock taken does nothing. -/
theorem sweeps_one_after_another {γ ι : Type} [DecidableEq ι] (wirings : ι → Wiring γ)
    (nows : ι → Time) (d : Deployment γ) (events : List (LockEvent ι)) :
    ∃ order, OneAfterAnother wirings nows d order
      (events.foldl (LockWorld.step (sweeps wirings nows)) (.start d)) := by
  obtain ⟨order, serial⟩ := LockWorld.run_serial (sweeps wirings nows) d events
  exact ⟨order, serial.once, serial.took, serial.shared, fun i n earlier result =>
    ended_whole serial, all_ended serial⟩

end Rosadmin
