import Rosadmin.Sweep.Ledger

/-!
# What a run leaves stored about an address it proved good

The refusals are written first, then the acceptances that the statuses read at
the start did not hold already. An acceptance outranks a refusal only where it
is written.
-/

namespace Rosadmin
open Foundation

section
variable {answers : Answers} {statuses : EmailStatuses}

theorem Ledger.refusal_outcome {swept : List Email} {s : RunState Workspace}
    (ledger : Ledger answers statuses swept s) {r : Refusal} (member : r ∈ s.refusals) :
    r.outcome.unmirrorable = true := by
  have origin : r.origin ∈ answers.believed s.port.inserts :=
    ledger.refusals ▸ List.mem_map_of_mem member
  obtain ⟨issued, believed⟩ := List.mem_filter.mp origin
  have refused : answers.refuses r.groupEmail r.address = true :=
    (Bool.and_eq_true _ _ ▸ believed).1
  have outcome : r.outcome = answers.insert r.groupEmail r.address := ledger.outcomes _ issued
  rw [outcome, ← reading_of_refuses refused]
  exact refused

theorem Ledger.news {swept : List Email} {s : RunState Workspace}
    (ledger : Ledger answers statuses swept s) (known : List Str) : refusalNews known s.refusals =
      (answers.believed s.port.inserts).countP (fun c => lower c.address ∉ known) := by
  rw [← ledger.refusals, List.countP_map]
  rfl

end

section
variable {σ : Type} {clock : σ → Time × σ} {statuses : EmailStatuses} {s : RunState σ}
    {store : StatusStore}

theorem statusOf_closeRun (key : Str) :
    (closeRun statuses (.landing clock) false s store).2.1.statusOf key =
      if key ∈ (s.accepted.filter (fun a => lower a ∉ statuses.accepted)).map lower
        then some acceptedStatus
      else (commitRefusals (.landing clock) s.refusals statuses.lapsed false store
        s.port).2.1.statusOf key := by
  unfold closeRun
  rw [if_neg Bool.false_ne_true]
  exact statusOf_rememberAccepted _ _ _ _

end

/-- Every address some insert of the run proved good is stored as accepted. -/
def AcceptedStored (inserts : List Insert) (store : StatusStore) : Prop :=
  ∀ c ∈ inserts, c.outcome.accepted = true → store.statusOf (lower c.address) = some acceptedStatus

def batchDropped (answers : Answers) (statuses : EmailStatuses) (store : StatusStore)
    (inserts : List Insert) : Bool :=
  store.bootstrappedRefusalLearning &&
    refusalFuseCeiling < (answers.believed inserts).countP (fun c =>
      lower c.address ∉ statuses.lapsed)

section
variable {answers : Answers} {swept : List Email} {run : RunState Workspace} {store : StatusStore}
    {now : Time} {clock : Workspace → Time × Workspace} {key : Str}

/-- An acceptance that the statuses did not hold is written, after the refusals. -/
theorem fresh_stored (fresh : key ∉ (emailStatuses store now).accepted)
    (noted : ∃ address ∈ run.accepted, lower address = key) :
    (closeRun (emailStatuses store now) (.landing clock) false run store).2.1.statusOf key =
      some acceptedStatus := by
  obtain ⟨address, member, rfl⟩ := noted
  have written : lower address ∈ (run.accepted.filter fun a => lower a ∉
      (emailStatuses store now).accepted).map lower :=
    List.mem_map_of_mem (List.mem_filter.mpr ⟨member, decide_eq_true fresh⟩)
  rw [statusOf_closeRun, if_pos written]

/-- An acceptance that they held stands unless a refusal of the address is written. -/
theorem known_stored_iff (ledger : Ledger answers (emailStatuses store now) swept run)
    (known : key ∈ (emailStatuses store now).accepted) :
    (closeRun (emailStatuses store now) (.landing clock) false run store).2.1.statusOf key =
      some acceptedStatus ↔
      refusalFuseTrips store (emailStatuses store now).lapsed run.refusals = true ∨
        ∀ r ∈ run.refusals, lower r.address ≠ key := by
  have unwritten : key ∉ (run.accepted.filter fun a => lower a ∉
      (emailStatuses store now).accepted).map lower := by
    intro written
    obtain ⟨a, filtered, rfl⟩ := List.mem_map.mp written
    exact of_decide_eq_true (List.mem_filter.mp filtered).2 known
  have before : store.statusOf key = some acceptedStatus := mem_accepted.mp known
  rw [statusOf_closeRun, if_neg unwritten, statusOf_commitRefusals]
  by_cases drops : refusalFuseTrips store (emailStatuses store now).lapsed run.refusals = true
  · rw [if_pos drops]
    exact iff_of_true before (Or.inl drops)
  rw [if_neg drops]
  constructor
  · intro final
    refine Or.inr fun r held address => ?_
    obtain ⟨last, lastHeld, -, status⟩ :=
      statusOf_refusals_some clock ⟨r, held, address⟩ (0, store, run.port)
    rw [status] at final
    exact refused_not_accepted (ledger.refusal_outcome lastHeld) (Option.some.inj final)
  · intro spared
    rw [statusOf_refusals_other (spared.resolve_left drops)]
    exact before

end

/-- The accepted addresses of a run are stored so exactly when no address that was stored as
accepted before the run was accepted by one group and refused by another that Google stands behind,
or the fuse dropped the refusals. -/
theorem accepted_stored_iff {answers : Answers} {mainGroupEmail : Email} {allowMassRemoval : Bool}
    {audiences : Audiences} {contents : Email → List GroupMemberEntry} {store : StatusStore}
    {now : Time} {clock : Workspace → Time × Workspace} :
    let statuses := emailStatuses store now
    let run := sweepAudiences answers.ports mainGroupEmail statuses allowMassRemoval audiences
      (.opened contents)
    AcceptedStored run.port.inserts (closeRun statuses (.landing clock) false run store).2.1 ↔
      batchDropped answers statuses store run.port.inserts = true ∨
        ∀ c ∈ run.port.inserts, c.outcome.accepted = true → lower c.address ∈ statuses.accepted →
          ∀ d ∈ answers.believed run.port.inserts, lower d.address ≠ lower c.address := by
  intro statuses run
  have ledger : Ledger answers statuses _ run := ledger_runOver (Dict.sorted_keys_nodup audiences)
  have dropped : refusalFuseTrips store statuses.lapsed run.refusals =
      batchDropped answers statuses store run.port.inserts := by
    rw [refusalFuseTrips, ledger.news, batchDropped]
  -- the refusals of the run are the answers it believes
  have refusals : ∀ key, (∀ r ∈ run.refusals, lower r.address ≠ key) ↔
      ∀ d ∈ answers.believed run.port.inserts, lower d.address ≠ key := by
    intro key
    rw [← ledger.refusals, List.forall_mem_map]
    rfl
  have known : ∀ key ∈ statuses.accepted,
      (closeRun statuses (.landing clock) false run store).2.1.statusOf key = some acceptedStatus ↔
        batchDropped answers statuses store run.port.inserts = true ∨
          ∀ d ∈ answers.believed run.port.inserts, lower d.address ≠ key := by
    intro key held
    rw [known_stored_iff ledger held, dropped, refusals]
  constructor
  · intro stored
    by_cases drops : batchDropped answers statuses store run.port.inserts = true
    · exact Or.inl drops
    · exact Or.inr fun c member took held =>
        ((known _ held).mp (stored c member took)).resolve_left drops
  · intro condition c member took
    by_cases held : lower c.address ∈ statuses.accepted
    · exact (known _ held).mpr (condition.imp_right fun spared => spared c member took held)
    · exact fresh_stored held ⟨c.address, (ledger.accepted _).mpr ⟨c, member, took, rfl⟩, rfl⟩

/-! ### One group takes the address, the next refuses it -/

def stewards : Email := str "stewards@pdx.org"

def twoGroups : Audiences :=
  let desired : Audience := Dict.empty.set (str "ana@pdx.org") 0
  (Dict.empty.set (str "everyone@pdx.org") desired).set stewards desired

/-- Google takes every insert but those of one group, and vouches for every group. -/
def refusingOne : Answers where
  unlisted := fun _ => none
  insert := fun group _ => if group = stewards then .noGoogleAccount else .applied
  delete := fun _ _ => .applied
  groupExists := fun _ _ => .ok true
  reread := fun _ => { Database.empty with
    members := [plainMember 0 (str "ana@pdx.org")]
    leadershipBodies :=
      [⟨1, str "Stewards", str "Committee", some stewards, some (str "stewards-editors@pdx.org")⟩]
    bodyMemberships := [⟨0, 1, .leader, none, none⟩]
    nextId := 2 }

def storedAccepted : StatusStore :=
  ⟨Dict.empty.set (str "ana@pdx.org") ⟨acceptedStatus, 0⟩, true⟩

theorem accepted_address_stored_refused :
    let statuses := emailStatuses storedAccepted 1
    let run := sweepAudiences refusingOne.ports (str "everyone@pdx.org") statuses false twoGroups
      (.opened fun _ => [])
    ¬AcceptedStored run.port.inserts
      (closeRun statuses (.landing fun w => (1, w)) false run storedAccepted).2.1 := by
  intro statuses run stored
  have took : ⟨str "everyone@pdx.org", str "ana@pdx.org", .applied⟩ ∈ run.port.inserts :=
    by decide +kernel
  exact absurd (stored _ took rfl) (by decide +kernel)

end Rosadmin
