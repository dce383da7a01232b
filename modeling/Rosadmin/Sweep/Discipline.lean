import Mathlib.Data.List.Dedup
import Rosadmin.Sweep.Acceptance
import Rosadmin.Sweep.Access
import Rosadmin.Sweep.Withholding

/-!
# What one run offers and what it writes down

A run never offers an address it withholds, never meets one again that it has
just seen refused, and spends its retries over all groups together. What it
then writes down of the refusals is bounded by the fuse.
-/

namespace Rosadmin
open Foundation

section
variable {answers : Answers} {mainGroupEmail : Email} {statuses : EmailStatuses}
    {allowMassRemoval : Bool} {s : RunState Workspace} {audience : Email × Audience}

/-- What one group's turn does to the addresses a run keeps track of. -/
structure GroupOffers (answers : Answers) (allowMassRemoval : Bool) (s next : RunState Workspace)
    (audience : Email × Audience) (issued : List PlannedAdd) : Prop where
  inserts : next.port.inserts = s.port.inserts ++ segment answers audience.1 issued
  issued : issued.Sublist (s.plan allowMassRemoval audience (s.port.contents audience.1)).adds
  lapsed : next.lapsedRefusals = s.lapsedRefusals.filter
    (· ∉ (s.plan allowMassRemoval audience (s.port.contents audience.1)).retried)
  slots : next.retrySlots =
    s.retrySlots - (s.plan allowMassRemoval audience (s.port.contents audience.1)).retried.length

theorem finalPlan_adds_sublist :
    (finalPlan answers mainGroupEmail statuses allowMassRemoval s audience).adds.Sublist
    (s.plan allowMassRemoval audience (s.port.contents audience.1)).adds := by
  unfold finalPlan rechecked
  split
  · exact List.filter_sublist
  · exact List.Sublist.refl _

/-- The slots a listed group takes. -/
theorem sweepGroup_spends (mainGroupEmail : Email) (statuses : EmailStatuses)
    (allowMassRemoval : Bool) (s : RunState Workspace) (audience : Email × Audience)
    (listed : answers.unlisted audience.1 = none) :
    let plan := s.plan allowMassRemoval audience (s.port.contents audience.1)
    let next := sweepGroup answers.ports mainGroupEmail statuses allowMassRemoval s audience
    next.lapsedRefusals = s.lapsedRefusals.filter (· ∉ plan.retried) ∧
      next.retrySlots = s.retrySlots - plan.retried.length := by
  have lists : answers.ports.lister.list audience.1 s.port =
      (.ok (s.port.contents audience.1), s.port.listing audience.1) := by
    show (s.port.listed answers audience.1, _) = _
    rw [Workspace.listed, listed]
  intro plan next
  have nextAs : next = sweepGroup answers.ports mainGroupEmail statuses allowMassRemoval s
    audience := rfl
  unfold sweepGroup at nextAs
  rw [lists] at nextAs
  rw [nextAs]
  exact ⟨rfl, rfl⟩

theorem sweepGroup_offers (answers : Answers) (mainGroupEmail : Email) (statuses : EmailStatuses)
    (allowMassRemoval : Bool) (s : RunState Workspace) (audience : Email × Audience) :
    let next := sweepGroup answers.ports mainGroupEmail statuses allowMassRemoval s audience
    (next.port.inserts = s.port.inserts ∧ next.lapsedRefusals = s.lapsedRefusals ∧
      next.retrySlots = s.retrySlots) ∨
      ∃ issued, GroupOffers answers allowMassRemoval s next audience issued := by
  intro next
  cases failed : answers.unlisted audience.1 with
  | some error =>
    have same : next = _ := sweepGroup_unlisted failed
    rw [same]
    exact Or.inl ⟨rfl, rfl, rfl⟩
  | none =>
    obtain ⟨done, issued, settled, -, -, -, port⟩ :=
      sweepGroup_listed mainGroupEmail statuses allowMassRemoval s failed
    obtain ⟨lapsed, slots⟩ :=
      sweepGroup_spends mainGroupEmail statuses allowMassRemoval s audience failed
    refine Or.inr ⟨issued, ?_, settled.early.sublist.trans finalPlan_adds_sublist, lapsed, slots⟩
    rw [port, settled.inserts, finalPlan_groupEmail]
    rfl

/-! ### The retries of a run -/

/-- The retries spent so far: every lapsed address offered is one, and slots and retries make up the
allowance. -/
structure Retrying (statuses : EmailStatuses) (retried : List Str) (s : RunState Workspace) :
    Prop where
  distinct : retried.Nodup
  lapsed : ∀ a, a ∈ s.lapsedRefusals ↔ a ∈ statuses.lapsed ∧ a ∉ retried
  slots : s.retrySlots + retried.length = retriesPerRun
  spent : ∀ c ∈ s.port.inserts, c.address ∈ statuses.lapsed → c.address ∈ retried

theorem retrying_start (contents : Email → List GroupMemberEntry) :
    Retrying statuses [] (.start statuses (.opened contents)) where
  distinct := List.nodup_nil
  lapsed a := by simp [RunState.start]
  slots := rfl
  spent c member := by cases member

theorem retrying_offers {retried : List Str} {next : RunState Workspace} {issued : List PlannedAdd}
    (retrying : Retrying statuses retried s)
    (offers : GroupOffers answers allowMassRemoval s next audience issued) :
    Retrying statuses (retried ++
      (s.plan allowMassRemoval audience (s.port.contents audience.1)).retried) next := by
  let plan := s.plan allowMassRemoval audience (s.port.contents audience.1)
  have fits : plan.retried.length ≤ s.retrySlots := planGroup_retried_length
  have once : plan.retried.Nodup :=
    (planGroup_retried_ordered : plan.retried.Pairwise (· < ·)).imp ne_of_lt
  have open_ : ∀ a ∈ plan.retried, a ∈ statuses.lapsed ∧ a ∉ retried :=
    fun a member => (retrying.lapsed a).mp (planGroup_retried_lapsed member)
  show Retrying statuses (retried ++ plan.retried) next
  refine ⟨?_, fun a => ?_, ?_, fun c member old => ?_⟩
  · exact List.nodup_append.mpr ⟨retrying.distinct, once, fun a before b here same =>
      (open_ b here).2 (same ▸ before)⟩
  · rw [offers.lapsed, List.mem_filter, retrying.lapsed, List.mem_append, not_or,
      decide_eq_true_eq, and_assoc]
  · have slots : next.retrySlots = s.retrySlots - plan.retried.length := offers.slots
    have before := retrying.slots
    rw [List.length_append]
    omega
  · rw [offers.inserts] at member
    rcases List.mem_append.mp member with earlier | now
    · exact List.mem_append_left _ (retrying.spent c earlier old)
    · obtain ⟨a, issue, rfl⟩ := List.mem_map.mp now
      by_cases before : a.address ∈ retried
      · exact List.mem_append_left _ before
      · exact List.mem_append_right _ (planGroup_retried_of_lapsed (offers.issued.subset issue)
          ((retrying.lapsed a.address).mpr ⟨old, before⟩))

theorem retrying_step {retried : List Str} (retrying : Retrying statuses retried s) :
    ∃ more, Retrying statuses (retried ++ more)
      (sweepGroup answers.ports mainGroupEmail statuses allowMassRemoval s audience) := by
  rcases sweepGroup_offers answers mainGroupEmail statuses allowMassRemoval s audience with
    ⟨inserts, lapsed, slots⟩ | ⟨issued, offers⟩
  · refine ⟨[], ?_⟩
    rw [List.append_nil]
    exact ⟨retrying.distinct, fun a => lapsed ▸ retrying.lapsed a, slots ▸ retrying.slots,
      fun c member => retrying.spent c (inserts ▸ member)⟩
  · exact ⟨_, retrying_offers retrying offers⟩

theorem retrying_run (contents : Email → List GroupMemberEntry)
    (audiences : List (Email × Audience)) : ∃ retried, Retrying statuses retried
      (runOver answers mainGroupEmail statuses allowMassRemoval contents audiences) := by
  induction audiences using List.reverseRecOn with
  | nil => exact ⟨[], retrying_start contents⟩
  | append_singleton pre audience ih =>
    obtain ⟨retried, before⟩ := ih
    obtain ⟨more, after⟩ : ∃ more, Retrying statuses (retried ++ more)
      (sweepGroup answers.ports mainGroupEmail statuses
      allowMassRemoval (runOver answers mainGroupEmail statuses allowMassRemoval contents pre)
        audience) := retrying_step before
    rw [runOver_append]
    exact ⟨_, after⟩

/-! ### The inserts of a run -/

/-- No insert offers an address that is live, or one that an earlier insert was refused for. -/
structure Unrepeated (answers : Answers) (statuses : EmailStatuses) (inserts : List Insert) :
    Prop where
  folded : ∀ c ∈ inserts, casefold c.address = c.address
  open_ : ∀ c ∈ inserts, c.address ∉ statuses.live
  once : inserts.Pairwise (fun c d => answers.refused c = true → d.address ≠ c.address)

theorem unrepeated_step {swept : List Email} (ledger : Ledger answers statuses swept s)
    (folded : ∀ key ∈ audience.2, casefold key = key)
    (unrepeated : Unrepeated answers statuses s.port.inserts) :
    Unrepeated answers statuses
      (sweepGroup answers.ports mainGroupEmail statuses allowMassRemoval s
        audience).port.inserts := by
  obtain ⟨fresh, inserts, own⟩ :=
    sweepGroup_inserts answers mainGroupEmail statuses allowMassRemoval s audience
  have apart : fresh.Pairwise (fun c d => d.address ≠ c.address) := by
    rcases sweepGroup_offers answers mainGroupEmail statuses allowMassRemoval s audience with
      ⟨unchanged, -, -⟩ | ⟨issued, offers⟩
    · have none : fresh = [] := List.append_right_eq_self.mp (inserts.symm.trans unchanged)
      rw [none]
      exact List.Pairwise.nil
    · have same : fresh = segment answers audience.1 issued :=
        List.append_cancel_left (inserts.symm.trans offers.inserts)
      rw [same, segment, List.pairwise_map]
      exact (planGroup_adds_ordered.sublist offers.issued).imp fun lt => (ne_of_lt lt).symm
  rw [inserts]
  have later : fresh.Pairwise (fun c d => answers.refused c = true → d.address ≠ c.address) :=
    apart.imp (by intro c d other _; exact other)
  refine ⟨fun c member => ?_, fun c member => ?_, ?_⟩
  · rcases List.mem_append.mp member with old | new
    · exact unrepeated.folded c old
    · exact folded _ (own c new).2.1
  · rcases List.mem_append.mp member with old | new
    · exact unrepeated.open_ c old
    · intro live
      exact (own c new).2.2 ((ledger.unmirrorable _).mpr (Or.inl live))
  · refine List.pairwise_append.mpr ⟨unrepeated.once, later, fun c old d new refused same => ?_⟩
    -- a refusal met in an earlier group is withheld in this one
    have withheld : c.address ∈ s.unmirrorable :=
      (ledger.unmirrorable _).mpr (Or.inr ⟨c, old, refused, unrepeated.folded c old⟩)
    exact (own d new).2.2 (same ▸ withheld)

theorem unrepeated_run (contents : Email → List GroupMemberEntry)
    {audiences : List (Email × Audience)} (distinct : (audiences.map (·.1)).Nodup)
    (folded : ∀ audience ∈ audiences, ∀ key ∈ audience.2, casefold key = key) :
    Unrepeated answers statuses
      (runOver answers mainGroupEmail statuses allowMassRemoval contents
        audiences).port.inserts := by
  induction audiences using List.reverseRecOn with
  | nil => exact ⟨fun c member => (nomatch member), fun c member => (nomatch member),
      List.Pairwise.nil⟩
  | append_singleton pre audience ih =>
    have early : (pre.map (·.1)).Nodup :=
      distinct_of_early distinct (List.prefix_append pre [audience])
    have before := ih early fun other member => folded other (List.mem_append_left _ member)
    rw [runOver_append]
    exact unrepeated_step (ledger_runOver early)
      (folded audience (List.mem_append_right _ (List.mem_singleton_self _))) before

end

/-! ### What the run writes down -/

section
variable {σ : Type} (writer : StatusWriter σ)

/-- The same writer, with every key and status it is given kept. -/
def StatusWriter.recorded : StatusWriter (σ × List (Str × Str)) :=
  ⟨fun key status port => ((writer.write key status port.1).1, (writer.write key status port.1).2,
    port.2 ++ [(key, status)])⟩

def RunState.writing (s : RunState σ) : RunState (σ × List (Str × Str)) :=
  { s with port := (s.port, []) }

variable {writer}

theorem recordStatus_writes (address : Email) (status : Str) (store : StatusStore)
    (port : σ × List (Str × Str)) :
    (recordStatus writer.recorded address status store port).2.2.2 = port.2 ++
      [(lower address, status)] := by
  unfold recordStatus StatusWriter.recorded
  dsimp only
  split
  · rename_i answer
    exact (congrArg (·.2.2) answer).symm
  · rename_i answer
    exact (congrArg (·.2.2) answer).symm

theorem recordRefusals_writes (refusals : List Refusal)
    (acc : Nat × StatusStore × σ × List (Str × Str)) :
    (refusals.foldl (recordRefusal writer.recorded) acc).2.2.2 =
      acc.2.2.2 ++ refusals.map (fun r => (lower r.address, r.outcome.value)) := by
  induction refusals generalizing acc with
  | nil => simp
  | cons r refusals ih =>
    rw [List.foldl_cons, ih]
    show (recordStatus writer.recorded r.address r.outcome.value acc.2.1 acc.2.2).2.2.2 ++ _ = _
    rw [recordStatus_writes, List.append_assoc]
    rfl

theorem rememberAccepted_writes (addresses : List Email) (store : StatusStore)
    (port : σ × List (Str × Str)) : (rememberAccepted writer.recorded addresses store port).2.2 =
      port.2 ++ addresses.map (fun a => (lower a, acceptedStatus)) := by
  unfold rememberAccepted
  induction addresses generalizing store port with
  | nil => simp
  | cons a addresses ih =>
    rw [List.foldl_cons, ih, recordStatus_writes, List.append_assoc]
    rfl

theorem commitRefusals_writes (refusals : List Refusal) (known : List Str) (dryRun : Bool)
    (store : StatusStore) (port : σ × List (Str × Str)) :
    (commitRefusals writer.recorded refusals known dryRun store port).2.2.2 = port.2 ++
      if dryRun || refusalFuseTrips store known refusals then []
      else refusals.map (fun r => (lower r.address, r.outcome.value)) := by
  unfold commitRefusals
  cases dryRun with
  | true => simp
  | false =>
    rw [if_neg Bool.false_ne_true, Bool.false_or]
    split
    · simp
    · exact recordRefusals_writes refusals (0, store, port)

/-- The refusals among the writes of a run. -/
def refusalWrites (writes : List (Str × Str)) : List (Str × Str) :=
  writes.filter (·.2 ≠ acceptedStatus)

theorem closeRun_refusalWrites {statuses : EmailStatuses} {s : RunState σ} (dryRun : Bool)
    (store : StatusStore) (refused : ∀ r ∈ s.refusals, r.outcome.unmirrorable = true) :
    refusalWrites (closeRun statuses writer.recorded dryRun s.writing store).2.2.2 =
      if dryRun || refusalFuseTrips store statuses.lapsed s.refusals then []
      else s.refusals.map (fun r => (lower r.address, r.outcome.value)) := by
  have committed : (commitRefusals writer.recorded s.refusals statuses.lapsed dryRun store
      s.writing.port).2.2.2 = _ :=
    commitRefusals_writes s.refusals statuses.lapsed dryRun store s.writing.port
  have kept : refusalWrites (s.refusals.map (fun r => (lower r.address, r.outcome.value))) =
      s.refusals.map (fun r => (lower r.address, r.outcome.value)) := by
    apply List.filter_eq_self.mpr
    intro w member
    obtain ⟨r, held, rfl⟩ := List.mem_map.mp member
    exact decide_eq_true (refused_not_accepted (refused r held))
  have learned : ∀ addresses : List Email,
      refusalWrites (addresses.map (fun a => (lower a, acceptedStatus))) = [] := by
    intro addresses
    apply List.filter_eq_nil_iff.mpr
    intro w member
    obtain ⟨a, -, rfl⟩ := List.mem_map.mp member
    simp
  unfold closeRun
  cases dryRun with
  | true =>
    rw [if_pos rfl]
    show refusalWrites (commitRefusals writer.recorded s.refusals statuses.lapsed true store
      s.writing.port).2.2.2 = _
    rw [committed]
    rfl
  | false =>
    rw [if_neg Bool.false_ne_true]
    dsimp only
    rw [rememberAccepted_writes]
    show refusalWrites ((commitRefusals writer.recorded s.refusals statuses.lapsed false store
      s.writing.port).2.2.2 ++ _) = _
    rw [committed, refusalWrites, List.filter_append, List.filter_append]
    show refusalWrites [] ++ refusalWrites _ ++ refusalWrites _ = _
    rw [learned, List.append_nil]
    split
    · rfl
    · rw [kept]
      rfl

end

/-- The discipline of one run, for the addresses whose two foldings agree. -/
structure Disciplined (answers : Answers) (statuses : EmailStatuses) (store : StatusStore)
    (run : RunState Workspace) : Prop where
  live : ∀ c ∈ run.port.inserts, lower c.address = casefold c.address →
    lower c.address ∉ statuses.live
  retries : ((run.port.inserts.map (·.address)).filter
    (fun a => lower a = casefold a ∧ lower a ∈ statuses.lapsed)).dedup.length
    ≤ retriesPerRun
  once : run.port.inserts.Pairwise (fun c d => answers.refused c = true → d.address ≠ c.address)
  written : store.bootstrappedRefusalLearning = true →
    ∀ (writer : StatusWriter Workspace) (dryRun : Bool),
    let writes := refusalWrites (closeRun statuses writer.recorded dryRun run.writing store).2.2.2
    writes = [] ∨ writes.countP (fun w => w.1 ∉ statuses.lapsed) ≤ refusalFuseCeiling

/-- Every run over the groups of a snapshot keeps it, whatever Google and the tables answer. -/
theorem run_disciplined (answers : Answers) (statuses : EmailStatuses) (store : StatusStore)
    (db : Database) (mainGroupEmail : Email) (allowMassRemoval : Bool)
    (contents : Email → List GroupMemberEntry) :
    Disciplined answers statuses store
      (sweepAudiences answers.ports mainGroupEmail statuses allowMassRemoval
      (audiencesIn statuses db mainGroupEmail) (.opened contents)) := by
  have distinct : ((audiencesIn statuses db mainGroupEmail).sorted.map (·.1)).Nodup :=
    Dict.sorted_keys_nodup _
  have unrepeated : Unrepeated answers statuses
      (runOver answers mainGroupEmail statuses allowMassRemoval contents
        (audiencesIn statuses db mainGroupEmail).sorted).port.inserts :=
    unrepeated_run contents distinct fun audience member key desired =>
      casefold_audience member desired
  obtain ⟨retried, retrying⟩ : ∃ retried,
    Retrying statuses retried (runOver answers mainGroupEmail statuses
      allowMassRemoval contents (audiencesIn statuses db mainGroupEmail).sorted) :=
        retrying_run contents _
  have ledger : Ledger answers statuses
    _ (runOver answers mainGroupEmail statuses allowMassRemoval contents
    (audiencesIn statuses db mainGroupEmail).sorted) := ledger_runOver distinct
  show Disciplined answers statuses store
    (runOver answers mainGroupEmail statuses allowMassRemoval contents
    (audiencesIn statuses db mainGroupEmail).sorted)
  generalize runOver answers mainGroupEmail statuses allowMassRemoval contents
    (audiencesIn statuses db mainGroupEmail).sorted = run at *
  refine ⟨fun c member same => ?_, ?_, unrepeated.once, fun armed writer dryRun => ?_⟩
  · rw [same, unrepeated.folded c member]
    exact unrepeated.open_ c member
  · have within : retried.length ≤ retriesPerRun := by
      have slots := retrying.slots
      omega
    refine le_trans ((List.nodup_dedup _).length_le_of_subset fun a member => ?_) within
    obtain ⟨offered, same⟩ := List.mem_filter.mp (List.mem_dedup.mp member)
    obtain ⟨agree, old⟩ : lower a = casefold a ∧ lower a ∈ statuses.lapsed := by simpa using same
    obtain ⟨c, issued, rfl⟩ := List.mem_map.mp offered
    rw [agree, unrepeated.folded c issued] at old
    exact retrying.spent c issued old
  · intro writes
    have refused : ∀ r ∈ run.refusals, r.outcome.unmirrorable = true :=
      fun r held => ledger.refusal_outcome held
    have written : writes = _ := closeRun_refusalWrites dryRun store refused
    by_cases dropped : (dryRun || refusalFuseTrips store statuses.lapsed run.refusals) = true
    · exact Or.inl (by rw [written, if_pos dropped])
    · refine Or.inr ?_
      rw [written, if_neg dropped, List.countP_map]
      have calm : refusalFuseTrips store statuses.lapsed run.refusals = false := by
        simpa using (not_or.mp (fun h => dropped (by simpa using h) : ¬(dryRun = true ∨
          _ = true))).2
      unfold refusalFuseTrips at calm
      rw [armed, Bool.true_and, decide_eq_false_iff_not, Nat.not_lt] at calm
      exact calm

end Rosadmin
