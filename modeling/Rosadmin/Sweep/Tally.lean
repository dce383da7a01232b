import Rosadmin.Sweep.Abandon

/-!
# What one group's outcome accounts for

Each planned operation is answered once, and each exit counts the answers its
own way: the abandoned and the completed group keep the whole tally, the group
that vanished under its removes keeps only the skips.
-/

namespace Rosadmin
open Foundation

/-- Every planned operation is counted, and only once. -/
def GroupOutcome.Accounted (outcome : GroupOutcome) : Prop :=
  (outcome.applied + outcome.alreadyConverged + outcome.skipped + outcome.unmirrorable : Nat) +
    outcome.failed = (outcome.plannedAdds + outcome.plannedRemoves : Nat)

/-! ### What each exit counts -/

section
variable {tally : List SyncOutcome} {p : SyncOutcome → Bool}

theorem tallied_append {more : List SyncOutcome} :
    tallied (tally ++ more) p = tallied tally p + tallied more p :=
  List.countP_append

theorem tallied_cons {outcome : SyncOutcome} :
    tallied (outcome :: tally) p = tallied tally p + if p outcome then 1 else 0 :=
  List.countP_cons

theorem tallied_all : tallied tally p = tally.length ↔ ∀ o ∈ tally, p o = true :=
  List.countP_eq_length

theorem tallied_none : tallied tally p = 0 ↔ ∀ o ∈ tally, ¬p o = true := List.countP_eq_zero

variable {plan : GroupPlan}

theorem abandoned_accounted : (abandoned plan tally).Accounted := by
  unfold GroupOutcome.Accounted abandoned
  dsimp only
  omega

theorem completed_accounted (answered : tally.length = plan.adds.length + plan.removes.length) :
    (completed plan tally).Accounted := by
  have parts := tallied_partition tally
  unfold GroupOutcome.Accounted completed
  dsimp only
  omega

theorem vanished_accounted :
    (vanished plan tally).Accounted ↔ tallied tally SyncOutcome.skipped = plan.adds.length := by
  unfold GroupOutcome.Accounted vanished
  dsimp only
  omega

end

/-! ### The refusals are the tally's -/

section
variable {σ : Type} {ports : Ports σ} {plan : GroupPlan}

def FoundTallied (l : AddLoop σ) : Prop :=
  l.found.map (·.outcome) = l.tally.filter SyncOutcome.unmirrorable

theorem FoundTallied.settleAdd {l : AddLoop σ} (found : FoundTallied l) (add : PlannedAdd)
    (outcome : SyncOutcome) : FoundTallied (settleAdd ports plan add outcome l) := by
  unfold FoundTallied at *
  rw [settleAdd_found, settleAdd_tally, List.filter_append, ← found]
  by_cases refused : outcome.unmirrorable = true <;> simp [refused]

theorem FoundTallied.applyAdd {l u : AddLoop σ} (found : FoundTallied l) {add : PlannedAdd}
    (turn : applyAdd ports plan l add = .ok u) : FoundTallied u := by
  unfold Rosadmin.applyAdd at turn
  dsimp only at turn
  split at turn
  · unfold readMissing at turn
    split at turn
    · cases turn
    · cases turn
      unfold FoundTallied at *
      simpa [SyncOutcome.unmirrorable] using found
    · cases turn
      apply FoundTallied.settleAdd
      exact found
  · cases turn
    apply FoundTallied.settleAdd
    exact found

theorem FoundTallied.length {l : AddLoop σ} (found : FoundTallied l) :
    l.found.length = tallied l.tally SyncOutcome.unmirrorable := by
  rw [tallied, List.countP_eq_length_filter, ← found, List.length_map]

end

/-! ### A script's adds and removes -/

namespace Script

variable (script : Script) (plan : GroupPlan)

/-- How often the first `n` inserts and the question after them have Google asked about the
group. -/
def questions (n : Nat) : Nat := if script.missed n then if script.presence 0 = .present then 2
    else 1 else 0

/-- Every removal finds its member already gone, no insert was applied, and Google no longer has the
group. -/
def Vanishes : Prop :=
  plan.removes ≠ [] ∧ (∀ i < plan.removes.length, script.remove i = .alreadyConverged) ∧
    (∀ i < plan.adds.length, script.add i ≠ .applied) ∧
    script.presence (script.questions plan.adds.length) = .gone

instance : Decidable (script.Vanishes plan) :=
  inferInstanceAs (Decidable (plan.removes ≠ [] ∧
    (∀ i < plan.removes.length, script.remove i = .alreadyConverged) ∧
    (∀ i < plan.adds.length, script.add i ≠ .applied) ∧
    script.presence (script.questions plan.adds.length) = .gone))

def addTally : List SyncOutcome := (List.range plan.adds.length).map script.reading

def removeTally : List SyncOutcome := (List.range plan.removes.length).map script.remove

end Script

section
variable {script : Script} {plan : GroupPlan}

theorem addTally_length (script : Script) (plan : GroupPlan) :
    (script.addTally plan).length = plan.adds.length := by
  rw [Script.addTally, List.length_map, List.length_range]

theorem removeTally_length (script : Script) (plan : GroupPlan) :
    (script.removeTally plan).length = plan.removes.length := by
  rw [Script.removeTally, List.length_map, List.length_range]

theorem addTally_all {p : SyncOutcome → Bool} :
    tallied (script.addTally plan) p = plan.adds.length ↔
    ∀ i < plan.adds.length, p (script.reading i) = true := by
  rw [← addTally_length script plan, tallied_all, addTally_length]
  simp [Script.addTally]

theorem addTally_none {p : SyncOutcome → Bool} : tallied (script.addTally plan) p = 0 ↔
    ∀ i < plan.adds.length, p (script.reading i) = false := by
  rw [tallied_none]
  simp [Script.addTally]

theorem removeTally_all {p : SyncOutcome → Bool} :
    tallied (script.removeTally plan) p = plan.removes.length ↔
    ∀ i < plan.removes.length, p (script.remove i) = true := by
  rw [← removeTally_length script plan, tallied_all, removeTally_length]
  simp [Script.removeTally]

theorem removeTally_none {p : SyncOutcome → Bool} : tallied (script.removeTally plan) p = 0 ↔
    ∀ i < plan.removes.length, p (script.remove i) = false := by
  rw [tallied_none]
  simp [Script.removeTally]

/-- Reading a 404 as a failure makes no skip of it and no success. -/
theorem reading_skipped {i : Nat} : (script.reading i).skipped = (script.add i).skipped := by
  unfold Script.reading
  split
  · rename_i unread
    rw [unread.1]
    rfl
  · rfl

theorem reading_applied {i : Nat} : script.reading i = .applied ↔ script.add i = .applied := by
  unfold Script.reading
  split
  · rename_i unread
    simp [unread.1]
  · exact Iff.rfl

theorem applyAdd_removed {l u : AddLoop Turns} {add : PlannedAdd}
    (turn : applyAdd script.ports plan l add = .ok u) : u.port.removed = l.port.removed := by
  unfold applyAdd at turn
  dsimp only at turn
  split at turn
  · have asks : ∀ presence port, (askOnce script.ports plan presence port).2.removed =
        port.removed := by
      intro presence port
      cases presence <;> rfl
    unfold readMissing at turn
    split at turn
    · cases turn
    · cases turn
      exact asks _ _
    · cases turn
      rw [settleAdd_port, if_neg (by decide)]
      exact asks _ _
  · cases turn
    rw [settleAdd_port]
    split <;> rfl

/-- Where the adds leave a script: no removal is answered yet, and one question if any of them
missed. -/
theorem applyAdds_port {unmirrorable : List Str} {accepted : List Email} {u : AddLoop Turns}
    (played : Played script plan.adds.length u)
    (adds : applyAdds script.ports plan plan.adds (loopStart unmirrorable accepted ⟨0, 0, 0⟩) =
      .ok u) :
    u.port = ⟨plan.adds.length, 0, if script.missed plan.adds.length then 1 else 0⟩ := by
  have removed : u.port.removed = 0 := by
    have start : (loopStart unmirrorable accepted (⟨0, 0, 0⟩ : Turns)).port.removed = 0 := rfl
    have each : ∀ item ∈ plan.adds, ∀ s t : AddLoop Turns, s.port.removed = 0 →
        applyAdd script.ports plan s item = .ok t → t.port.removed = 0 :=
      fun _ _ _ _ before turn => (applyAdd_removed turn).trans before
    exact @foldlM_keeps _ _ _ _ _ _ _ (fun s : AddLoop Turns => s.port.removed = 0) each start adds
  have parts : u.port = ⟨u.port.added, u.port.removed, u.port.asked⟩ := rfl
  rw [parts, played.added, removed, played.asked]

/-- A group whose adds are believed has every answer in its tally and every verdict in its
refusals. -/
theorem believed_adds {unmirrorable : List Str} {accepted : List Email} {l : AddLoop Turns}
    (run : applyAdds script.ports plan plan.adds (loopStart unmirrorable accepted ⟨0, 0, 0⟩) >>=
      confirmAdds script.ports plan = .ok l) :
    l.tally = script.addTally plan ∧ l.found.length = tallied l.tally SyncOutcome.unmirrorable ∧
      l.port = ⟨plan.adds.length, 0, script.questions plan.adds.length⟩ := by
  obtain ⟨u, adds, confirmed⟩ := bind_ok.mp run
  have played : Played script plan.adds.length u :=
    played_run (played_start unmirrorable accepted 0) adds
  have found : FoundTallied u := by
    have start : FoundTallied (loopStart unmirrorable accepted (⟨0, 0, 0⟩ : Turns)) := rfl
    exact foldlM_keeps (fun _ _ _ _ found turn => found.applyAdd turn) start adds
  have place := applyAdds_port played adds
  unfold confirmAdds at confirmed
  rw [played.found] at confirmed
  by_cases doubted : script.missed plan.adds.length = true ∧ script.presence 0 = .present
  · have second : presenceOf script.ports.lister plan.groupEmail u.port =
        (script.presence 1, ⟨plan.adds.length, 0, 2⟩) := by
      rw [place, if_pos doubted.1]
      rfl
    rw [doubted.1, doubted.2, if_pos (by decide), second] at confirmed
    dsimp only at confirmed
    split at confirmed
    · cases confirmed
      have asked : script.questions plan.adds.length = 2 :=
        (if_pos doubted.1).trans (if_pos doubted.2)
      rw [asked]
      exact ⟨played.tally, found.length, rfl⟩
    · cases confirmed
  · have clear : (script.missed plan.adds.length && decide (script.presence 0 = .present)) =
        false := by
      simpa using doubted
    rw [clear, if_neg Bool.false_ne_true] at confirmed
    cases confirmed
    refine ⟨played.tally, found.length, place.trans ?_⟩
    unfold Script.questions
    by_cases missed : script.missed plan.adds.length = true
    · rw [if_pos missed, if_pos missed, if_neg fun there => doubted ⟨missed, there⟩]
    · rw [if_neg missed, if_neg missed]

theorem removes_played (removes : List Email) (l : RemoveLoop Turns) :
    removes.foldl (applyRemove script.ports plan) l =
      let outcomes := (List.range' l.port.removed removes.length).map script.remove
      { tally := l.tally ++ outcomes, converged := l.converged + tallied outcomes (· = .alreadyConverged),
        port := { l.port with removed := l.port.removed + removes.length } } := by
  induction removes generalizing l with
  | nil => simp [tallied]
  | cons address removes ih =>
    have one : applyRemove script.ports plan l address =
        { tally := l.tally ++ [script.remove l.port.removed],
          converged := l.converged + if script.remove l.port.removed = .alreadyConverged then 1
            else 0,
          port := { l.port with removed := l.port.removed + 1 } } := by
      unfold applyRemove
      cases outcome : script.remove l.port.removed <;> simp [Script.ports, outcome]
    have place : l.port.removed + 1 + removes.length = l.port.removed + (removes.length + 1) :=
      by omega
    rw [List.foldl_cons, ih, one, List.length_cons, List.range'_succ, List.map_cons]
    simp only [List.append_assoc, List.singleton_append, tallied_cons, decide_eq_true_eq, place]
    simp only [Nat.add_assoc, Nat.add_comm]

/-- The removes close on the vanished exit exactly where the script vanishes. -/
theorem applyRemoves_played :
    (applyRemoves script.ports plan (script.addTally plan)
        ⟨plan.adds.length, 0, script.questions plan.adds.length⟩).1 =
      if script.Vanishes plan then vanished plan (script.addTally plan ++ script.removeTally plan)
      else completed plan (script.addTally plan ++ script.removeTally plan) := by
  have all : tallied (script.removeTally plan) (· = .alreadyConverged) = plan.removes.length ↔
      ∀ i < plan.removes.length, script.remove i = .alreadyConverged := by
    simp only [removeTally_all, decide_eq_true_eq]
  have none : (∀ i < plan.removes.length, script.remove i = .alreadyConverged) →
      (tallied (script.addTally plan ++ script.removeTally plan) (· = .applied) = 0 ↔
        ∀ i < plan.adds.length, script.add i ≠ .applied) := by
    intro gone
    have noRemove : tallied (script.removeTally plan) (· = .applied) = 0 :=
      removeTally_none.mpr fun i within => by simp [gone i within]
    rw [tallied_append, noRemove, Nat.add_zero, addTally_none]
    simp only [decide_eq_false_iff_not, reading_applied, ne_eq]
  have closing : ∀ turns : Turns, presenceOf script.ports.lister plan.groupEmail turns =
      (script.presence turns.asked, { turns with asked := turns.asked + 1 }) := fun _ => rfl
  have removed : (List.range' 0 plan.removes.length).map script.remove =
      script.removeTally plan := by
    rw [Script.removeTally, List.range_eq_range']
  unfold applyRemoves
  rw [removes_played]
  dsimp only
  rw [closing, removed, Nat.zero_add]
  by_cases shape : plan.removes ≠ [] ∧ (∀ i < plan.removes.length,
    script.remove i = .alreadyConverged) ∧ ∀ i < plan.adds.length, script.add i ≠ .applied
  · have quiet : plan.removes ≠ [] ∧
        tallied (script.removeTally plan) (· = .alreadyConverged) = plan.removes.length ∧
        tallied (script.addTally plan ++ script.removeTally plan) (· = .applied) = 0 :=
      ⟨shape.1, all.mpr shape.2.1, (none shape.2.1).mpr shape.2.2⟩
    have vanishes : script.Vanishes plan ↔
        script.presence (script.questions plan.adds.length) = .gone :=
      ⟨fun h => h.2.2.2, fun gone => ⟨shape.1, shape.2.1, shape.2.2, gone⟩⟩
    rw [if_pos quiet]
    simp only [vanishes]
  · rw [if_neg fun h => shape ⟨h.1, all.mp h.2.1, (none (all.mp h.2.1)).mp h.2.2⟩,
      if_neg fun h => shape ⟨h.1, h.2.1, h.2.2.1⟩]

/-! ### Conservation -/

/-- A group that vanished is counted right when there was nothing to lose: every add was skipped. -/
theorem vanished_conserves (vanishes : script.Vanishes plan) :
    ((vanished plan (script.addTally plan ++ script.removeTally plan)).Accounted ∧
      tallied (script.addTally plan) SyncOutcome.unmirrorable = 0) ↔
      ∀ i < plan.adds.length, (script.add i).skipped = true := by
  have skips : tallied (script.addTally plan ++ script.removeTally plan) SyncOutcome.skipped =
      plan.adds.length ↔ ∀ i < plan.adds.length, (script.add i).skipped = true := by
    have noRemove : tallied (script.removeTally plan) SyncOutcome.skipped = 0 :=
      removeTally_none.mpr fun i within => by simp [vanishes.2.1 i within, SyncOutcome.skipped]
    rw [tallied_append, noRemove, Nat.add_zero, addTally_all]
    simp only [reading_skipped]
  rw [vanished_accounted, skips]
  refine ⟨And.left, fun skipped => ⟨skipped, addTally_none.mpr fun i within => ?_⟩⟩
  have skip := skipped i within
  rw [← reading_skipped] at skip
  cases read : script.reading i <;>
    simp [read, SyncOutcome.skipped, SyncOutcome.unmirrorable] at skip ⊢

/-- A completed group is counted right when its refusals are those of its adds. -/
theorem completed_conserves :
    ((completed plan (script.addTally plan ++ script.removeTally plan)).Accounted ∧
      tallied (script.addTally plan) SyncOutcome.unmirrorable =
        (completed plan (script.addTally plan ++ script.removeTally plan)).unmirrorable) ↔
      ∀ i < plan.removes.length, (script.remove i).unmirrorable = false := by
  have accounted : (completed plan (script.addTally plan ++
      script.removeTally plan)).Accounted := by
    apply completed_accounted
    rw [List.length_append, addTally_length, removeTally_length]
  rw [and_iff_right accounted, ← removeTally_none]
  unfold completed
  dsimp only
  rw [tallied_append]
  omega

end

section
variable (script : Script) (plan : GroupPlan) (unmirrorable : List Str) (refusals : List Refusal)
    (accepted : List Email)

/-- The outcome counts every planned operation once, and the refusals a group not abandoned adds to
the run. -/
def Conserves : Prop :=
  let result := apply script.ports plan unmirrorable refusals accepted ⟨0, 0, 0⟩
  result.outcome.Accounted ∧
    (¬Abandons script.ports plan unmirrorable accepted ⟨0, 0, 0⟩ →
      result.refusals.length = refusals.length + result.outcome.unmirrorable)

/-- The counts are right unless a removal is answered with a verdict about an address, or the group
vanishes under adds that were not all skipped. -/
theorem conserves_iff :
    Conserves script plan unmirrorable refusals accepted ↔
      script.disowns plan.adds.length = true ∨
        ((∀ i < plan.removes.length, (script.remove i).unmirrorable = false) ∧
          (script.Vanishes plan → ∀ i < plan.adds.length, (script.add i).skipped = true)) := by
  have disowns : Abandons script.ports plan unmirrorable accepted ⟨0, 0, 0⟩ ↔ _ := abandons_iff
  rw [← disowns]
  unfold Conserves apply
  cases run : applyAdds script.ports plan plan.adds (loopStart unmirrorable accepted ⟨0, 0, 0⟩) >>=
      confirmAdds script.ports plan with
  | error l =>
    have abandons : Abandons script.ports plan unmirrorable accepted ⟨0, 0, 0⟩ := ⟨l, run⟩
    exact iff_of_true ⟨abandoned_accounted, fun kept => absurd abandons kept⟩ (Or.inl abandons)
  | ok l =>
    obtain ⟨tally, found, place⟩ := believed_adds run
    have kept : ¬Abandons script.ports plan unmirrorable accepted ⟨0, 0, 0⟩ := by
      rintro ⟨other, left⟩
      cases run.symm.trans left
    simp only [finish, kept, not_false_eq_true, forall_true_left, List.length_append, found,
      tally, place, applyRemoves_played, false_or, Nat.add_left_cancel_iff]
    by_cases vanishes : script.Vanishes plan
    · have gone : ∀ i < plan.removes.length, (script.remove i).unmirrorable = false :=
        fun i within => by
        simp [vanishes.2.1 i within, SyncOutcome.unmirrorable]
      rw [if_pos vanishes, forall_prop_of_true vanishes, and_iff_right gone]
      exact vanished_conserves vanishes
    · rw [if_neg vanishes, completed_conserves]
      exact ⟨fun none => ⟨none, fun v => absurd v vanishes⟩, And.left⟩

end

/-- An address Google has no account for is offered, the one stranger is already gone, and so is the
group. -/
def lostRefusal : Script where
  add := fun _ => .noGoogleAccount
  remove := fun _ => .alreadyConverged
  groupExists := fun _ => .ok false

def lostPlan : GroupPlan := { oneAdd with removes := [str "gus@pdx.org"] }

theorem vanished_loses_refusal : ¬Conserves lostRefusal lostPlan [] [] [] := by
  intro conserved
  have accounted : ¬(apply lostRefusal.ports lostPlan [] [] [] ⟨0, 0, 0⟩).outcome.Accounted := by
    unfold GroupOutcome.Accounted
    decide
  exact accounted conserved.1

end Rosadmin
