import Rosadmin.Sweep.Report

/-!
# A group Google could not vouch for

The add loop is left in two places: at a 404 of a group that is gone, with that
add untallied, and at the closing question, with every add tallied. What the
abandoned group counts as failed is positive at the first and need not be at
the second.
-/

namespace Rosadmin
open Foundation

/-! ### What the tally sums to -/

theorem tallied_partition (tally : List SyncOutcome) :
    tallied tally (· = .applied) + tallied tally (· = .alreadyConverged) +
      tallied tally SyncOutcome.skipped +
      tallied tally SyncOutcome.unmirrorable + tallied tally (· = .failed) = tally.length := by
  unfold tallied
  induction tally with
  | nil => rfl
  | cons outcome tally ih =>
    simp only [List.countP_cons, List.length_cons]
    cases outcome <;> simp [SyncOutcome.skipped, SyncOutcome.unmirrorable] <;> omega

theorem abandoned_failed (plan : GroupPlan) (tally : List SyncOutcome) :
    (abandoned plan tally).failed =
      plan.adds.length + plan.removes.length - tally.length + tallied tally (· = .failed) := by
  have parts := tallied_partition tally
  simp only [abandoned]
  omega

section
variable {σ : Type} (ports : Ports σ) (plan : GroupPlan)

/-- `_apply` returns through `_abandoned`. -/
def Abandons (unmirrorable : List Str) (accepted : List Email) (port : σ) : Prop :=
  ∃ l, (applyAdds ports plan plan.adds (loopStart unmirrorable accepted port) >>=
    confirmAdds ports plan) = .error l

/-- An abandoned group has failures, and with it every report that lists it. -/
def RedWhenAbandoned (unmirrorable : List Str) (refusals : List Refusal) (accepted : List Email)
    (port : σ) : Prop :=
  Abandons ports plan unmirrorable accepted port →
    let outcome := (apply ports plan unmirrorable refusals accepted port).outcome
    0 < outcome.failed ∧ ∀ report : SweepReport, outcome ∈ report.groups → report.hasFailures = true

end

/-! ### Any sequence of answers -/

/-- The answers to the inserts, the deletes and the questions about the group, in turn. -/
structure Script where
  add : Nat → SyncOutcome
  remove : Nat → SyncOutcome
  groupExists : Nat → Except HttpError Bool

structure Turns where
  added : Nat
  removed : Nat
  asked : Nat

/-- Applying one plan lists no group and reads no table. -/
def Script.ports (script : Script) : Ports Turns where
  sync :=
    { add := fun _ _ t => (script.add t.added, { t with added := t.added + 1 })
      remove := fun _ _ t => (script.remove t.removed, { t with removed := t.removed + 1 }) }
  lister :=
    { list := fun _ t => (.ok [], t)
      groupExists := fun _ t => (script.groupExists t.asked, { t with asked := t.asked + 1 }) }
  audit := fun _ t => t
  pool := fun t => (Database.empty, t)

namespace Script

def presence (script : Script) (turn : Nat) : Presence := .ofAnswer (script.groupExists turn)

/-- One of the first `n` inserts answers a 404. -/
def missed (script : Script) (n : Nat) : Bool :=
  (List.range n).any (fun i => script.add i = .addressNotFound)

/-- The outcome of an insert as it is tallied. -/
def reading (script : Script) (i : Nat) : SyncOutcome :=
  if script.add i = .addressNotFound ∧ script.presence 0 ≠ .present then .failed else script.add i

/-- Google denies, or will not confirm at the end, a group that answered a 404. -/
def disowns (script : Script) (n : Nat) : Bool :=
  script.missed n && (script.presence 0 = .gone ||
    (script.presence 0 = .present && script.presence 1 ≠ .present))

end Script

/-- Where the loop stands after `n` adds. -/
structure Played (script : Script) (n : Nat) (l : AddLoop Turns) : Prop where
  tally : l.tally = (List.range n).map script.reading
  presence : l.presence = if script.missed n then some (script.presence 0) else none
  found : l.found.any (·.outcome = .addressNotFound) =
    (script.missed n && script.presence 0 = .present)
  added : l.port.added = n
  asked : l.port.asked = if script.missed n then 1 else 0
  alive : script.missed n = true → script.presence 0 ≠ .gone

section
variable {script : Script} {plan : GroupPlan} {l u : AddLoop Turns} {n : Nat} {a : PlannedAdd}

theorem Script.missed_succ (script : Script) (n : Nat) :
    script.missed (n + 1) = (script.missed n || script.add n = .addressNotFound) := by
  simp [Script.missed, List.range_succ]

theorem played_start (unmirrorable : List Str) (accepted : List Email) (removed : Nat) :
    Played script 0 (loopStart unmirrorable accepted ⟨0, removed, 0⟩) := by
  refine ⟨rfl, rfl, ?_, rfl, rfl, ?_⟩ <;> simp [Script.missed, loopStart]

/-- One add: its 404 is read with the first answer about the group, in hand or asked for now. -/
theorem Played.turn (played : Played script n l) (a : PlannedAdd) :
    applyAdd script.ports plan l a =
      if script.add n = .addressNotFound
      then readMissing script.ports plan l a (script.presence 0,
        { l.port with added := n + 1, asked := 1 })
      else .ok (settleAdd script.ports plan a (script.add n)
        { l with port := { l.port with added := n + 1 } }) := by
  obtain rfl := played.added
  have asks : askOnce script.ports plan l.presence { l.port with added := l.port.added + 1 } =
      (script.presence 0, { l.port with added := l.port.added + 1, asked := 1 }) := by
    have count := played.asked
    rw [played.presence]
    by_cases before : script.missed l.port.added = true
    · rw [if_pos before] at count ⊢
      rw [← count]
      rfl
    · rw [if_neg before] at count ⊢
      simp [askOnce, presenceOf, Script.ports, Script.presence, count]
  rw [← asks]
  rfl

theorem Played.tally_succ (played : Played script n l) :
    l.tally ++ [script.reading n] = (List.range (n + 1)).map script.reading := by
  rw [played.tally, List.range_succ, List.map_append]
  rfl

theorem Played.missing (played : Played script n l) (missing : script.add n = .addressNotFound)
    (turn : applyAdd script.ports plan l a = .ok u) : Played script (n + 1) u := by
  have missed : script.missed (n + 1) = true := by rw [script.missed_succ, missing]; simp
  rw [played.turn, if_pos missing, readMissing] at turn
  cases known : script.presence 0 with
  | gone =>
    simp only [known] at turn
    cases turn
  | unknown =>
    simp only [known] at turn
    cases turn
    have failed : script.reading n = .failed := by simp [Script.reading, missing, known]
    have found := played.found
    rw [known] at found
    refine ⟨by rw [← played.tally_succ, failed], by rw [missed, known]; rfl, ?_, rfl, by rw [missed]; rfl,
      fun _ => by rw [known]; decide⟩
    rw [missed, known]
    simpa using found
  | present =>
    simp only [known] at turn
    cases turn
    have read : script.reading n = .addressNotFound := by simp [Script.reading, missing, known]
    refine ⟨by rw [settleAdd_tally, ← played.tally_succ, read], by rw [settleAdd_presence, missed, known]; rfl, ?_, ?_,
      ?_, fun _ => by rw [known]; decide⟩
    · rw [settleAdd_found, missed, known]
      simp [SyncOutcome.unmirrorable]
    · rw [settleAdd_port, if_neg (by decide)]
    · rw [settleAdd_port, if_neg (by decide), missed]
      rfl

theorem Played.step (played : Played script n l) (turn : applyAdd script.ports plan l a = .ok u) :
    Played script (n + 1) u := by
  by_cases missing : script.add n = .addressNotFound
  · exact played.missing missing turn
  · have missed : script.missed (n + 1) = script.missed n :=
      by rw [script.missed_succ]; simp [missing]
    have read : script.reading n = script.add n := by simp [Script.reading, missing]
    have port : ∀ outcome w, (if outcome = SyncOutcome.applied then
        script.ports.audit (.sweepMemberAdded a.memberId plan.groupEmail) w else w) = w :=
        fun _ _ => ite_self _
    rw [played.turn, if_neg missing] at turn
    cases turn
    refine ⟨by rw [settleAdd_tally, ← played.tally_succ, read],
      by rw [settleAdd_presence, missed]; exact played.presence, ?_, ?_, ?_, by rw [missed]; exact played.alive⟩
    · rw [settleAdd_found, missed, ← played.found]
      split
      · simp [missing]
      · rfl
    · rw [settleAdd_port, port]
    · rw [settleAdd_port, port, missed]
      exact played.asked

/-- The add that ends the loop is a 404 of a group that is gone, and leaves the tally as it was. -/
theorem Played.ends (played : Played script n l)
    (turn : applyAdd script.ports plan l a = .error u) :
    u.tally = l.tally ∧ script.add n = .addressNotFound ∧ script.presence 0 = .gone := by
  rw [played.turn] at turn
  by_cases missing : script.add n = .addressNotFound
  · rw [if_pos missing, readMissing] at turn
    cases known : script.presence 0 with
    | gone =>
      simp only [known] at turn
      cases turn
      exact ⟨rfl, missing, rfl⟩
    | _ =>
      simp only [known] at turn
      cases turn
  · rw [if_neg missing] at turn
    cases turn

theorem played_run {adds : List PlannedAdd} (start : Played script 0 l)
    (run : applyAdds script.ports plan adds l = .ok u) : Played script adds.length u := by
  suffices step : ∀ done item rest s t, adds = done ++ item :: rest → Played script done.length s →
      applyAdd script.ports plan s item = .ok t → Played script (done ++ [item]).length t from
    foldlM_invariant step start run
  intro done item rest s t _ played turn
  rw [List.length_append, List.length_singleton]
  exact played.step turn

/-! ### The two ways out -/

/-- The loop is left at a 404 of a group that is gone, at the closing question with every add
tallied, or not at all. -/
inductive Exit (script : Script) (adds : Nat) : Except (AddLoop Turns) (AddLoop Turns) → Prop where
  | gone (l : AddLoop Turns) (missed : script.missed adds = true) (gone : script.presence 0 = .gone)
      (short : l.tally.length < adds) : Exit script adds (.error l)
  | unconfirmed (l : AddLoop Turns) (missed : script.missed adds = true)
      (first : script.presence 0 = .present) (second : script.presence 1 ≠ .present)
      (tally : l.tally = (List.range adds).map script.reading) :
      Exit script adds (.error l)
  | kept (l : AddLoop Turns) (owned : script.disowns adds = false) : Exit script adds (.ok l)

theorem exit_of_adds {adds : List PlannedAdd} (plan : GroupPlan) (start : Played script 0 l) :
    Exit script adds.length (applyAdds script.ports plan adds l >>=
      confirmAdds script.ports plan) := by
  cases run : applyAdds script.ports plan adds l with
  | error e =>
    obtain ⟨done, item, rest, u, whole, before, turn⟩ := foldlM_error run
    have played : Played script done.length u := played_run start before
    obtain ⟨tally, missing, gone⟩ := played.ends turn
    have short : done.length < adds.length := by rw [whole]; simp
    refine Exit.gone e ?_ gone ?_
    · exact List.any_eq_true.mpr ⟨done.length, List.mem_range.mpr short, by simp [missing]⟩
    · rw [tally, played.tally, List.length_map, List.length_range]
      exact short
  | ok u =>
    have played := played_run start run
    show Exit script adds.length (confirmAdds script.ports plan u)
    rw [confirmAdds, played.found]
    by_cases doubted : script.missed adds.length = true ∧ script.presence 0 = .present
    · have asked : u.port.asked = 1 := by rw [played.asked, if_pos doubted.1]
      have second : presenceOf script.ports.lister plan.groupEmail u.port =
          (script.presence 1, { u.port with asked := 2 }) := by
        simp [presenceOf, Script.ports, Script.presence, asked]
      rw [doubted.1, doubted.2, if_pos (by decide), second]
      dsimp only
      split
      · rename_i confirmed
        exact Exit.kept _ (by simp [Script.disowns, doubted.2, confirmed])
      · rename_i denied
        exact Exit.unconfirmed _ doubted.1 doubted.2 denied played.tally
    · have clear : (script.missed adds.length && decide (script.presence 0 = .present)) =
          false := by
        simpa using doubted
      rw [clear, if_neg Bool.false_ne_true]
      refine Exit.kept u ?_
      by_cases missed : script.missed adds.length = true
      · have unvouched : script.presence 0 ≠ .present := fun first => doubted ⟨missed, first⟩
        simp [Script.disowns, played.alive missed, unvouched]
      · simp [Script.disowns, eq_false_of_ne_true missed]

theorem abandons_iff {unmirrorable : List Str} {accepted : List Email} :
    Abandons script.ports plan unmirrorable accepted ⟨0, 0, 0⟩ ↔
      script.disowns plan.adds.length = true := by
  have exit : Exit script plan.adds.length _ :=
    exit_of_adds plan (played_start unmirrorable accepted 0)
  unfold Abandons
  generalize applyAdds script.ports plan plan.adds (loopStart unmirrorable accepted ⟨0, 0, 0⟩) >>=
    confirmAdds script.ports plan = run at exit ⊢
  cases exit with
  | gone l missed gone short => exact iff_of_true ⟨l, rfl⟩ (by simp [Script.disowns, missed, gone])
  | unconfirmed l missed first second tally =>
    exact iff_of_true ⟨l, rfl⟩ (by simp [Script.disowns, missed, first, second])
  | kept l owned =>
    refine iff_of_false (fun ⟨_, same⟩ => nomatch same) ?_
    rw [owned]
    exact Bool.false_ne_true

theorem tallied_failed {n : Nat} (vouched : script.presence 0 = .present) :
    0 < tallied ((List.range n).map script.reading) (· = .failed) ↔
      ∃ i < n, script.add i = .failed := by
  have plain : script.reading = script.add := by
    funext i
    exact if_neg fun unread => unread.2 vouched
  rw [tallied, List.countP_pos_iff, plain]
  simp

/-- An abandoned group turns the run red exactly when Google denied the group at its first 404, or
the plan had a remove, or an insert failed: for every plan and every sequence of answers. -/
theorem abandoned_red_iff {unmirrorable : List Str} {refusals : List Refusal}
    {accepted : List Email} :
    RedWhenAbandoned script.ports plan unmirrorable refusals accepted ⟨0, 0, 0⟩ ↔
      script.disowns plan.adds.length = false ∨ script.presence 0 = .gone ∨ plan.removes ≠ [] ∨
        ∃ i < plan.adds.length, script.add i = .failed := by
  have exit : Exit script plan.adds.length _ :=
    exit_of_adds plan (played_start unmirrorable accepted 0)
  have abandons : Abandons script.ports plan unmirrorable accepted ⟨0, 0, 0⟩ ↔ _ := abandons_iff
  rw [RedWhenAbandoned, abandons, apply]
  generalize applyAdds script.ports plan plan.adds (loopStart unmirrorable accepted ⟨0, 0, 0⟩) >>=
    confirmAdds script.ports plan = run at exit ⊢
  have red : ∀ {outcome : GroupOutcome}, 0 < outcome.failed ↔ 0 < outcome.failed ∧
      ∀ report : SweepReport, outcome ∈ report.groups → report.hasFailures = true :=
    ⟨fun failed => ⟨failed, fun _ listed => hasFailures_of_group listed failed⟩, And.left⟩
  dsimp only
  rw [← red]
  cases exit with
  | gone l missed gone short =>
    refine iff_of_true (fun _ => ?_) (Or.inr (Or.inl gone))
    rw [finish, abandoned_failed]
    omega
  | unconfirmed l missed first second tally =>
    have disowned : script.disowns plan.adds.length = true :=
      by simp [Script.disowns, missed, first, second]
    have failed : _ ↔ ∃ i < plan.adds.length, script.add i = .failed := tallied_failed first
    rw [← tally] at failed
    have all : l.tally.length = plan.adds.length :=
      by rw [tally, List.length_map, List.length_range]
    rw [finish, abandoned_failed, all, ← failed, disowned, first]
    have removes : plan.removes ≠ [] ↔ 0 < plan.removes.length := List.length_pos_iff.symm
    rw [removes]
    simp only [true_implies, Bool.true_eq_false, false_or, reduceCtorEq]
    omega
  | kept l owned =>
    refine iff_of_true (fun disowned => ?_) (Or.inl owned)
    rw [owned] at disowned
    cases disowned

end

/-! ### The group goes between the 404 and the closing question -/

def oneAdd : GroupPlan :=
  { groupEmail := str "everyone@pdx.org", adds := [⟨str "ana@pdx.org", 0⟩], removes := [],
    excluded := [], retried := [], refusedRemoves := 0 }

/-- The insert answers a 404, and the group is there at the first question and gone at the
second. -/
def vanishingScript : Script where
  add := fun _ => .addressNotFound
  remove := fun _ => .applied
  groupExists := fun turn => .ok (turn == 0)

theorem abandoned_group_stays_green :
    ¬RedWhenAbandoned vanishingScript.ports oneAdd [] [] [] ⟨0, 0, 0⟩ := by
  intro red
  have abandons : Abandons vanishingScript.ports oneAdd [] [] ⟨0, 0, 0⟩ := ⟨_, rfl⟩
  exact absurd (red abandons).1 (by decide)

end Rosadmin
