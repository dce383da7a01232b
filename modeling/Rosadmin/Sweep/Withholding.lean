import Rosadmin.Sweep.Ledger

/-!
# What a run withholds

The set of withheld addresses grows inside the add loop, before Google has been
asked whether the group is there. It is what the run stands behind exactly when
no group that refused an address is disowned.
-/

namespace Rosadmin
open Foundation

/-- Every withheld address was live when the run began or belongs to a refusal the run holds. -/
def Justified {σ : Type} (statuses : EmailStatuses) (s : RunState σ) : Prop :=
  ∀ u ∈ s.unmirrorable, u ∈ statuses.live ∨ ∃ r ∈ s.refusals, casefold r.address = u

section
variable {statuses : EmailStatuses} {mainGroupEmail : Email} {db : Database}

theorem casefold_audience {audience : Email × Audience}
    (member : audience ∈ (audiencesIn statuses db mainGroupEmail).sorted) {key : Str}
    (desired : key ∈ audience.2) :
    casefold key = key := by
  rw [← at_of_sorted member] at desired
  rcases mem_audiencesIn.mp desired with ⟨-, row, -, -, rfl⟩ | ⟨row, -, -, -, rfl⟩
  · exact casefold_casefold _
  · exact casefold_casefold _

end

section
variable {answers : Answers} {mainGroupEmail : Email} {statuses : EmailStatuses}
    {allowMassRemoval : Bool}

theorem sweepGroup_inserts (answers : Answers) (mainGroupEmail : Email) (statuses : EmailStatuses)
    (allowMassRemoval : Bool) (s : RunState Workspace) (audience : Email × Audience) :
    ∃ fresh, (sweepGroup answers.ports mainGroupEmail statuses allowMassRemoval s
      audience).port.inserts = s.port.inserts ++ fresh ∧
      ∀ c ∈ fresh, c.group = audience.1 ∧ c.address ∈ audience.2 ∧ c.address ∉ s.unmirrorable := by
  cases failed : answers.unlisted audience.1 with
  | some error =>
    rw [sweepGroup_unlisted failed]
    exact ⟨[], (List.append_nil _).symm, List.forall_mem_nil _⟩
  | none =>
    obtain ⟨done, issued, settled, -, -, -, port⟩ :=
      sweepGroup_listed mainGroupEmail statuses allowMassRemoval s failed
    refine ⟨_, by rw [port, settled.inserts]; rfl, fun c member => ?_⟩
    obtain ⟨a, issues, rfl⟩ := List.mem_map.mp member
    have planned := settled.early.subset issues
    have first : a ∈ (s.plan allowMassRemoval audience (s.port.contents audience.1)).adds := by
      unfold finalPlan rechecked at planned
      split at planned
      · exact (List.mem_filter.mp planned).1
      · exact planned
    rcases mem_planned_adds first with none | ⟨lacking, open_⟩
    · cases none
    · exact ⟨finalPlan_groupEmail s audience, Dict.mem_iff_item.mpr ⟨_, (mem_missing.mp lacking).1⟩,
        open_⟩

variable {contents : Email → List GroupMemberEntry}

theorem runOver_append (pre : List (Email × Audience)) (audience : Email × Audience) :
    runOver answers mainGroupEmail statuses allowMassRemoval contents (pre ++ [audience]) =
      sweepGroup answers.ports mainGroupEmail statuses allowMassRemoval
        (runOver answers mainGroupEmail statuses allowMassRemoval contents pre) audience := by
  rw [runOver, List.foldl_append]
  rfl

theorem runOver_inserts (answers : Answers) (mainGroupEmail : Email) (statuses : EmailStatuses)
    (allowMassRemoval : Bool) (contents : Email → List GroupMemberEntry)
    (pre post : List (Email × Audience)) :
    ∃ later, (runOver answers mainGroupEmail statuses allowMassRemoval contents
      (pre ++ post)).port.inserts =
        (runOver answers mainGroupEmail statuses allowMassRemoval contents pre).port.inserts ++
          later ∧
      ∀ c ∈ later, c.group ∈ post.map (·.1) := by
  induction post generalizing pre with
  | nil => exact ⟨[], by rw [List.append_nil, List.append_nil], List.forall_mem_nil _⟩
  | cons audience post ih =>
    obtain ⟨fresh, here, own⟩ := sweepGroup_inserts answers mainGroupEmail statuses allowMassRemoval
      (runOver answers mainGroupEmail statuses allowMassRemoval contents pre) audience
    obtain ⟨later, rest, others⟩ := ih (pre ++ [audience])
    refine ⟨fresh ++ later, ?_, fun c member => ?_⟩
    · rw [List.append_cons, rest, runOver_append, here, List.append_assoc]
    · rcases List.mem_append.mp member with new | new
      · exact List.mem_cons.mpr (Or.inl (own c new).1)
      · exact List.mem_cons_of_mem _ (others c new)

theorem disownsIn_append {inserts later : List Insert} {group : Email}
    (disowned : answers.disownsIn inserts group = true) :
    answers.disownsIn (inserts ++ later) group = true := by
  simp only [Answers.disownsIn, List.any_append, Bool.and_eq_true, Bool.or_eq_true] at disowned ⊢
  exact ⟨Or.inl disowned.1, disowned.2⟩

section
variable (answers) (mainGroupEmail) (statuses) (allowMassRemoval) (contents)

/-- After every group of the run what is withheld is justified, and a group Google disowned withheld
nothing new. -/
structure StandsBehind (audiences : List (Email × Audience)) : Prop where
  justified : ∀ pre, pre <+: audiences →
    Justified statuses (runOver answers mainGroupEmail statuses allowMassRemoval contents pre)
  dropped : ∀ pre audience, pre ++ [audience] <+: audiences →
    let before := runOver answers mainGroupEmail statuses allowMassRemoval contents pre
    let after := runOver answers mainGroupEmail statuses allowMassRemoval contents
      (pre ++ [audience])
    answers.disownsIn after.port.inserts audience.1 = true → ∀ u, u ∈ after.unmirrorable ↔
      u ∈ before.unmirrorable

end

section
variable {audiences : List (Email × Audience)}

theorem distinct_of_early {pre : List (Email × Audience)} (distinct : (audiences.map (·.1)).Nodup)
    (early : pre <+: audiences) : (pre.map (·.1)).Nodup :=
  distinct.sublist (early.sublist.map _)

/-- Where no refusing group is disowned, every refusal met is one the run holds. -/
theorem justified_of_owned (distinct : (audiences.map (·.1)).Nodup)
    (owned : ∀ c ∈ (runOver answers mainGroupEmail statuses allowMassRemoval contents
      audiences).port.inserts, answers.refused c = true → answers.disownsIn
        (runOver answers mainGroupEmail statuses allowMassRemoval contents audiences).port.inserts
          c.group = false)
    {pre : List (Email × Audience)} (early : pre <+: audiences) :
    Justified statuses (runOver answers mainGroupEmail statuses allowMassRemoval contents pre) := by
  have ledger : Ledger answers statuses _ (runOver answers mainGroupEmail statuses allowMassRemoval
      contents pre) :=
    ledger_runOver (distinct_of_early distinct early)
  obtain ⟨post, rfl⟩ := early
  obtain ⟨later, whole, -⟩ :=
    runOver_inserts answers mainGroupEmail statuses allowMassRemoval contents pre post
  rw [whole] at owned
  intro u withheld
  refine ((ledger.unmirrorable u).mp withheld).imp_right ?_
  rintro ⟨c, issued, refused, rfl⟩
  have kept : answers.disownsIn
      (runOver answers mainGroupEmail statuses allowMassRemoval contents pre).port.inserts c.group =
        false := by
    by_contra disowned
    rw [Bool.not_eq_false] at disowned
    have never := owned c (List.mem_append_left _ issued) refused
    rw [disownsIn_append disowned] at never
    cases never
  have believed : c ∈ answers.believed
      (runOver answers mainGroupEmail statuses allowMassRemoval contents pre).port.inserts :=
    List.mem_filter.mpr ⟨issued, by rw [refused, kept]; rfl⟩
  rw [← ledger.refusals] at believed
  obtain ⟨r, held, origin⟩ := List.mem_map.mp believed
  exact ⟨r, held, by rw [← origin]; rfl⟩

theorem dropped_of_owned (distinct : (audiences.map (·.1)).Nodup)
    (owned : ∀ c ∈ (runOver answers mainGroupEmail statuses allowMassRemoval contents
      audiences).port.inserts, answers.refused c = true → answers.disownsIn
        (runOver answers mainGroupEmail statuses allowMassRemoval contents audiences).port.inserts
          c.group = false)
    {pre : List (Email × Audience)} {audience : Email × Audience}
    (early : pre ++ [audience] <+: audiences)
    (disowned : answers.disownsIn (runOver answers mainGroupEmail statuses allowMassRemoval contents
      (pre ++ [audience])).port.inserts audience.1 = true) (u : Str) :
    u ∈ (runOver answers mainGroupEmail statuses allowMassRemoval contents
      (pre ++ [audience])).unmirrorable ↔
      u ∈ (runOver answers mainGroupEmail statuses allowMassRemoval contents pre).unmirrorable := by
  have after : Ledger answers statuses _
      (runOver answers mainGroupEmail statuses allowMassRemoval contents (pre ++ [audience])) :=
    ledger_runOver (distinct_of_early distinct early)
  have before : Ledger answers statuses _ (runOver answers mainGroupEmail statuses allowMassRemoval
      contents pre) :=
    ledger_runOver (distinct_of_early distinct ((List.prefix_append _ _).trans early))
  obtain ⟨post, rfl⟩ := early
  obtain ⟨later, whole, -⟩ :=
    runOver_inserts answers mainGroupEmail statuses allowMassRemoval contents
    (pre ++ [audience]) post
  obtain ⟨fresh, here, own⟩ :=
    runOver_inserts answers mainGroupEmail statuses allowMassRemoval contents pre [audience]
  rw [whole] at owned
  rw [after.unmirrorable, before.unmirrorable, here]
  simp only [List.mem_append, or_and_right, exists_or]
  refine or_congr_right (or_iff_left ?_)
  rintro ⟨c, new, refused, -⟩
  have group : c.group = audience.1 := List.mem_singleton.mp (own c new)
  have never := owned c (List.mem_append_left _ (by rw [here]; exact List.mem_append_right _ new))
    refused
  rw [group, disownsIn_append disowned] at never
  cases never

section
variable {pre post : List (Email × Audience)} {audience : Email × Audience}
  (distinct : ((pre ++ audience :: post).map (·.1)).Nodup)
include distinct

/-- An insert into a group is issued in that group's turn. -/
theorem insert_in_turn {c : Insert}
    (issued : c ∈ (runOver answers mainGroupEmail statuses allowMassRemoval contents
      (pre ++ audience :: post)).port.inserts) (group : c.group = audience.1) {fresh : List Insert}
    (here : (runOver answers mainGroupEmail statuses allowMassRemoval contents
      (pre ++ [audience])).port.inserts =
      (runOver answers mainGroupEmail statuses allowMassRemoval contents pre).port.inserts ++
        fresh) : c ∈ fresh := by
  have before : Ledger answers statuses _ (runOver answers mainGroupEmail statuses allowMassRemoval
      contents pre) :=
    ledger_runOver (distinct_of_early distinct (List.prefix_append _ _))
  obtain ⟨later, whole, others⟩ :=
    runOver_inserts answers mainGroupEmail statuses allowMassRemoval contents
    (pre ++ [audience]) post
  rw [← List.append_cons] at whole
  rw [List.map_append, List.map_cons] at distinct
  obtain ⟨-, rest, apart⟩ := List.nodup_append.mp distinct
  rw [whole, here] at issued
  rcases List.mem_append.mp issued with early | late
  · rcases List.mem_append.mp early with old | new
    · exact absurd rfl (apart _ (group ▸ before.groups c old) _ List.mem_cons_self)
    · exact new
  · exact absurd (group ▸ others c late) (List.nodup_cons.mp rest).1

/-- A group that ends disowned is disowned as soon as it is swept. -/
theorem disowned_in_turn
    (disowned : answers.disownsIn (runOver answers mainGroupEmail statuses allowMassRemoval contents
      (pre ++ audience :: post)).port.inserts audience.1 = true) :
    answers.disownsIn (runOver answers mainGroupEmail statuses allowMassRemoval contents
      (pre ++ [audience])).port.inserts audience.1 = true := by
  obtain ⟨later, whole, others⟩ :=
    runOver_inserts answers mainGroupEmail statuses allowMassRemoval contents
    (pre ++ [audience]) post
  rw [← List.append_cons] at whole
  rw [List.map_append, List.map_cons] at distinct
  have notPost : audience.1 ∉ post.map (·.1) :=
    (List.nodup_cons.mp (List.nodup_append.mp distinct).2.1).1
  have elsewhere : ∀ d ∈ later, d.group ≠ audience.1 :=
    fun d new same => notPost (same ▸ others d new)
  rw [whole, disownsIn_append_other elsewhere] at disowned
  exact disowned

end

theorem owned_of_justified (distinct : (audiences.map (·.1)).Nodup)
    (folded : ∀ audience ∈ audiences, ∀ key ∈ audience.2, casefold key = key)
    (justified : ∀ pre, pre <+: audiences →
      Justified statuses (runOver answers mainGroupEmail statuses allowMassRemoval contents pre))
    {c : Insert} (issued : c ∈ (runOver answers mainGroupEmail statuses allowMassRemoval contents
      audiences).port.inserts) (refused : answers.refused c = true) :
    answers.disownsIn (runOver answers mainGroupEmail statuses allowMassRemoval contents
      audiences).port.inserts c.group = false := by
  by_contra disowned
  rw [Bool.not_eq_false] at disowned
  obtain ⟨audience, member, group⟩ := List.mem_map.mp ((ledger_runOver distinct).groups c issued)
  obtain ⟨pre, post, rfl⟩ := List.append_of_mem member
  have early : pre ++ [audience] <+: pre ++ audience :: post :=
    ⟨post, (List.append_cons _ _ _).symm⟩
  have after : Ledger answers statuses _
      (runOver answers mainGroupEmail statuses allowMassRemoval contents (pre ++ [audience])) :=
    ledger_runOver (distinct_of_early distinct early)
  have before : Ledger answers statuses _ (runOver answers mainGroupEmail statuses allowMassRemoval
      contents pre) :=
    ledger_runOver (distinct_of_early distinct ((List.prefix_append _ _).trans early))
  obtain ⟨fresh, here, own⟩ := sweepGroup_inserts answers mainGroupEmail statuses allowMassRemoval
    (runOver answers mainGroupEmail statuses allowMassRemoval contents pre) audience
  rw [← runOver_append] at here
  have now := insert_in_turn distinct issued group.symm here
  have gone := disowned_in_turn distinct (group ▸ disowned)
  obtain ⟨-, desired, open_⟩ := own c now
  have withheld : c.address ∈ (runOver answers mainGroupEmail statuses allowMassRemoval contents
      (pre ++ [audience])).unmirrorable := by
    refine (after.unmirrorable _).mpr (Or.inr ⟨c, ?_, refused, folded audience member _ desired⟩)
    rw [here]
    exact List.mem_append_right _ now
  rcases justified _ early _ withheld with live | ⟨r, held, same⟩
  · exact open_ ((before.unmirrorable _).mpr (Or.inl live))
  have believed : r.origin ∈ answers.believed
    (runOver answers mainGroupEmail statuses allowMassRemoval contents
      (pre ++ [audience])).port.inserts := after.refusals ▸ List.mem_map_of_mem held
  obtain ⟨met, vouched⟩ := List.mem_filter.mp believed
  rw [Bool.and_eq_true, Bool.not_eq_true'] at vouched
  rw [here] at met
  rcases List.mem_append.mp met with old | new
  · exact open_ ((before.unmirrorable _).mpr (Or.inr ⟨r.origin, old, vouched.1, same⟩))
  · have mine := vouched.2
    rw [(own _ new).1, gone] at mine
    cases mine

end

/-- A run withholds only what it stands behind exactly when Google disowns no group that refused an
address. -/
theorem stands_behind_iff {db : Database} :
    let audiences := (audiencesIn statuses db mainGroupEmail).sorted
    let run := runOver answers mainGroupEmail statuses allowMassRemoval contents audiences
    StandsBehind answers mainGroupEmail statuses allowMassRemoval contents audiences ↔
      ∀ c ∈ run.port.inserts, answers.refused c = true →
        answers.disownsIn run.port.inserts c.group = false := by
  intro audiences run
  have distinct : (audiences.map (·.1)).Nodup := Dict.sorted_keys_nodup _
  constructor
  · intro behind c issued refused
    exact owned_of_justified distinct (fun audience member key desired =>
      casefold_audience member desired)
      behind.justified issued refused
  · intro owned
    exact ⟨fun pre early => justified_of_owned distinct owned early,
      fun pre audience early disowned u => dropped_of_owned distinct owned early disowned u⟩

end

/-! ### A refusal met just before the group is found gone -/

def twoMembers : Database :=
  { Database.empty with members := [plainMember 0 (str "ana@pdx.org"),
    plainMember 1 (str "bo@pdx.org")], nextId := 2 }

/-- The first address has no account, the second answers a 404, and the group is gone. -/
def vanishing : Answers where
  unlisted := fun _ => none
  insert := fun _ address => if address = str "ana@pdx.org" then .noGoogleAccount
    else .addressNotFound
  delete := fun _ _ => .applied
  groupExists := fun _ _ => .ok false
  reread := fun _ => twoMembers

theorem abandoned_refusal_withheld :
    let statuses : EmailStatuses := ⟨[], Dict.empty, []⟩
    let main := str "everyone@pdx.org"
    ¬StandsBehind vanishing main statuses false (fun _ => [])
      (audiencesIn statuses twoMembers main).sorted := by
  intro statuses main behind
  have withheld : str "ana@pdx.org" ∈ (runOver vanishing main statuses false (fun _ => [])
      (audiencesIn statuses twoMembers main).sorted).unmirrorable := by decide +kernel
  have none : (runOver vanishing main statuses false (fun _ => [])
      (audiencesIn statuses twoMembers main).sorted).refusals = [] := by decide +kernel
  rcases behind.justified _ (List.prefix_refl _) _ withheld with live | ⟨r, held, -⟩
  · cases live
  · rw [none] at held
    cases held

end Rosadmin
