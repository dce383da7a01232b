import Rosadmin.Sweep.Workspace

/-!
# The ledger of a run

Everything a run knows about addresses is a function of the inserts it issued
and of what Google answered: which are withheld, which were accepted, and which
refusals are held for the store.
-/

namespace Rosadmin
open Foundation

section
variable (answers : Answers)

/-- Google denies, or will not confirm at the end, a group that answered a 404 in this run. -/
def Answers.disownsIn (inserts : List Insert) (group : Email) : Bool :=
  inserts.any (fun c => c.group = group && c.outcome = .addressNotFound) &&
    (answers.presence group 0 = .gone ||
      (answers.presence group 0 = .present && answers.presence group 1 ≠ .present))

def Answers.refused (c : Insert) : Bool := answers.refuses c.group c.address

/-- The refusals of groups that Google stands behind. -/
def Answers.believed (inserts : List Insert) : List Insert :=
  inserts.filter (fun c => answers.refused c && !answers.disownsIn inserts c.group)

def Refusal.origin (r : Refusal) : Insert := ⟨r.groupEmail, r.address, r.outcome⟩

/-- What a run that swept `swept` has kept of its inserts. -/
structure Ledger (statuses : EmailStatuses) (swept : List Email) (s : RunState Workspace) :
    Prop where
  groups : ∀ c ∈ s.port.inserts, c.group ∈ swept
  outcomes : ∀ c ∈ s.port.inserts, c.outcome = answers.insert c.group c.address
  unmirrorable : ∀ u, u ∈ s.unmirrorable ↔ u ∈ statuses.live ∨
    ∃ c ∈ s.port.inserts, answers.refused c = true ∧ casefold c.address = u
  accepted : ∀ x, x ∈ s.accepted ↔ ∃ c ∈ s.port.inserts, c.outcome.accepted = true ∧ c.address = x
  refusals : s.refusals.map Refusal.origin = answers.believed s.port.inserts

end

section
variable {answers : Answers} {mainGroupEmail : Email} {statuses : EmailStatuses}
    {allowMassRemoval : Bool}

theorem ledger_start {w : Workspace} (unasked : w.inserts = []) :
    Ledger answers statuses [] (.start statuses w) where
  groups := by simp [RunState.start, unasked]
  outcomes := by simp [RunState.start, unasked]
  unmirrorable := by simp [RunState.start, unasked]
  accepted := by simp [RunState.start, unasked]
  refusals := by simp [RunState.start, unasked, Answers.believed]

section
variable (answers) (mainGroupEmail) (statuses) (allowMassRemoval)

def finalPlan (s : RunState Workspace) (audience : Email × Audience) : GroupPlan :=
  (rechecked answers.ports mainGroupEmail statuses
    (s.plan allowMassRemoval audience (s.port.contents audience.1)) (s.port.listing audience.1)).1

end

theorem finalPlan_groupEmail (s : RunState Workspace) (audience : Email × Audience) :
    (finalPlan answers mainGroupEmail statuses allowMassRemoval s audience).groupEmail =
      audience.1 := by
  unfold finalPlan rechecked
  split <;> rfl

theorem sweepGroup_unlisted {s : RunState Workspace} {audience : Email × Audience}
    {error : HttpError} (failed : answers.unlisted audience.1 = some error) :
    sweepGroup answers.ports mainGroupEmail statuses allowMassRemoval s audience =
      { s with
        outcomes := s.outcomes ++ [unlisted audience.1], port := s.port.listing audience.1 } := by
  have lists : answers.ports.lister.list audience.1 s.port =
      (.error error, s.port.listing audience.1) := by
    show (s.port.listed answers audience.1, _) = _
    rw [Workspace.listed, failed]
  unfold sweepGroup
  rw [lists]

theorem sweepGroup_listed (mainGroupEmail : Email) (statuses : EmailStatuses)
    (allowMassRemoval : Bool) (s : RunState Workspace) {audience : Email × Audience}
    (listed : answers.unlisted audience.1 = none) :
    ∃ done issued, Done answers (finalPlan answers mainGroupEmail statuses allowMassRemoval s
      audience) s.unmirrorable
        s.refusals s.accepted (s.port.listing audience.1) done issued ∧
      let next := sweepGroup answers.ports mainGroupEmail statuses allowMassRemoval s audience
      next.unmirrorable = done.unmirrorable ∧ next.refusals = done.refusals ∧
        next.accepted = done.accepted ∧ next.port = done.port := by
  obtain ⟨issued, done⟩ :=
    apply_done answers (finalPlan answers mainGroupEmail statuses allowMassRemoval s audience)
    s.unmirrorable s.refusals s.accepted (s.port.listing audience.1) rfl
  refine ⟨_, issued, done, ?_⟩
  have unchanged : (rechecked answers.ports mainGroupEmail statuses
      (s.plan allowMassRemoval audience (s.port.contents audience.1))
        (s.port.listing audience.1)).2 = s.port.listing audience.1 := by
    unfold rechecked
    split <;> rfl
  unfold sweepGroup
  have lists : answers.ports.lister.list audience.1 s.port =
      (.ok (s.port.contents audience.1), s.port.listing audience.1) := by
    show (s.port.listed answers audience.1, _) = _
    rw [Workspace.listed, listed]
  rw [lists]
  dsimp only
  rw [unchanged]
  exact ⟨rfl, rfl, rfl, rfl⟩

def segment (answers : Answers) (group : Email) (issued : List PlannedAdd) : List Insert :=
  issued.map (fun a => ⟨group, a.address, answers.insert group a.address⟩)

theorem group_of_segment {group : Email} {issued : List PlannedAdd} {c : Insert}
    (member : c ∈ segment answers group issued) : c.group = group := by
  obtain ⟨a, -, rfl⟩ := List.mem_map.mp member
  rfl

theorem exists_segment {group : Email} {issued : List PlannedAdd} {p : Insert → Prop} :
    (∃ c ∈ segment answers group issued, p c) ↔
      ∃ a ∈ issued, p ⟨group, a.address, answers.insert group a.address⟩ := by
  simp [segment]

theorem disownsIn_append_other {inserts more : List Insert} {group : Email}
    (other : ∀ c ∈ more, c.group ≠ group) :
    answers.disownsIn (inserts ++ more) group = answers.disownsIn inserts group := by
  have none : more.any (fun c => c.group = group && c.outcome = .addressNotFound) = false :=
    List.any_eq_false.mpr fun c member => by simp [other c member]
  simp only [Answers.disownsIn, List.any_append, none, Bool.or_false]

theorem disownsIn_append_fresh {inserts : List Insert} {group : Email} {issued : List PlannedAdd}
    (fresh : ∀ c ∈ inserts, c.group ≠ group) :
    answers.disownsIn (inserts ++ segment answers group issued) group =
      (issued.any (fun a => answers.insert group a.address = .addressNotFound) &&
        (answers.presence group 0 = .gone ||
          (answers.presence group 0 = .present && answers.presence group 1 ≠ .present))) := by
  have none : inserts.any (fun c => c.group = group && c.outcome = .addressNotFound) = false :=
    List.any_eq_false.mpr fun c member => by simp [fresh c member]
  have own : (segment answers group issued).any (fun c =>
      c.group = group && c.outcome = .addressNotFound) =
        issued.any (fun a => answers.insert group a.address = .addressNotFound) := by
    rw [segment, List.any_map]
    congr 1
    funext a
    simp
  simp only [Answers.disownsIn, List.any_append, none, own, Bool.false_or]

theorem reading_of_refuses {group address : Email}
    (refuses : answers.refuses group address = true) :
    answers.reading group address = answers.insert group address := by
  unfold Answers.refuses at refuses
  unfold Answers.reading at refuses ⊢
  split at refuses
  · cases refuses
  · rename_i readable
    rw [if_neg readable]

theorem believed_append {inserts : List Insert} {plan : GroupPlan} {issued : List PlannedAdd}
    (elsewhere : ∀ c ∈ inserts, c.group ≠ plan.groupEmail)
    (missing : issued.any (fun a => answers.insert plan.groupEmail a.address = .addressNotFound) =
      plan.adds.any (fun a => answers.insert plan.groupEmail a.address = .addressNotFound)) :
    answers.believed (inserts ++ segment answers plan.groupEmail issued) =
      answers.believed inserts ++ (if answers.disowns plan.groupEmail plan.adds then []
      else (issued.filter (fun a => answers.refuses plan.groupEmail a.address)).map (fun a =>
        (⟨a.address, a.memberId, plan.groupEmail,
          answers.reading plan.groupEmail a.address⟩ : Refusal))).map
          Refusal.origin := by
  have mine : answers.disownsIn (inserts ++ segment answers plan.groupEmail issued)
      plan.groupEmail = answers.disowns plan.groupEmail plan.adds := by
    rw [disownsIn_append_fresh elsewhere, missing]
    rfl
  have others : ∀ c ∈ inserts,
      answers.disownsIn (inserts ++ segment answers plan.groupEmail issued) c.group =
        answers.disownsIn inserts c.group :=
    fun c member => disownsIn_append_other fun d new same =>
      elsewhere c member (same.symm.trans (group_of_segment new))
  unfold Answers.believed
  rw [List.filter_append]
  congr 1
  · exact List.filter_congr fun c member => by rw [others c member]
  by_cases disowned : answers.disowns plan.groupEmail plan.adds = true
  · rw [if_pos disowned, List.map_nil, List.filter_eq_nil_iff]
    intro c new
    rw [group_of_segment new, mine, disowned]
    simp
  · have own : ∀ c ∈ segment answers plan.groupEmail issued,
        (answers.refused c && !answers.disownsIn (inserts ++
          segment answers plan.groupEmail issued) c.group) =
          answers.refuses plan.groupEmail c.address := by
      intro c new
      rw [Answers.refused, group_of_segment new, mine, eq_false_of_ne_true disowned]
      simp
    rw [if_neg disowned, List.filter_congr own, segment, List.filter_map, List.map_map]
    apply List.map_congr_left
    intro a member
    have refuses : answers.refuses plan.groupEmail a.address = true := (List.mem_filter.mp member).2
    simp [Refusal.origin, reading_of_refuses refuses]

section
variable {s : RunState Workspace} {audience : Email × Audience} {swept : List Email}

theorem ledger_step (ledger : Ledger answers statuses swept s) (fresh : audience.1 ∉ swept) :
    Ledger answers statuses (swept ++ [audience.1])
      (sweepGroup answers.ports mainGroupEmail statuses allowMassRemoval s audience) := by
  cases failed : answers.unlisted audience.1 with
  | some error =>
    rw [sweepGroup_unlisted failed]
    exact { ledger with groups := fun c member => List.mem_append_left _ (ledger.groups c member) }
  | none =>
    obtain ⟨done, issued, settled, unmirrorable, refusals, accepted, port⟩ :=
      sweepGroup_listed mainGroupEmail statuses allowMassRemoval s failed
    generalize sweepGroup answers.ports mainGroupEmail statuses allowMassRemoval s audience =
      next at *
    have group : (finalPlan answers mainGroupEmail statuses allowMassRemoval s
        audience).groupEmail = audience.1 :=
      finalPlan_groupEmail s audience
    generalize finalPlan answers mainGroupEmail statuses allowMassRemoval s audience = plan at *
    rw [← group] at fresh ⊢
    have inserts : next.port.inserts = s.port.inserts ++
        segment answers plan.groupEmail issued := by
      rw [port, settled.inserts]; rfl
    have elsewhere : ∀ c ∈ s.port.inserts, c.group ≠ plan.groupEmail :=
      fun c member same => fresh (same ▸ ledger.groups c member)
    constructor
    · intro c member
      rw [inserts] at member
      rcases List.mem_append.mp member with old | new
      · exact List.mem_append_left _ (ledger.groups c old)
      · exact List.mem_append_right _ (List.mem_singleton.mpr (group_of_segment new))
    · intro c member
      rw [inserts] at member
      rcases List.mem_append.mp member with old | new
      · exact ledger.outcomes c old
      · obtain ⟨a, -, rfl⟩ := List.mem_map.mp new
        rfl
    · intro u
      rw [unmirrorable, settled.unmirrorable, ledger.unmirrorable, inserts, or_assoc]
      simp only [List.mem_append, or_and_right, exists_or, exists_segment]
      rfl
    · intro x
      rw [accepted, settled.accepted, ledger.accepted, inserts]
      simp only [List.mem_append, or_and_right, exists_or, exists_segment]
    · rw [refusals, settled.refusals, List.map_append, ledger.refusals, inserts,
        believed_append elsewhere settled.missing]

end

/-- The ledger of a run over any groups, each swept once. -/
theorem ledger_run {audiences : List (Email × Audience)} {s : RunState Workspace}
    {swept : List Email} (ledger : Ledger answers statuses swept s)
    (distinct : (swept ++ audiences.map (·.1)).Nodup) :
    Ledger answers statuses (swept ++ audiences.map (·.1))
      (audiences.foldl (sweepGroup answers.ports mainGroupEmail statuses allowMassRemoval) s) := by
  induction audiences generalizing s swept with
  | nil => simpa using ledger
  | cons audience audiences ih =>
    rw [List.map_cons, List.append_cons] at distinct ⊢
    have fresh : audience.1 ∉ swept := fun member =>
      (List.nodup_append.mp (List.nodup_append.mp distinct).1).2.2 _ member
        _ (List.mem_singleton_self _) rfl
    exact ih (ledger_step ledger fresh) distinct

section
variable (answers) (mainGroupEmail) (statuses) (allowMassRemoval)

def runOver (contents : Email → List GroupMemberEntry) (audiences : List (Email × Audience)) :
    RunState Workspace :=
  audiences.foldl (sweepGroup answers.ports mainGroupEmail statuses allowMassRemoval)
    (.start statuses (.opened contents))

end

theorem ledger_runOver {contents : Email → List GroupMemberEntry}
    {audiences : List (Email × Audience)} (distinct : (audiences.map (·.1)).Nodup) :
    Ledger answers statuses (audiences.map (·.1))
      (runOver answers mainGroupEmail statuses allowMassRemoval contents audiences) := by
  have start : Ledger answers statuses [] (.start statuses (.opened contents)) := ledger_start rfl
  exact ledger_run start distinct

end

end Rosadmin
