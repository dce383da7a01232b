import Rosadmin.Sweep.Steps

/-!
# A run and its record

Any ports can be recorded: the same answers, with every call kept beside the
world it was made in. A recorded run is the run itself, and what a run does to
a group is read off its record.
-/

namespace Rosadmin
open Foundation

inductive Call where
  | list (group : Email) (answer : Except HttpError (List GroupMemberEntry))
  | groupExists (group : Email) (answer : Except HttpError Bool)
  | add (group : Option Email) (address : Email) (outcome : SyncOutcome)
  | remove (group : Option Email) (address : Email) (outcome : SyncOutcome)
  | pool (db : Database)

def Call.group : Call → Option Email
  | .list group _ => some group
  | .groupExists group _ => some group
  | .add group _ _ => group
  | .remove group _ _ => group
  | .pool _ => none

def Call.isList : Call → Bool
  | .list _ _ => true
  | _ => false

def Call.isRemove : Call → Bool
  | .remove _ _ _ => true
  | _ => false

/-- A call with the world it was made in. -/
structure Entry (σ : Type) where
  call : Call
  world : σ

structure Recorded (σ : Type) where
  world : σ
  calls : List (Entry σ)

section
variable {σ : Type}

def Recorded.ask {α : Type} (r : Recorded σ) (f : σ → α × σ) (call : α → Call) : α × Recorded σ :=
  ((f r.world).1, ⟨(f r.world).2, r.calls ++ [⟨call (f r.world).1, r.world⟩]⟩)

def Ports.recorded (ports : Ports σ) : Ports (Recorded σ) where
  sync :=
    { add := fun group address r => r.ask (ports.sync.add group address) (.add group address)
      remove := fun group address r =>
        r.ask (ports.sync.remove group address) (.remove group address) }
  lister :=
    { list := fun group r => r.ask (ports.lister.list group) (.list group)
      groupExists := fun group r => r.ask (ports.lister.groupExists group) (.groupExists group) }
  audit := fun event r => { r with world := ports.audit event r.world }
  pool := fun r => r.ask ports.pool .pool

end

/-! ### The record does not disturb the run -/

section
variable {σ : Type} (ports : Ports σ) (plan : GroupPlan)

def AddLoop.unrecorded (l : AddLoop (Recorded σ)) : AddLoop σ := { l with port := l.port.world }

def RemoveLoop.unrecorded (l : RemoveLoop (Recorded σ)) : RemoveLoop σ :=
  { l with port := l.port.world }

def Applied.unrecorded (done : Applied (Recorded σ)) : Applied σ :=
  { done with port := done.port.world }

def RunState.unrecorded (s : RunState (Recorded σ)) : RunState σ := { s with port := s.port.world }

def unrecordedEnd : Except (AddLoop (Recorded σ)) (AddLoop (Recorded σ)) →
    Except (AddLoop σ) (AddLoop σ)
  | .ok l => .ok l.unrecorded
  | .error l => .error l.unrecorded

theorem settleAdd_unrecorded (a : PlannedAdd) (outcome : SyncOutcome) (l : AddLoop (Recorded σ)) :
    settleAdd ports plan a outcome l.unrecorded =
      (settleAdd ports.recorded plan a outcome l).unrecorded := by
  cases outcome <;> rfl

theorem askOnce_unrecorded (presence : Option Presence) (r : Recorded σ) :
    askOnce ports plan presence r.world =
      ((askOnce ports.recorded plan presence r).1,
        (askOnce ports.recorded plan presence r).2.world) := by
  cases presence <;> rfl

theorem applyAdd_unrecorded (l : AddLoop (Recorded σ)) (a : PlannedAdd) :
    applyAdd ports plan l.unrecorded a = unrecordedEnd (applyAdd ports.recorded plan l a) := by
  unfold applyAdd
  show (if (ports.sync.add (some plan.groupEmail) a.address l.port.world).1 =
      .addressNotFound then _ else _) =
    unrecordedEnd (if (ports.sync.add (some plan.groupEmail) a.address l.port.world).1 =
      .addressNotFound then _ else _)
  by_cases missing : (ports.sync.add (some plan.groupEmail) a.address l.port.world).1 =
    .addressNotFound
  · rw [if_pos missing, if_pos missing]
    have asked := askOnce_unrecorded ports plan l.presence
      (ports.recorded.sync.add (some plan.groupEmail) a.address l.port).2
    show readMissing ports plan l.unrecorded a (askOnce ports plan l.presence
      (ports.recorded.sync.add (some plan.groupEmail) a.address l.port).2.world) = _
    rw [asked]
    generalize askOnce ports.recorded plan l.presence _ = heard
    unfold readMissing
    cases heard.1 <;> rfl
  · rw [if_neg missing, if_neg missing]
    exact congrArg Except.ok (settleAdd_unrecorded ports plan a
      (ports.sync.add (some plan.groupEmail) a.address l.port.world).1
      { l with port := (ports.recorded.sync.add (some plan.groupEmail) a.address l.port).2 })

theorem applyAdds_unrecorded (adds : List PlannedAdd) (l : AddLoop (Recorded σ)) :
    applyAdds ports plan adds l.unrecorded = unrecordedEnd
      (applyAdds ports.recorded plan adds l) := by
  induction adds generalizing l with
  | nil => rfl
  | cons a adds ih =>
    unfold applyAdds at ih ⊢
    rw [List.foldlM_cons, List.foldlM_cons, applyAdd_unrecorded]
    cases applyAdd ports.recorded plan l a with
    | error e => rfl
    | ok next => exact ih next

theorem confirmAdds_unrecorded (l : AddLoop (Recorded σ)) :
    confirmAdds ports plan l.unrecorded = unrecordedEnd (confirmAdds ports.recorded plan l) := by
  unfold confirmAdds
  show (if l.found.any _ then _ else _) = unrecordedEnd (if l.found.any _ then _ else _)
  split
  · show (if Presence.ofAnswer (ports.lister.groupExists plan.groupEmail l.port.world).1 = .present
      then _ else _) = unrecordedEnd
        (if Presence.ofAnswer (ports.lister.groupExists plan.groupEmail l.port.world).1 = .present
          then _ else _)
    split <;> rfl
  · rfl

theorem applyRemove_unrecorded (l : RemoveLoop (Recorded σ)) (address : Email) :
    applyRemove ports plan l.unrecorded address =
      (applyRemove ports.recorded plan l address).unrecorded := by
  unfold applyRemove
  show (if (ports.sync.remove (some plan.groupEmail) address l.port.world).1 = .applied
    then _ else _) =
    RemoveLoop.unrecorded (if (ports.sync.remove (some plan.groupEmail) address l.port.world).1 =
      .applied then _ else _)
  split
  · rfl
  show (if (ports.sync.remove (some plan.groupEmail) address l.port.world).1 = .alreadyConverged
    then _ else _) = RemoveLoop.unrecorded
      (if (ports.sync.remove (some plan.groupEmail) address l.port.world).1 = .alreadyConverged
        then _ else _)
  split <;> rfl

theorem removes_unrecorded (removes : List Email) (l : RemoveLoop (Recorded σ)) :
    removes.foldl (applyRemove ports plan) l.unrecorded =
      (removes.foldl (applyRemove ports.recorded plan) l).unrecorded := by
  induction removes generalizing l with
  | nil => rfl
  | cons address removes ih => rw [List.foldl_cons, List.foldl_cons, applyRemove_unrecorded, ih]

theorem applyRemoves_unrecorded (tally : List SyncOutcome) (r : Recorded σ) :
    applyRemoves ports plan tally r.world =
      ((applyRemoves ports.recorded plan tally r).1,
        (applyRemoves ports.recorded plan tally r).2.world) := by
  have removed := removes_unrecorded ports plan plan.removes ⟨tally, 0, r⟩
  change plan.removes.foldl (applyRemove ports plan) ⟨tally, 0, r.world⟩ = _ at removed
  unfold applyRemoves
  dsimp only
  rw [removed]
  generalize plan.removes.foldl (applyRemove ports.recorded plan) ⟨tally, 0, r⟩ = l
  show (if plan.removes ≠ [] ∧ l.converged = plan.removes.length ∧
    tallied l.tally (· = .applied) = 0 then _ else _) = _
  split <;> rfl

theorem apply_unrecorded (unmirrorable : List Str) (refusals : List Refusal) (accepted : List Email)
    (r : Recorded σ) : apply ports plan unmirrorable refusals accepted r.world =
      (apply ports.recorded plan unmirrorable refusals accepted r).unrecorded := by
  have adds := applyAdds_unrecorded ports plan plan.adds (loopStart unmirrorable accepted r)
  change applyAdds ports plan plan.adds (loopStart unmirrorable accepted r.world) = _ at adds
  unfold apply
  rw [adds]
  cases applyAdds ports.recorded plan plan.adds (loopStart unmirrorable accepted r) with
  | error l => rfl
  | ok l =>
    show finish ports plan refusals (confirmAdds ports plan l.unrecorded) =
      (finish ports.recorded plan refusals (confirmAdds ports.recorded plan l)).unrecorded
    rw [confirmAdds_unrecorded]
    cases confirmAdds ports.recorded plan l with
    | error l => rfl
    | ok l =>
      have removes := applyRemoves_unrecorded ports plan l.tally l.port
      show finish ports plan refusals (.ok l.unrecorded) = _
      unfold finish
      dsimp only
      show (⟨(applyRemoves ports plan l.tally l.port.world).1, _, _, _,
        (applyRemoves ports plan l.tally l.port.world).2⟩ : Applied σ) = _
      rw [removes]
      rfl

variable (mainGroupEmail : Email) (statuses : EmailStatuses) (allowMassRemoval : Bool)

theorem rechecked_unrecorded (plan : GroupPlan) (r : Recorded σ) :
    rechecked ports mainGroupEmail statuses plan r.world =
      ((rechecked ports.recorded mainGroupEmail statuses plan r).1,
        (rechecked ports.recorded mainGroupEmail statuses plan r).2.world) := by
  unfold rechecked
  split <;> rfl

theorem sweepGroup_unrecorded (s : RunState (Recorded σ)) (audience : Email × Audience) :
    sweepGroup ports mainGroupEmail statuses allowMassRemoval s.unrecorded audience =
      (sweepGroup ports.recorded mainGroupEmail statuses allowMassRemoval s
        audience).unrecorded := by
  unfold sweepGroup
  have listed : ports.recorded.lister.list audience.1 s.port =
    ((ports.lister.list audience.1 s.port.world).1,
      (ports.recorded.lister.list audience.1 s.port).2) := rfl
  have same : (ports.recorded.lister.list audience.1 s.port).2.world =
    (ports.lister.list audience.1 s.port.world).2 := rfl
  have world : s.unrecorded.port = s.port.world := rfl
  rw [listed, world]
  generalize ports.lister.list audience.1 s.port.world = answer at *
  obtain ⟨answer, world⟩ := answer
  generalize (ports.recorded.lister.list audience.1 s.port).2 = r at *
  subst same
  cases answer with
  | error e => rfl
  | ok actual =>
    dsimp only
    rw [rechecked_unrecorded, apply_unrecorded]
    rfl

theorem run_unrecorded (audiences : Audiences) (world : σ) :
    sweepAudiences ports mainGroupEmail statuses allowMassRemoval audiences world =
      (sweepAudiences ports.recorded mainGroupEmail statuses allowMassRemoval audiences ⟨world,
        []⟩).unrecorded := by
  suffices walk : ∀ (groups : List (Email × Audience)) (s : RunState (Recorded σ)),
      groups.foldl (sweepGroup ports mainGroupEmail statuses allowMassRemoval) s.unrecorded =
        (groups.foldl (sweepGroup ports.recorded mainGroupEmail statuses allowMassRemoval)
          s).unrecorded from
    walk audiences.sorted (.start statuses ⟨world, []⟩)
  intro groups
  induction groups with
  | nil => intro s; rfl
  | cons audience groups ih =>
    intro s
    rw [List.foldl_cons, List.foldl_cons, sweepGroup_unrecorded, ih]

end

end Rosadmin
