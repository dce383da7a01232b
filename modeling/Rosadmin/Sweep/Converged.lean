import Mathlib.Data.Set.Defs
import Rosadmin.Db.Audiences
import Rosadmin.GoogleSync
import Rosadmin.Sweep.Abandon
import Rosadmin.Sweep.Reach

/-!
# What a green sweep leaves

Against a Google that does what it is asked, a run without failures leaves each
group with the desired addresses and without strangers, but for the strangers
the skip gate passes over.
-/

namespace Rosadmin
open Foundation

section
variable {σ : Type}

/-- A real sweep with a lister. -/
def realPorts (directory : Directory σ) (audit : AuditEvent → σ → σ) (pool : σ → Database × σ) :
    Ports σ where
  sync := googleGroupSync directory
  lister := googleGroupLister directory
  audit := audit
  pool := pool

/-- Google does what it is asked, every group stays in place, and nobody else writes: `held` is what
the groups hold. -/
structure Faithful (directory : Directory σ) (audit : AuditEvent → σ → σ) (pool : σ → Database × σ)
    (db : Database) (held : σ → Email → Set GroupMemberEntry) : Prop where
  lists : ∀ g s, held (directory.listMembers g s).2 = held s
  listing : ∀ g s entries, (directory.listMembers g s).1 = .ok entries → ∀ e, e ∈ entries ↔
    e ∈ held s g
  gets : ∀ g s, held (directory.getGroup g s).2 = held s
  there : ∀ g s error, (directory.getGroup g s).1 = .error error → error.statusCode ≠ 404
  audits : ∀ event s, held (audit event s) = held s
  pools : ∀ s, held (pool s).2 = held s
  tables : ∀ s, (pool s).1 = db
  elsewhere : ∀ g a s g', g' ≠ g → held (directory.insertMember g a s).2 g' = held s g' ∧
    held (directory.deleteMember g a s).2 g' = held s g'
  inserted : ∀ g a s, (directory.insertMember g a s).1 = .ok () →
    ∃ new, casefold new.email = casefold a ∧
    ∀ e, e ∈ held (directory.insertMember g a s).2 g ↔ e = new ∨ e ∈ held s g
  refused : ∀ g a s error, (directory.insertMember g a s).1 = .error error →
    held (directory.insertMember g a s).2 = held s ∧
      (error.statusCode = 409 → ∃ e ∈ held s g, casefold e.email = casefold a)
  deleted : ∀ g a s, (directory.deleteMember g a s).1 = .ok () →
    ∀ e, e ∈ held (directory.deleteMember g a s).2 g ↔ e ∈ held s g ∧ e.email ≠ a
  kept : ∀ g a s error, (directory.deleteMember g a s).1 = .error error →
    held (directory.deleteMember g a s).2 = held s ∧
      (error.statusCode = 404 → ∀ e ∈ held s g, e.email ≠ a)

/-- Google refused the address for the group in an insert on the record. -/
def RefusedIn (calls : List (Entry σ)) (g : Email) (key : Str) : Prop :=
  ∃ e ∈ calls, ∃ outcome, outcome.unmirrorable = true ∧ e.call = .add (some g) key outcome

/-- The plan of the group's turn leaves the address out. -/
def ExcludedIn (ports : Ports σ) (mainGroupEmail : Email) (statuses : EmailStatuses)
    (allowMassRemoval : Bool) (audiences : Audiences) (start : RunState σ) (g : Email) (key : Str) :
    Prop :=
  ∃ pre desired post listing port, audiences.sorted = pre ++ (g, desired) :: post ∧
    ports.lister.list g (pre.foldl (sweepGroup ports mainGroupEmail statuses allowMassRemoval)
      start).port = (.ok listing, port) ∧
    key ∈ (((pre.foldl (sweepGroup ports mainGroupEmail statuses allowMassRemoval) start).plan
      allowMassRemoval (g, desired) listing).excluded.map (·.address))

/-- Every group holds its desired addresses, those left out or refused aside, and no plain
stranger. -/
structure Converged (held : Email → Set GroupMemberEntry) (spared : Email → Str → Prop)
    (audiences : Audiences) : Prop where
  desired : ∀ g ∈ audiences, ∀ key ∈ audiences.at g, ¬spared g key → ∃ e ∈ held g,
    casefold e.email = key
  strangers : ∀ g ∈ audiences, ∀ e ∈ held g, e.plain = true → casefold e.email ∈ audiences.at g

end

/-! ### Single calls -/

section
variable {σ : Type} {directory : Directory σ} {audit : AuditEvent → σ → σ} {pool : σ → Database × σ}
    {db : Database} {held : σ → Email → Set GroupMemberEntry} {g a : Email} {s : σ}

theorem skipGate_ok (real : isExample a = false) : skipGate (some g) a = .ok g := by
  simp [skipGate, real]

/-- What one insert past the gate leaves of the groups. -/
structure Inserts (held : σ → Email → Set GroupMemberEntry) (g a : Email) (s t : σ)
    (outcome : SyncOutcome) : Prop where
  elsewhere : ∀ g' ≠ g, held t g' = held s g'
  kept : ∀ e ∈ held s g, e ∈ held t g
  new : ∀ e ∈ held t g, e ∈ held s g ∨ casefold e.email = casefold a
  accepted : outcome.accepted = true → ∃ e ∈ held t g, casefold e.email = casefold a
  made : outcome.skipped = false

theorem addOutcome_cases (error : HttpError) :
    (addOutcome error = .alreadyConverged ∧ error.statusCode = 409) ∨
      ((addOutcome error).accepted = false ∧ (addOutcome error).skipped = false) := by
  unfold addOutcome
  split
  · rename_i conflict
    exact Or.inl ⟨rfl, conflict⟩
  split
  · exact Or.inr ⟨rfl, rfl⟩
  split <;> exact Or.inr ⟨rfl, rfl⟩

theorem add_inserts (faithful : Faithful directory audit pool db held)
    (real : isExample a = false) :
    Inserts held g a s ((googleGroupSync directory).add (some g) a s).2
      ((googleGroupSync directory).add (some g) a s).1 := by
  have elsewhere : ∀ g' ≠ g, held (directory.insertMember g a s).2 g' = held s g' :=
    fun g' other => (faithful.elsewhere g a s g' other).1
  show Inserts held g a s (mirrored directory.insertMember addOutcome (some g) a s).2
    (mirrored directory.insertMember addOutcome (some g) a s).1
  have inserted := faithful.inserted g a s
  have refused := faithful.refused g a s
  unfold mirrored
  rw [skipGate_ok real]
  dsimp only
  generalize directory.insertMember g a s = answer at *
  obtain ⟨answer, t⟩ := answer
  cases answer with
  | ok _ =>
    obtain ⟨new, same, holds⟩ := inserted rfl
    exact {
      elsewhere
      kept := fun e member => (holds e).mpr (Or.inr member)
      new := fun e member => ((holds e).mp member).elim
        (fun here => Or.inr (by rw [here]; exact same)) Or.inl
      accepted := fun _ => ⟨new, (holds new).mpr (Or.inl rfl), same⟩
      made := rfl }
  | error error =>
    obtain ⟨same, conflict⟩ := refused error rfl
    have unchanged : held t g = held s g := congrFun same g
    exact {
      elsewhere
      kept := fun e member => unchanged ▸ member
      new := fun e member => Or.inl (unchanged ▸ member)
      accepted := fun took => by
        rcases addOutcome_cases error with ⟨-, status⟩ | ⟨declined, -⟩
        · exact unchanged ▸ conflict status
        · rw [declined] at took
          cases took
      made := by
        show (addOutcome error).skipped = false
        rcases addOutcome_cases error with ⟨converged, -⟩ | ⟨-, made⟩
        · rw [converged]
          rfl
        · exact made }

/-- The gate passes over a delete at the example domain; any other that does not fail leaves no
entry of the address. -/
theorem remove_deletes (faithful : Faithful directory audit pool db held) :
    (∀ g' ≠ g, held ((googleGroupSync directory).remove (some g) a s).2 g' = held s g') ∧
      (((googleGroupSync directory).remove (some g) a s).1 ≠ .failed →
        ∀ e, e ∈ held ((googleGroupSync directory).remove (some g) a s).2 g ↔
          e ∈ held s g ∧ ¬(e.email = a ∧ isExample a = false)) := by
  have elsewhere : ∀ g' ≠ g, held (directory.deleteMember g a s).2 g' = held s g' :=
    fun g' other => (faithful.elsewhere g a s g' other).2
  have deleted := faithful.deleted g a s
  have kept := faithful.kept g a s
  show (∀ g' ≠ g, held (mirrored directory.deleteMember removeOutcome (some g) a s).2 g' =
    held s g') ∧ ((mirrored directory.deleteMember removeOutcome (some g) a s).1 ≠ .failed →
      ∀ e, e ∈ held (mirrored directory.deleteMember removeOutcome (some g) a s).2 g ↔ _)
  unfold mirrored
  cases gated : isExample a with
  | true => simp [skipGate, gated]
  | false =>
    rw [skipGate_ok gated]
    dsimp only
    generalize directory.deleteMember g a s = answer at *
    obtain ⟨answer, t⟩ := answer
    cases answer with
    | ok _ => exact ⟨elsewhere, fun _ e => by simpa using deleted rfl e⟩
    | error error =>
      obtain ⟨same, gone⟩ := kept error rfl
      refine ⟨elsewhere, fun settled e => ?_⟩
      have missing : error.statusCode = 404 := by
        by_contra other
        exact settled (if_neg other)
      have unchanged : held t g = held s g := congrFun same g
      show e ∈ held t g ↔ _
      rw [unchanged]
      simpa using fun member => gone missing e member

theorem exists_there (faithful : Faithful directory audit pool db held) :
    ((googleGroupLister directory).groupExists g s).1 ≠ .ok false ∧
      held ((googleGroupLister directory).groupExists g s).2 = held s := by
  have there := faithful.there g s
  have gets := faithful.gets g s
  unfold googleGroupLister
  dsimp only
  generalize directory.getGroup g s = answer at *
  obtain ⟨answer, t⟩ := answer
  cases answer with
  | ok _ => exact ⟨by simp, gets⟩
  | error error =>
    have other : error.statusCode ≠ 404 := there error rfl
    exact ⟨by simp [other], gets⟩

/-! ### The adds of one plan -/

/-- A call that changes no group. -/
def QuietCall (held : σ → Email → Set GroupMemberEntry) (r t : Recorded σ) : Prop :=
  held t.world = held r.world ∧ r.calls ⊆ t.calls

theorem RefusedIn.mono {calls more : List (Entry σ)} {key : Str} (refused : RefusedIn calls g key)
    (grows : calls ⊆ more) : RefusedIn more g key := by
  obtain ⟨e, member, rest⟩ := refused
  exact ⟨e, grows member, rest⟩

theorem quiet_settles (faithful : Faithful directory audit pool db held) (plan : GroupPlan)
    (a : PlannedAdd) (outcome : SyncOutcome) (l : AddLoop (Recorded σ)) :
    QuietCall held l.port (settleAdd (realPorts directory audit pool).recorded plan a outcome
      l).port := by
  rw [settleAdd_port]
  split
  · exact ⟨faithful.audits _ _, List.Subset.refl _⟩
  · exact ⟨rfl, List.Subset.refl _⟩

theorem quiet_presence (faithful : Faithful directory audit pool db held) {presence : Presence}
    {r t : Recorded σ}
    (asks : presenceOf (realPorts directory audit pool).recorded.lister g r = (presence, t)) :
    presence ≠ .gone ∧ QuietCall held r t := by
  obtain ⟨there, same⟩ := exists_there (s := r.world) (g := g) faithful
  cases asks
  refine ⟨fun gone => there ?_, same, List.subset_append_left _ _⟩
  change Presence.ofAnswer ((googleGroupLister directory).groupExists g r.world).1 = .gone at gone
  cases answer : ((googleGroupLister directory).groupExists g r.world).1 with
  | error e => rw [answer] at gone; cases gone
  | ok found =>
    cases found with
    | true => rw [answer] at gone; cases gone
    | false => rfl

theorem quiet_asks (faithful : Faithful directory audit pool db held) {plan : GroupPlan}
    {known : Option Presence} {presence : Presence} {r t : Recorded σ} (open_ : known ≠ some .gone)
    (asks : askOnce (realPorts directory audit pool).recorded plan known r = (presence, t)) :
    presence ≠ .gone ∧ QuietCall held r t := by
  cases known with
  | none => exact quiet_presence faithful asks
  | some found =>
    cases asks
    exact ⟨fun gone => open_ (congrArg some gone), rfl, List.Subset.refl _⟩

/-- Where the add loop stands: nothing is lost, nothing unasked for is there, and each address met
is in the group, refused or failed. -/
structure Filling (held : σ → Email → Set GroupMemberEntry) (g : Email) (start : Recorded σ)
    (met : List PlannedAdd) (l : AddLoop (Recorded σ)) : Prop where
  elsewhere : ∀ g' ≠ g, held l.port.world g' = held start.world g'
  kept : ∀ e ∈ held start.world g, e ∈ held l.port.world g
  new : ∀ e ∈ held l.port.world g, e ∈ held start.world g ∨ ∃ a ∈ met,
    casefold e.email = casefold a.address
  settled : ∀ a ∈ met, (∃ e ∈ held l.port.world g, casefold e.email = casefold a.address) ∨
    RefusedIn l.port.calls g a.address ∨ SyncOutcome.failed ∈ l.tally
  tallied : l.tally.length = met.length
  open_ : l.presence ≠ some .gone
  grown : start.calls ⊆ l.port.calls

/-- One more add: what the loop stood at, the insert, and whatever quiet calls follow it. -/
theorem filling_add {start : Recorded σ} {met : List PlannedAdd} {l next : AddLoop (Recorded σ)}
    {a : PlannedAdd} {port : Recorded σ} {outcome reading : SyncOutcome}
    (filling : Filling held g start met l)
    (inserts : Inserts held g a.address l.port.world port.world outcome)
    (recorded : l.port.calls ⊆ port.calls) (quiet : QuietCall held port next.port)
    (tally : next.tally = l.tally ++ [reading]) (open_ : next.presence ≠ some .gone)
    (settled : outcome.accepted = true ∨ RefusedIn port.calls g a.address ∨ reading = .failed) :
    Filling held g start (met ++ [a]) next where
  elsewhere g' other := by rw [quiet.1, inserts.elsewhere g' other, filling.elsewhere g' other]
  kept e member := by
    rw [quiet.1]
    exact inserts.kept e (filling.kept e member)
  new e member := by
    rw [quiet.1] at member
    rcases inserts.new e member with old | here
    · refine (filling.new e old).imp_right fun ⟨b, met, same⟩ =>
        ⟨b, List.mem_append_left _ met, same⟩
    · exact Or.inr ⟨a, List.mem_append_right _ (List.mem_singleton_self a), here⟩
  settled b member := by
    rw [quiet.1, tally]
    rcases List.mem_append.mp member with earlier | here
    · rcases filling.settled b earlier with ⟨e, holds, same⟩ | refused | failed
      · exact Or.inl ⟨e, inserts.kept e holds, same⟩
      · exact Or.inr (Or.inl ((refused.mono recorded).mono quiet.2))
      · exact Or.inr (Or.inr (List.mem_append_left _ failed))
    · obtain rfl := List.mem_singleton.mp here
      rcases settled with took | refused | failed
      · exact Or.inl (inserts.accepted took)
      · exact Or.inr (Or.inl (refused.mono quiet.2))
      · exact Or.inr (Or.inr
          (by rw [failed]; exact List.mem_append_right _ (List.mem_singleton_self _)))
  tallied := by rw [tally, List.length_append, List.length_append, filling.tallied]; rfl
  open_ := open_
  grown := fun e member => quiet.2 (recorded (filling.grown member))

theorem filling_turn (faithful : Faithful directory audit pool db held) {plan : GroupPlan}
    {start : Recorded σ} {met : List PlannedAdd} {l : AddLoop (Recorded σ)} {a : PlannedAdd}
    {result : Except (AddLoop (Recorded σ)) (AddLoop (Recorded σ))}
    (filling : Filling held plan.groupEmail start met l) (real : isExample a.address = false)
    (turn : AddTurn (realPorts directory audit pool).recorded plan l a result) :
    ∃ next, result = .ok next ∧ Filling held plan.groupEmail start (met ++ [a]) next := by
  have inserts : Inserts held plan.groupEmail a.address l.port.world _ _ :=
    add_inserts faithful real
  have recorded : ∀ {outcome : SyncOutcome} {port : Recorded σ},
      (realPorts directory audit pool).recorded.sync.add (some plan.groupEmail) a.address l.port =
        (outcome, port) →
      Inserts held plan.groupEmail a.address l.port.world port.world outcome ∧
        port.calls = l.port.calls ++
          [⟨.add (some plan.groupEmail) a.address outcome, l.port.world⟩] := by
    intro outcome port answer
    cases answer
    exact ⟨inserts, rfl⟩
  have refusedIn : ∀ {outcome : SyncOutcome} {port : Recorded σ}, outcome.unmirrorable = true →
      port.calls = l.port.calls ++ [⟨.add (some plan.groupEmail) a.address outcome, l.port.world⟩] →
      RefusedIn port.calls plan.groupEmail a.address := by
    intro outcome port refused calls
    exact ⟨_, calls ▸ List.mem_append_right _ (List.mem_singleton_self _), outcome, refused, rfl⟩
  cases turn with
  | settled outcome port answer readable =>
    obtain ⟨here, calls⟩ := recorded answer
    refine ⟨_, rfl, filling_add filling here (calls ▸ List.subset_append_left _ _)
      (quiet_settles faithful plan a outcome { l with port }) (settleAdd_tally _ _ _ _ _) ?_ ?_⟩
    · rw [settleAdd_presence]
      exact filling.open_
    · cases outcome with
      | applied => exact Or.inl rfl
      | alreadyConverged => exact Or.inl rfl
      | failed => exact Or.inr (Or.inr rfl)
      | noGoogleAccount => exact Or.inr (Or.inl (refusedIn rfl calls))
      | addressNotFound => exact absurd rfl readable
      | skippedUnlinked => exact absurd here.made Bool.noConfusion
      | skippedExampleEmail => exact absurd here.made Bool.noConfusion
      | skippedDryRun => exact absurd here.made Bool.noConfusion
  | vouched port heard answer asks =>
    obtain ⟨here, calls⟩ := recorded answer
    obtain ⟨-, asked⟩ := quiet_asks faithful filling.open_ asks
    have settles := quiet_settles faithful plan a .addressNotFound
      { l with presence := some .present, port := heard }
    have quiet : QuietCall held port
        (settleAdd (realPorts directory audit pool).recorded plan a .addressNotFound
          { l with presence := some .present, port := heard }).port :=
      ⟨settles.1.trans asked.1, fun e member => settles.2 (asked.2 member)⟩
    refine ⟨_, rfl, filling_add filling here (calls ▸ List.subset_append_left _ _) quiet
      (settleAdd_tally _ _ _ _ _) ?_ (Or.inr (Or.inl (refusedIn rfl calls)))⟩
    rw [settleAdd_presence]
    exact fun same => nomatch same
  | unread port heard answer asks =>
    obtain ⟨here, calls⟩ := recorded answer
    obtain ⟨-, asked⟩ := quiet_asks faithful filling.open_ asks
    exact ⟨_, rfl, filling_add filling here (calls ▸ List.subset_append_left _ _) asked rfl
      (fun same => nomatch same) (Or.inr (Or.inr rfl))⟩
  | gone port heard answer asks =>
    obtain ⟨present, -⟩ := quiet_asks faithful filling.open_ asks
    exact absurd rfl present

theorem filling_adds (faithful : Faithful directory audit pool db held) {plan : GroupPlan}
    {start : Recorded σ} {adds met : List PlannedAdd} {l : AddLoop (Recorded σ)}
    (filling : Filling held plan.groupEmail start met l)
    (real : ∀ a ∈ adds, isExample a.address = false) :
    ∃ u, applyAdds (realPorts directory audit pool).recorded plan adds l = .ok u ∧
      Filling held plan.groupEmail start (met ++ adds) u := by
  induction adds generalizing l met with
  | nil => exact ⟨l, rfl, by rw [List.append_nil]; exact filling⟩
  | cons a adds ih =>
    obtain ⟨here, later⟩ := List.forall_mem_cons.mp real
    obtain ⟨next, stepped, after⟩ := filling_turn faithful filling here (applyAdd_turn _ plan l a)
    obtain ⟨u, rest, done⟩ := ih after later
    exact ⟨u, foldlM_cons_ok.mpr ⟨next, stepped, rest⟩, by rw [List.append_cons]; exact done⟩

/-! ### The removes of one plan -/

/-- What a stretch of removes leaves, unless one of them fails. -/
structure Emptied (held : σ → Email → Set GroupMemberEntry) (g : Email) (removed : List Email)
    (l next : RemoveLoop (Recorded σ)) : Prop where
  elsewhere : ∀ g' ≠ g, held next.port.world g' = held l.port.world g'
  tally : l.tally ⊆ next.tally
  left : SyncOutcome.failed ∉ next.tally → ∀ e, e ∈ held next.port.world g ↔
    e ∈ held l.port.world g ∧ ¬(e.email ∈ removed ∧ isExample e.email = false)

theorem applyRemove_emptied (faithful : Faithful directory audit pool db held) (plan : GroupPlan)
    (l : RemoveLoop (Recorded σ)) (address : Email) :
    Emptied held plan.groupEmail [address] l
      (applyRemove (realPorts directory audit pool).recorded plan l address) := by
  obtain ⟨elsewhere, deletes⟩ :=
    remove_deletes (g := plan.groupEmail) (a := address) (s := l.port.world) faithful
  have left : ∀ outcome,
    ((googleGroupSync directory).remove (some plan.groupEmail) address l.port.world).1 = outcome →
      SyncOutcome.failed ∉ l.tally ++ [outcome] → ∀ e,
        e ∈ held ((googleGroupSync directory).remove (some plan.groupEmail) address l.port.world).2
          plan.groupEmail ↔
          e ∈ held l.port.world plan.groupEmail ∧
            ¬(e.email ∈ [address] ∧ isExample e.email = false) := by
    intro outcome answer sound e
    have settled : outcome ≠ .failed := fun failed => sound (by simp [failed])
    rw [deletes (answer ▸ settled) e, List.mem_singleton]
    refine and_congr_right fun _ => not_congr (and_congr_right fun same => ?_)
    rw [same]
  unfold applyRemove
  show Emptied held plan.groupEmail [address] l
    (if ((googleGroupSync directory).remove (some plan.groupEmail) address l.port.world).1 =
      .applied then _ else
      if ((googleGroupSync directory).remove (some plan.groupEmail) address l.port.world).1 =
        .alreadyConverged then _
      else _)
  split
  · refine ⟨fun g' other => ?_, List.subset_append_left _ _, fun sound e => ?_⟩
    · exact (congrFun (faithful.audits _ _) g').trans (elsewhere g' other)
    · exact (Set.ext_iff.mp (congrFun (faithful.audits _ _) plan.groupEmail) e).trans
        (left _ rfl sound e)
  split
  · exact ⟨elsewhere, List.subset_append_left _ _, left _ rfl⟩
  · exact ⟨elsewhere, List.subset_append_left _ _, left _ rfl⟩

theorem removes_emptied (faithful : Faithful directory audit pool db held) (plan : GroupPlan)
    (removes : List Email) (l : RemoveLoop (Recorded σ)) :
    Emptied held plan.groupEmail removes l
      (removes.foldl (applyRemove (realPorts directory audit pool).recorded plan) l) := by
  induction removes generalizing l with
  | nil => exact ⟨fun _ _ => rfl, List.Subset.refl _, fun _ e => by simp⟩
  | cons address removes ih =>
    have first := applyRemove_emptied faithful plan l address
    have rest := ih (applyRemove (realPorts directory audit pool).recorded plan l address)
    refine ⟨fun g' other => (rest.elsewhere g' other).trans (first.elsewhere g' other),
      fun o member =>
      rest.tally (first.tally member), fun sound e => ?_⟩
    have before : SyncOutcome.failed ∉
        (applyRemove (realPorts directory audit pool).recorded plan l address).tally :=
      fun failed => sound (rest.tally failed)
    rw [List.foldl_cons, rest.left sound e, first.left before e, List.mem_singleton, List.mem_cons]
    tauto

/-! ### One applied plan -/

/-- What a plan without failures leaves of the groups. -/
structure Carried (held : σ → Email → Set GroupMemberEntry) (plan : GroupPlan)
    (start t : Recorded σ) : Prop where
  elsewhere : ∀ g' ≠ plan.groupEmail, held t.world g' = held start.world g'
  kept : ∀ e ∈ held start.world plan.groupEmail,
    ¬(e.email ∈ plan.removes ∧ isExample e.email = false) → e ∈ held t.world plan.groupEmail
  left : ∀ e ∈ held t.world plan.groupEmail, ¬(e.email ∈ plan.removes ∧ isExample e.email = false) ∧
    (e ∈ held start.world plan.groupEmail ∨ ∃ a ∈ plan.adds, casefold e.email = casefold a.address)
  settled : ∀ a ∈ plan.adds, (∃ e ∈ held t.world plan.groupEmail,
    casefold e.email = casefold a.address) ∨ RefusedIn t.calls plan.groupEmail a.address
  grown : start.calls ⊆ t.calls

theorem tallied_failed_pos {tally : List SyncOutcome} (failed : SyncOutcome.failed ∈ tally) :
    0 < tallied tally (· = .failed) :=
  List.countP_pos_iff.mpr ⟨.failed, failed, rfl⟩

/-- The group stays in place, so the run completes the plan, and what it tallied has no failure. -/
theorem applyRemoves_completes (faithful : Faithful directory audit pool db held) (plan : GroupPlan)
    (tally : List SyncOutcome) (port : Recorded σ)
    (green :
      (applyRemoves (realPorts directory audit pool).recorded plan tally port).1.failed ≤ 0) :
    held (applyRemoves (realPorts directory audit pool).recorded plan tally port).2.world =
        held (plan.removes.foldl (applyRemove (realPorts directory audit pool).recorded plan)
          ⟨tally, 0, port⟩).port.world ∧
      SyncOutcome.failed ∉
        (plan.removes.foldl (applyRemove (realPorts directory audit pool).recorded plan) ⟨tally, 0,
          port⟩).tally := by
  unfold applyRemoves at green ⊢
  dsimp only at green ⊢
  generalize plan.removes.foldl (applyRemove (realPorts directory audit pool).recorded plan) ⟨tally,
    0, port⟩ = l at *
  have clean : ((tallied l.tally (· = .failed) : Nat) : Int) ≤ 0 →
      SyncOutcome.failed ∉ l.tally := by
    intro none failed
    have some := tallied_failed_pos failed
    omega
  obtain ⟨there, quiet⟩ :
      (presenceOf (realPorts directory audit pool).recorded.lister plan.groupEmail l.port).1 ≠
        .gone ∧ QuietCall held l.port
    (presenceOf (realPorts directory audit pool).recorded.lister plan.groupEmail l.port).2 :=
      quiet_presence faithful rfl
  by_cases asked : plan.removes ≠ [] ∧ l.converged = plan.removes.length ∧
    tallied l.tally (· = .applied) = 0
  · rw [if_pos asked] at green ⊢
    dsimp only at green
    rw [if_neg there] at green
    exact ⟨quiet.1, clean green⟩
  · rw [if_neg asked] at green ⊢
    exact ⟨rfl, clean green⟩

theorem applyRemoves_carried (faithful : Faithful directory audit pool db held) {plan : GroupPlan}
    {start : Recorded σ} {u : AddLoop (Recorded σ)}
    (filling : Filling held plan.groupEmail start plan.adds u)
    (apart : ∀ r ∈ plan.removes, ∀ a ∈ plan.adds, casefold r ≠ casefold a.address)
    (green :
      (applyRemoves (realPorts directory audit pool).recorded plan u.tally u.port).1.failed ≤ 0) :
    Carried held plan start (applyRemoves (realPorts directory audit pool).recorded plan u.tally
      u.port).2 := by
  have emptied := removes_emptied faithful plan plan.removes ⟨u.tally, 0, u.port⟩
  obtain ⟨more, calls, -, -⟩ :=
    applyRemoves_calls (realPorts directory audit pool) plan u.tally u.port
  obtain ⟨world, sound⟩ := applyRemoves_completes faithful plan u.tally u.port green
  generalize plan.removes.foldl (applyRemove (realPorts directory audit pool).recorded plan)
    ⟨u.tally, 0, u.port⟩ = l at *
  generalize (applyRemoves (realPorts directory audit pool).recorded plan u.tally u.port).2 = t at *
  have left := emptied.left sound
  exact {
    elsewhere := fun g' other => by
      rw [world, emptied.elsewhere g' other, filling.elsewhere g' other]
    kept := fun e member spared => by
      rw [world]
      exact (left e).mpr ⟨filling.kept e member, spared⟩
    left := fun e member => by
      rw [world] at member
      obtain ⟨filled, spared⟩ := (left e).mp member
      exact ⟨spared, filling.new e filled⟩
    settled := fun a added => by
      rcases filling.settled a added with ⟨e, holds, same⟩ | refused | failed
      · refine Or.inl ⟨e, ?_, same⟩
        rw [world]
        exact (left e).mpr ⟨holds, fun removed => apart e.email removed.1 a added same⟩
      · exact Or.inr (refused.mono (calls ▸ List.subset_append_left _ _))
      · exact absurd (emptied.tally failed) sound
    grown := fun e member => calls ▸ List.mem_append_left _ (filling.grown member) }

theorem Filling.quiet {start : Recorded σ} {met : List PlannedAdd} {l next : AddLoop (Recorded σ)}
    (filling : Filling held g start met l) (quiet : QuietCall held l.port next.port)
    (tally : next.tally = l.tally) (open_ : next.presence ≠ some .gone) :
    Filling held g start met next where
  elsewhere g' other := by rw [quiet.1, filling.elsewhere g' other]
  kept e member := by
    rw [quiet.1]
    exact filling.kept e member
  new e member := filling.new e (by rw [← quiet.1]; exact member)
  settled a member := by
    rw [quiet.1, tally]
    exact (filling.settled a member).imp_right (Or.imp_left fun refused => refused.mono quiet.2)
  tallied := by rw [tally, filling.tallied]
  open_ := open_
  grown _ member := quiet.2 (filling.grown member)

theorem filling_start (unmirrorable : List Str) (accepted : List Email) (start : Recorded σ) :
    Filling held g start [] (loopStart unmirrorable accepted start) where
  elsewhere _ _ := rfl
  kept _ member := member
  new _ member := Or.inl member
  settled _ member := by cases member
  tallied := rfl
  open_ same := nomatch same
  grown := List.Subset.refl _

/-- A plan without failures is carried out: the removes with the adds, or, for a group that could
not be confirmed at the end, the adds of a plan that had no removes. -/
theorem apply_carried (faithful : Faithful directory audit pool db held) {plan : GroupPlan}
    (real : ∀ a ∈ plan.adds, isExample a.address = false)
    (apart : ∀ r ∈ plan.removes, ∀ a ∈ plan.adds, casefold r ≠ casefold a.address)
    (unmirrorable : List Str)
    (refusals : List Refusal) (accepted : List Email) (start : Recorded σ)
    (green : (apply (realPorts directory audit pool).recorded plan unmirrorable refusals accepted
      start).outcome.failed ≤ 0) :
    Carried held plan start
      (apply (realPorts directory audit pool).recorded plan unmirrorable refusals accepted
        start).port := by
  obtain ⟨u, ran, filling⟩ := filling_adds faithful (filling_start unmirrorable accepted start) real
  rw [List.nil_append] at filling
  unfold apply at green ⊢
  rw [ran] at green ⊢
  change Int.le (finish _ plan refusals
    (confirmAdds (realPorts directory audit pool).recorded plan u)).outcome.failed 0 at green
  show Carried held plan start (finish _ plan refusals
    (confirmAdds (realPorts directory audit pool).recorded plan u)).port
  have closing := confirmAdds_closing (realPorts directory audit pool).recorded plan u
  generalize confirmAdds (realPorts directory audit pool).recorded plan u = result at *
  cases closing with
  | unasked none => exact applyRemoves_carried faithful filling apart green
  | confirmed port doubted answer =>
    obtain ⟨-, quiet⟩ := quiet_presence faithful answer
    have after : Filling held plan.groupEmail start plan.adds
        { u with presence := some .present, port } :=
      filling.quiet quiet rfl fun same => nomatch same
    exact applyRemoves_carried faithful after apart green
  | denied presence port doubted answer absent =>
    -- every add was tallied, so a count without failures leaves no remove undone
    obtain ⟨there, quiet⟩ := quiet_presence faithful answer
    have after : Filling held plan.groupEmail start plan.adds
        { u with presence := some presence, port } :=
      filling.quiet quiet rfl fun same => there (Option.some.inj same)
    change (abandoned plan u.tally).failed ≤ 0 at green
    rw [abandoned_failed, filling.tallied] at green
    have none : plan.removes = [] := List.length_eq_zero_iff.mp (by omega)
    have sound : SyncOutcome.failed ∉ u.tally := by
      intro failed
      have some := tallied_failed_pos failed
      omega
    exact {
      elsewhere := after.elsewhere
      kept := fun e member _ => after.kept e member
      left := fun e member => ⟨fun removed => List.not_mem_nil (none ▸ removed.1),
        after.new e member⟩
      settled := fun a added => (after.settled a added).imp_right fun rest =>
        rest.resolve_right sound
      grown := after.grown }

/-! ### One group -/

variable {statuses : EmailStatuses} {mainGroupEmail : Email} {allowMassRemoval : Bool}

theorem apply_refused {τ : Type} (ports : Ports τ) (plan : GroupPlan) (unmirrorable : List Str)
    (refusals : List Refusal) (accepted : List Email) (port : τ) :
    (apply ports plan unmirrorable refusals accepted port).outcome.refused =
      plan.refusedRemoves := by
  unfold apply
  cases applyAdds ports plan plan.adds (loopStart unmirrorable accepted port) >>=
    confirmAdds ports plan with
  | error l => rfl
  | ok l =>
    show (applyRemoves ports plan l.tally l.port).1.refused = _
    unfold applyRemoves
    dsimp only
    split
    · dsimp only
      split <;> rfl
    · rfl

theorem recheck_same {plan : GroupPlan} {fresh : Audience}
    (adds : ∀ a ∈ plan.adds, casefold a.address ∈ fresh)
    (removes : ∀ r ∈ plan.removes, casefold r ∉ fresh) :
    (recheck plan fresh).adds = plan.adds ∧ (recheck plan fresh).removes = plan.removes :=
  ⟨List.filter_eq_self.mpr fun a member => decide_eq_true (adds a member),
    List.filter_eq_self.mpr fun r member => decide_eq_true (removes r member)⟩

theorem rechecked_same (mainGroupEmail : Email) (statuses : EmailStatuses)
    (faithful : Faithful directory audit pool db held) {plan : GroupPlan} (r : Recorded σ)
    (adds : ∀ a ∈ plan.adds, casefold a.address ∈ desiredForGroup statuses db plan.groupEmail
      mainGroupEmail)
    (removes : ∀ r ∈ plan.removes,
      casefold r ∉ desiredForGroup statuses db plan.groupEmail mainGroupEmail) :
    ∃ fresh t, rechecked (realPorts directory audit pool).recorded mainGroupEmail statuses plan r =
      (fresh, t) ∧
      fresh.groupEmail = plan.groupEmail ∧ fresh.adds = plan.adds ∧ fresh.removes = plan.removes ∧
      fresh.refusedRemoves = plan.refusedRemoves ∧ held t.world = held r.world ∧
        r.calls ⊆ t.calls := by
  unfold rechecked
  split
  · have same : ((realPorts directory audit pool).recorded.pool r).1 = db := faithful.tables r.world
    refine ⟨_, _, rfl, rfl, ?_, ?_, rfl, faithful.pools r.world, List.subset_append_left _ _⟩
    · rw [same]
      exact (recheck_same adds removes).1
    · rw [same]
      exact (recheck_same adds removes).2
  · exact ⟨plan, r, rfl, rfl, rfl, rfl, rfl, rfl, List.Subset.refl _⟩

/-- What a group's turn without failures leaves of it. -/
structure TurnedGreen (held : σ → Email → Set GroupMemberEntry) (g : Email) (desired : Audience)
    (excluded : List PlannedAdd) (start t : Recorded σ) : Prop where
  elsewhere : ∀ g' ≠ g, held t.world g' = held start.world g'
  strangers : ∀ e ∈ held t.world g, e.plain = true → casefold e.email ∉ desired →
    e ∈ held start.world g ∧ isExample e.email = true
  spared : ∀ e ∈ held start.world g, isExample e.email = true → e ∈ held t.world g
  settled : ∀ key ∈ desired, key ∉ excluded.map (·.address) →
    (∃ e ∈ held t.world g, casefold e.email = key) ∨ RefusedIn t.calls g key
  grown : start.calls ⊆ t.calls

/-- A plan carried out on the listing it was made from. -/
theorem turned_of_carried {plan : GroupPlan} {desired : Audience} {listing : List GroupMemberEntry}
    {excluded : List PlannedAdd} {start t : Recorded σ} (carried : Carried held plan start t)
    (listed : ∀ e, e ∈ listing ↔ e ∈ held start.world plan.groupEmail)
    (folded : ∀ key ∈ desired, casefold key = key)
    (removes : plan.removes = strangers desired listing)
    (adds : ∀ a ∈ plan.adds, a.address ∈ desired)
    (placed : ∀ a ∈ missing desired listing, a ∈ plan.adds ∨ a ∈ excluded) :
    TurnedGreen held plan.groupEmail desired excluded start t where
  elsewhere := carried.elsewhere
  strangers e member plain stranger := by
    obtain ⟨stays, old | ⟨a, added, same⟩⟩ := carried.left e member
    · refine ⟨old, ?_⟩
      have planned : e.email ∈ plan.removes := by
        rw [removes]
        exact mem_strangers.mpr ⟨e, (listed e).mpr old, plain, stranger, rfl⟩
      by_contra real
      exact stays ⟨planned, Bool.eq_false_of_not_eq_true real⟩
    · rw [same, folded _ (adds a added)] at stranger
      exact absurd (adds a added) stranger
  spared e member real := carried.kept e member fun removed => by
    rw [real] at removed
    cases removed.2
  settled key wanted offered := by
    by_cases there : key ∈ present listing
    · obtain ⟨e, member, rfl⟩ := List.mem_map.mp there
      refine Or.inl ⟨e, carried.kept e ((listed e).mp member) fun removed => ?_, rfl⟩
      rw [removes] at removed
      obtain ⟨other, -, -, stranger, same⟩ := mem_strangers.mp removed.1
      exact stranger (by rw [same]; exact wanted)
    · obtain ⟨id, item⟩ := Dict.mem_iff_item.mp wanted
      have lacking : (⟨key, id⟩ : PlannedAdd) ∈ missing desired listing :=
        mem_missing.mpr ⟨item, there⟩
      rcases placed _ lacking with added | left
      · have done := carried.settled _ added
        rw [folded key wanted] at done
        exact done
      · exact absurd (List.mem_map_of_mem left) offered
  grown := carried.grown

theorem Carried.of_quiet {plan : GroupPlan} {start before t : Recorded σ}
    (carried : Carried held plan start t) (same : held start.world = held before.world)
    (grown : before.calls ⊆ start.calls) :
    Carried held plan before t where
  elsewhere := same ▸ carried.elsewhere
  kept := same ▸ carried.kept
  left := same ▸ carried.left
  settled := carried.settled
  grown _ member := carried.grown (grown member)

theorem real_of_desired {key : Str}
    (desired : key ∈ (audiencesIn statuses db mainGroupEmail).at g) : isExample key = false := by
  obtain ⟨row, real, rfl⟩ : ∃ row : DesiredRow,
    isExample (syncTarget row.addresses statuses) = false ∧
      casefold (syncTarget row.addresses statuses) = key := by
    rcases mem_audiencesIn.mp desired with ⟨-, row, -, admits⟩ | ⟨row, -, -, admits⟩
    · exact ⟨row, admits⟩
    · exact ⟨row.toDesiredRow, admits⟩
  by_contra example_
  rw [isExample_of_casefold (Bool.eq_true_of_not_eq_false example_)] at real
  cases real

theorem plan_adds_desired {s : RunState (Recorded σ)} {desired : Audience}
    {listing : List GroupMemberEntry} {a : PlannedAdd}
    (added : a ∈ (s.plan allowMassRemoval (g, desired) listing).adds) : a.address ∈ desired :=
  Dict.mem_iff_item.mpr ⟨_, (mem_missing.mp (mem_planGroup_adds.mp added).1).1⟩

theorem plan_removes_stranger {s : RunState (Recorded σ)} {desired : Audience}
    {listing : List GroupMemberEntry} {r : Email}
    (planned : r ∈ (s.plan allowMassRemoval (g, desired) listing).removes) :
    casefold r ∉ desired := by
  obtain ⟨e, -, -, stranger, rfl⟩ := mem_strangers.mp (planGroup_removes_subset planned)
  exact stranger

theorem sweepGroup_turned (mainGroupEmail : Email) (statuses : EmailStatuses)
    (allowMassRemoval : Bool) (faithful : Faithful directory audit pool db held)
    (s : RunState (Recorded σ)) (g : Email) :
    let desired := (audiencesIn statuses db mainGroupEmail).at g
    let next := sweepGroup (realPorts directory audit pool).recorded mainGroupEmail statuses
      allowMassRemoval s (g, desired)
    ∃ outcome, next.outcomes = s.outcomes ++ [outcome] ∧ (outcome.failed ≤ 0 → outcome.refused = 0 →
      ∃ listing port, (realPorts directory audit pool).recorded.lister.list g s.port =
        (.ok listing, port) ∧
        TurnedGreen held g desired (s.plan allowMassRemoval (g, desired) listing).excluded s.port
          next.port) := by
  intro desired next
  have lists : (realPorts directory audit pool).recorded.lister.list g s.port =
    ((directory.listMembers g s.port.world).1,
    ⟨(directory.listMembers g s.port.world).2, s.port.calls ++
      [⟨.list g (directory.listMembers g s.port.world).1, s.port.world⟩]⟩) := rfl
  have quiet := faithful.lists g s.port.world
  have holds := faithful.listing g s.port.world
  have nextAs : next = sweepGroup (realPorts directory audit pool).recorded mainGroupEmail statuses
    allowMassRemoval s
    (g, desired) := rfl
  unfold sweepGroup at nextAs
  rw [lists] at nextAs ⊢
  generalize directory.listMembers g s.port.world = answer at *
  obtain ⟨answer, world⟩ := answer
  cases answer with
  | error e =>
    refine ⟨unlisted g, by rw [nextAs], fun green => ?_⟩
    exact absurd green (show ¬(1 : Int) ≤ 0 by decide)
  | ok listing =>
    dsimp only at nextAs
    have folded : ∀ key ∈ desired, casefold key = key := fun key member => casefold_at member
    have adds : ∀ a ∈ (s.plan allowMassRemoval (g, desired) listing).adds, a.address ∈ desired :=
      fun a => plan_adds_desired
    have removes : ∀ r ∈ (s.plan allowMassRemoval (g, desired) listing).removes,
        casefold r ∉ desired :=
      fun r => plan_removes_stranger
    obtain ⟨fresh, t, second, named, sameAdds, sameRemoves, sameRefused, same, grown⟩ :=
      rechecked_same mainGroupEmail statuses faithful ⟨world,
        s.port.calls ++ [⟨.list g (.ok listing), s.port.world⟩]⟩
        (fun a added => by rw [folded _ (adds a added)]; exact mem_at_iff_reread.mp (adds a added))
        (fun r planned again => removes r planned (mem_at_iff_reread.mpr again))
    rw [second] at nextAs
    refine ⟨_, by rw [nextAs], fun green clear => ?_⟩
    refine ⟨listing, _, rfl, ?_⟩
    rw [apply_refused, sameRefused] at clear
    have whole : fresh.removes = strangers desired listing := by
      rw [sameRemoves]
      exact planGroup_removes_whole clear
    have carried : Carried held fresh t next.port := by
      rw [nextAs]
      refine apply_carried faithful (fun a added => real_of_desired (adds a (sameAdds ▸ added))) ?_
        _ _ _ _ green
      intro r planned a added same
      rw [folded _ (adds a (sameAdds ▸ added))] at same
      exact removes r (sameRemoves ▸ planned) (same ▸ adds a (sameAdds ▸ added))
    have fromStart : Carried held fresh s.port next.port :=
      carried.of_quiet (same.trans quiet) fun e member => grown (List.mem_append_left _ member)
    have group : fresh.groupEmail = g := named
    have turned : TurnedGreen held fresh.groupEmail desired _ s.port next.port :=
      turned_of_carried fromStart (fun e => by rw [group]; exact holds listing rfl e) folded whole
        (fun a added => adds a (sameAdds ▸ added)) (fun a lacking =>
          sameAdds ▸ planGroup_placed lacking)
    exact group ▸ turned

/-! ### The whole run -/

/-- What the run leaves of a group it has swept. -/
structure GroupSettled (held : σ → Email → Set GroupMemberEntry) (desired : Audience)
    (excluded : Str → Prop) (g : Email) (start t : Recorded σ) : Prop where
  strangers : ∀ e ∈ held t.world g, e.plain = true → casefold e.email ∉ desired →
    e ∈ held start.world g ∧ isExample e.email = true
  spared : ∀ e ∈ held start.world g, isExample e.email = true → e ∈ held t.world g
  settled : ∀ key ∈ desired, ¬excluded key → (∃ e ∈ held t.world g, casefold e.email = key) ∨
    RefusedIn t.calls g key

def green (outcomes : List GroupOutcome) : Prop := ∀ o ∈ outcomes, o.failed ≤ 0 ∧ o.refused = 0

/-- A run without failures so far has settled the groups it has swept, and changed no other. -/
structure Progress (held : σ → Email → Set GroupMemberEntry) (audiences : Audiences)
    (excluded : Email → Str → Prop) (swept : List Email) (start t : Recorded σ) : Prop where
  settled : ∀ g ∈ swept, GroupSettled held (audiences.at g) (excluded g) g start t
  untouched : ∀ g, g ∉ swept → held t.world g = held start.world g
  grown : start.calls ⊆ t.calls

theorem progress_step {audiences : Audiences} {excluded : Email → Str → Prop} {swept : List Email}
    {start r t : Recorded σ} {left : List PlannedAdd}
    (progress : Progress held audiences excluded swept start r) (fresh : g ∉ swept)
    (turned : TurnedGreen held g (audiences.at g) left r t)
    (excludes : ∀ key ∈ left.map (·.address), excluded g key) :
    Progress held audiences excluded (swept ++ [g]) start t where
  settled g' member := by
    rcases List.mem_append.mp member with earlier | here
    · have other : g' ≠ g := fun same => fresh (same ▸ earlier)
      have same := turned.elsewhere g' other
      obtain ⟨strangers, spared, settled⟩ := progress.settled g' earlier
      refine ⟨same ▸ strangers, same ▸ spared, fun key wanted open_ => ?_⟩
      rw [same]
      exact (settled key wanted open_).imp_right fun refused => refused.mono turned.grown
    · obtain rfl := List.mem_singleton.mp here
      have same := progress.untouched g' fresh
      refine ⟨same ▸ turned.strangers, same ▸ turned.spared, fun key wanted open_ => ?_⟩
      exact turned.settled key wanted fun here => open_ (excludes key here)
  untouched g' outside := by
    rw [List.mem_append, List.mem_singleton, not_or] at outside
    rw [turned.elsewhere g' outside.2, progress.untouched g' outside.1]
  grown _ member := turned.grown (progress.grown member)

theorem green_append {outcomes : List GroupOutcome} {o : GroupOutcome}
    (whole : green (outcomes ++ [o])) : green outcomes ∧ o.failed ≤ 0 ∧ o.refused = 0 :=
  ⟨fun p member => whole p (List.mem_append_left _ member),
    whole o (List.mem_append_right _ (List.mem_singleton_self o))⟩

theorem progress_run (faithful : Faithful directory audit pool db held)
    (start : RunState (Recorded σ)) {pre post : List (Email × Audience)}
    (whole : (audiencesIn statuses db mainGroupEmail).sorted = pre ++ post) :
    let ports := (realPorts directory audit pool).recorded
    let run := pre.foldl (sweepGroup ports mainGroupEmail statuses allowMassRemoval) start
    green run.outcomes → Progress held (audiencesIn statuses db mainGroupEmail)
      (ExcludedIn ports mainGroupEmail statuses allowMassRemoval
        (audiencesIn statuses db mainGroupEmail) start)
      (pre.map (·.1)) start.port run.port := by
  intro ports run
  induction pre using List.reverseRecOn generalizing post with
  | nil =>
    exact fun _ => ⟨fun _ member => (nomatch member), fun _ _ => rfl, List.Subset.refl _⟩
  | append_singleton pre audience ih =>
    intro clean
    have split : (audiencesIn statuses db mainGroupEmail).sorted = pre ++ audience :: post := by
      rw [whole, List.append_assoc]
      rfl
    have desired : audience.2 = (audiencesIn statuses db mainGroupEmail).at audience.1 :=
      (at_of_sorted (split ▸ List.mem_append_right _ List.mem_cons_self)).symm
    have distinct : (pre.map (·.1) ++ audience.1 :: post.map (·.1)).Nodup := by
      have keys := Dict.sorted_keys_nodup (audiencesIn statuses db mainGroupEmail)
      rw [split, List.map_append, List.map_cons] at keys
      exact keys
    have fresh : audience.1 ∉ pre.map (·.1) := fun old =>
      (List.nodup_append.mp distinct).2.2 _ old _ List.mem_cons_self rfl
    have before := ih split
    obtain ⟨g, wanted⟩ := audience
    dsimp only at desired fresh
    subst desired
    obtain ⟨outcome, outcomes, turned⟩ :=
      sweepGroup_turned mainGroupEmail statuses allowMassRemoval faithful
      (pre.foldl (sweepGroup ports mainGroupEmail statuses allowMassRemoval) start) g
    have runAs : run = sweepGroup ports mainGroupEmail statuses allowMassRemoval
        (pre.foldl (sweepGroup ports mainGroupEmail statuses allowMassRemoval) start)
        (g, (audiencesIn statuses db mainGroupEmail).at g) := List.foldl_append
    rw [runAs] at clean ⊢
    rw [outcomes] at clean
    obtain ⟨earlier, fine, clear⟩ := green_append clean
    obtain ⟨listing, port, listed, left⟩ := turned fine clear
    rw [List.map_append]
    apply progress_step (before earlier) fresh left
    intro key member
    exact ⟨pre, _, post, listing, port, split, listed, member⟩

/-- A run without failures leaves a plain stranger exactly where the gate passed over one it
found. -/
theorem converged_of_progress {audiences : Audiences} {spared : Email → Str → Prop}
    {start t : Recorded σ} {excluded : Email → Str → Prop}
    (progress : Progress held audiences excluded (audiences.sorted.map (·.1)) start t)
    (sparing : ∀ g key, excluded g key ∨ RefusedIn t.calls g key → spared g key) :
    Converged (held t.world) spared audiences ↔ ∀ g ∈ audiences, ∀ e ∈ held start.world g,
      e.plain = true → casefold e.email ∉ audiences.at g → isExample e.email = false := by
  have settled : ∀ g ∈ audiences, GroupSettled held (audiences.at g) (excluded g) g start t := by
    intro g member
    obtain ⟨wanted, item⟩ := Dict.mem_iff_item.mp member
    exact progress.settled g (List.mem_map_of_mem (Dict.mem_sorted.mpr item))
  constructor
  · intro converged g member e held plain stranger
    by_contra example_
    have stays := (settled g member).spared e held (Bool.eq_true_of_not_eq_false example_)
    exact stranger (converged.strangers g member e stays plain)
  · intro none
    refine ⟨fun g member key wanted open_ => ?_, fun g member e left plain => ?_⟩
    · have out : ¬excluded g key := fun here => open_ (sparing g key (Or.inl here))
      exact ((settled g member).settled key wanted out).resolve_right fun refused =>
        open_ (sparing g key (Or.inr refused))
    · by_contra stranger
      obtain ⟨old, example_⟩ := (settled g member).strangers e left plain stranger
      rw [none g member e old plain stranger] at example_
      cases example_

end

/-! ### The report and the end of the run -/

section
variable {σ : Type} (writer : StatusWriter σ)

/-- The writer of a recorded run: a status write is no call of the sweep. -/
def StatusWriter.beside : StatusWriter (Recorded σ) :=
  ⟨fun key status r => ((writer.write key status r.world).1,
    ⟨(writer.write key status r.world).2, r.calls⟩)⟩

variable {writer} {keeps : σ → Prop}

theorem recordStatus_keeps (writes : ∀ key status s, keeps s → keeps (writer.write key status s).2)
    (address : Email) (status : Str) (store : StatusStore) {port : σ} (before : keeps port) :
    keeps (recordStatus writer address status store port).2.2 := by
  have after := writes (lower address) status port before
  unfold recordStatus
  generalize writer.write (lower address) status port = answer at *
  obtain ⟨_ | now, port⟩ := answer
  · exact after
  · exact after

theorem closeRun_keeps (writes : ∀ key status s, keeps s → keeps (writer.write key status s).2)
    {statuses : EmailStatuses} {dryRun : Bool} {s : RunState σ} {store : StatusStore}
    (before : keeps s.port) :
    keeps (closeRun statuses writer dryRun s store).2.2 := by
  have refusals : ∀ (refusals : List Refusal) (acc : Nat × StatusStore × σ), keeps acc.2.2 →
      keeps (refusals.foldl (recordRefusal writer) acc).2.2 := by
    intro refusals
    induction refusals with
    | nil => exact fun _ kept => kept
    | cons r refusals ih => exact fun acc kept => ih _ (recordStatus_keeps writes _ _ _ kept)
  have committed : keeps (commitRefusals writer s.refusals statuses.lapsed dryRun store
      s.port).2.2 := by
    unfold commitRefusals
    split
    · exact before
    split
    · exact before
    · exact refusals s.refusals (0, store, s.port) before
  have learned : ∀ (addresses : List Email) (store : StatusStore) (port : σ), keeps port →
      keeps (rememberAccepted writer addresses store port).2 := by
    intro addresses
    unfold rememberAccepted
    induction addresses with
    | nil => exact fun _ _ kept => kept
    | cons a addresses ih =>
      exact fun store port kept => ih _ _ (recordStatus_keeps writes _ _ _ kept)
  unfold closeRun
  split
  · exact committed
  · exact learned _ _ _ committed

theorem green_of_report {report : SweepReport} (clean : report.hasFailures = false) :
    green report.groups := by
  intro o member
  rw [SweepReport.hasFailures, Bool.or_eq_false_iff] at clean
  have fine := List.any_eq_false.mp clean.2 o member
  simp only [Bool.or_eq_true, decide_eq_true_eq, not_or, not_lt] at fine
  exact ⟨fine.1, Nat.le_zero.mp fine.2⟩

end

/-- A green sweep against a faithful Google has converged exactly when no group it swept held a
plain stranger at the example domain when it began. -/
theorem green_converged_iff {σ : Type} {directory : Directory σ} {audit : AuditEvent → σ → σ}
    {pool : σ → Database × σ} {db : Database} {held : σ → Email → Set GroupMemberEntry}
    {writer : StatusWriter σ} (faithful : Faithful directory audit pool db held)
    (writes : ∀ key status s, held (writer.write key status s).2 = held s) (mainGroupEmail : Email)
    (allowMassRemoval : Bool) (pull : Option PullReport) (provision : Option ProvisionReport)
    (store : StatusStore) (now : Time) (world : σ) :
    let ports := (realPorts directory audit pool).recorded
    let statuses := emailStatuses store now
    let audiences := audiencesIn statuses db mainGroupEmail
    let swept := sweepLocked ports writer.beside mainGroupEmail allowMassRemoval false pull
      provision store now ⟨world, []⟩
    let start := RunState.start statuses (ports.pool ⟨world, []⟩).2
    swept.report.hasFailures = false →
      (Converged (held swept.port.world) (fun g key => RefusedIn swept.port.calls g key ∨
          ExcludedIn ports mainGroupEmail statuses allowMassRemoval audiences start g key)
            audiences ↔
        ∀ g ∈ audiences, ∀ e ∈ held world g, e.plain = true → casefold e.email ∉ audiences.at g →
          isExample e.email = false) := by
  intro ports statuses audiences swept start clean
  have same : (ports.pool ⟨world, []⟩).1 = db := faithful.tables world
  have groups : swept.report.groups =
      (sweepAudiences ports mainGroupEmail statuses allowMassRemoval audiences
        (ports.pool ⟨world, []⟩).2).outcomes := by
    show (sweepAudiences ports mainGroupEmail statuses allowMassRemoval
      (audiencesIn statuses (ports.pool ⟨world, []⟩).1 mainGroupEmail)
        (ports.pool ⟨world, []⟩).2).outcomes = _
    rw [same]
  have ended : held swept.port.world = held
      (sweepAudiences ports mainGroupEmail statuses allowMassRemoval audiences
          (ports.pool ⟨world, []⟩).2).port.world ∧
        swept.port.calls = (sweepAudiences ports mainGroupEmail statuses allowMassRemoval audiences
          (ports.pool ⟨world, []⟩).2).port.calls := by
    have closed : ∀ run : RunState (Recorded σ),
        held (closeRun statuses writer.beside false run store).2.2.world = held run.port.world ∧
          (closeRun statuses writer.beside false run store).2.2.calls = run.port.calls := by
      intro run
      have kept : ∀ key status (r : Recorded σ), held r.world = held run.port.world ∧
          r.calls = run.port.calls →
            held (writer.beside.write key status r).2.world = held run.port.world ∧
              (writer.beside.write key status r).2.calls = run.port.calls :=
        fun key status r before => ⟨(writes key status r.world).trans before.1, before.2⟩
      exact closeRun_keeps kept ⟨rfl, rfl⟩
    have port : swept.port = (closeRun statuses writer.beside false
        (sweepAudiences ports mainGroupEmail statuses
          allowMassRemoval audiences (ports.pool ⟨world, []⟩).2) store).2.2 := by
      show (closeRun statuses writer.beside false
        (sweepAudiences ports mainGroupEmail statuses allowMassRemoval
        (audiencesIn statuses (ports.pool ⟨world, []⟩).1 mainGroupEmail)
          (ports.pool ⟨world, []⟩).2) store).2.2 = _
      rw [same]
    rw [port]
    exact closed _
  have progress : Progress held audiences
      (ExcludedIn ports mainGroupEmail statuses allowMassRemoval audiences start)
        (audiences.sorted.map (·.1)) start.port
      (sweepAudiences ports mainGroupEmail statuses allowMassRemoval audiences
        (ports.pool ⟨world, []⟩).2).port :=
    progress_run faithful start (List.append_nil _).symm (groups ▸ green_of_report clean)
  have began : held start.port.world = held world := faithful.pools world
  rw [ended.1, ended.2, ← began]
  exact converged_of_progress progress fun g key here => here.symm

/-! ### A stray copy at the example domain -/

/-- A workspace that does what it is asked: what each group holds. -/
abbrev Groupings := Email → List GroupMemberEntry

def obedient : Directory Groupings where
  insertMember g a s := if casefold a ∈ present (s g) then (.error ⟨409, []⟩, s)
    else (.ok (), Function.update s g (s g ++ [insertedEntry a]))
  deleteMember g a s := if a ∈ (s g).map (·.email) then (.ok (),
    Function.update s g ((s g).filter (·.email ≠ a)))
    else (.error ⟨404, []⟩, s)
  listMembers g s := (.ok (s g), s)
  getGroup _ s := (.ok (), s)

def holding (s : Groupings) (g : Email) : Set GroupMemberEntry := fun e => e ∈ s g

def oneInStanding : Database :=
  { Database.empty with members := [plainMember 0 (str "ana@pdx.org")], nextId := 1 }

section
variable {g a : Email} {s : Groupings}

theorem obedient_insert_held (there : casefold a ∈ present (s g)) :
    obedient.insertMember g a s = (.error ⟨409, []⟩, s) := if_pos there

theorem obedient_insert_new (fresh : casefold a ∉ present (s g)) :
    obedient.insertMember g a s = (.ok (), Function.update s g (s g ++ [insertedEntry a])) :=
      if_neg fresh

theorem obedient_delete_held (there : a ∈ (s g).map (·.email)) :
    obedient.deleteMember g a s = (.ok (), Function.update s g ((s g).filter (·.email ≠ a))) :=
      if_pos there

theorem obedient_delete_none (none : a ∉ (s g).map (·.email)) :
    obedient.deleteMember g a s = (.error ⟨404, []⟩, s) := if_neg none

theorem holding_elsewhere {g' : Email} (other : g' ≠ g) (entries : List GroupMemberEntry) :
    holding (Function.update s g entries) g' = holding s g' := by
  funext e
  show (e ∈ Function.update s g entries g') = (e ∈ s g')
  rw [Function.update_of_ne other]

end

theorem obedient_faithful :
    Faithful obedient (fun _ s => s) (fun s => (oneInStanding, s)) oneInStanding holding where
  lists _ _ := rfl
  listing g s entries answer e := by
    cases answer
    exact Iff.rfl
  gets _ _ := rfl
  there g s error answer := by cases answer
  audits _ _ := rfl
  pools _ := rfl
  tables _ := rfl
  elsewhere g a s g' other := by
    constructor
    · by_cases there : casefold a ∈ present (s g)
      · rw [obedient_insert_held there]
      · rw [obedient_insert_new there, holding_elsewhere other]
    · by_cases there : a ∈ (s g).map (·.email)
      · rw [obedient_delete_held there, holding_elsewhere other]
      · rw [obedient_delete_none there]
  inserted g a s answer := by
    by_cases there : casefold a ∈ present (s g)
    · rw [obedient_insert_held there] at answer
      cases answer
    · refine ⟨insertedEntry a, rfl, fun e => ?_⟩
      rw [obedient_insert_new there]
      show e ∈ Function.update s g (s g ++ [insertedEntry a]) g ↔ e = insertedEntry a ∨ e ∈ s g
      rw [Function.update_self, List.mem_append, List.mem_singleton, or_comm]
  refused g a s error answer := by
    by_cases there : casefold a ∈ present (s g)
    · rw [obedient_insert_held there]
      refine ⟨rfl, fun _ => ?_⟩
      obtain ⟨e, member, same⟩ := List.mem_map.mp there
      exact ⟨e, member, same⟩
    · rw [obedient_insert_new there] at answer
      cases answer
  deleted g a s answer e := by
    by_cases there : a ∈ (s g).map (·.email)
    · rw [obedient_delete_held there]
      show e ∈ Function.update s g ((s g).filter (·.email ≠ a)) g ↔ e ∈ s g ∧ e.email ≠ a
      rw [Function.update_self, List.mem_filter, decide_eq_true_eq]
    · rw [obedient_delete_none there] at answer
      cases answer
  kept g a s error answer := by
    by_cases there : a ∈ (s g).map (·.email)
    · rw [obedient_delete_held there] at answer
      cases answer
    · rw [obedient_delete_none there]
      exact ⟨rfl, fun _ e member same => there (List.mem_map.mpr ⟨e, member, same⟩)⟩

def strayWorld : Groupings := fun _ =>
    [insertedEntry (str "ana@pdx.org"), insertedEntry (str "persona@example.com")]

def quietWriter : StatusWriter Groupings := ⟨fun _ _ s => (some 0, s)⟩

theorem stray_example_survives :
    let ports := (realPorts obedient (fun _ s => s) (fun s => (oneInStanding, s))).recorded
    let main := str "everyone@pdx.org"
    let store : StatusStore := ⟨Dict.empty, true⟩
    let swept := sweepLocked ports quietWriter.beside main false false none none store 0
      ⟨strayWorld, []⟩
    swept.report.hasFailures = false ∧
      ∀ spared, ¬Converged (holding swept.port.world) spared
        (audiencesIn (emailStatuses store 0) oneInStanding main) := by
  intro ports main store swept
  refine ⟨by decide +kernel, fun spared converged => ?_⟩
  have named : main ∈ audiencesIn (emailStatuses store 0) oneInStanding main := by decide +kernel
  have stays : insertedEntry (str "persona@example.com") ∈ swept.port.world main :=
    by decide +kernel
  have stranger : casefold (str "persona@example.com") ∉
      (audiencesIn (emailStatuses store 0) oneInStanding main).at main := by decide +kernel
  clear_value swept
  exact stranger (converged.strangers main named _ stays rfl)

theorem green_converged_iff_stray :
    let ports := (realPorts obedient (fun _ s => s) (fun s => (oneInStanding, s))).recorded
    let main := str "everyone@pdx.org"
    let store : StatusStore := ⟨Dict.empty, true⟩
    let audiences := audiencesIn (emailStatuses store 0) oneInStanding main
    let swept := sweepLocked ports quietWriter.beside main false false none none store 0
      ⟨strayWorld, []⟩
    Converged (holding swept.port.world) (fun g key => RefusedIn swept.port.calls g key ∨
        ExcludedIn ports main (emailStatuses store 0) false audiences
          (.start (emailStatuses store 0) (ports.pool ⟨strayWorld, []⟩).2) g key) audiences ↔
      ∀ g ∈ audiences, ∀ e ∈ holding strayWorld g, e.plain = true →
        casefold e.email ∉ audiences.at g → isExample e.email = false :=
  green_converged_iff obedient_faithful (fun _ _ _ => rfl) (str "everyone@pdx.org") false none none
    ⟨Dict.empty, true⟩ 0
    strayWorld (by decide +kernel)

end Rosadmin
