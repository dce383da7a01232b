import Rosadmin.Sweep.Reach

/-!
# No member is blamed for a missing group

A 404 may be about the address or about the group. The closing question is
asked after every insert of the group, so a group that vouches for itself there
was present at each of them.
-/

namespace Rosadmin
open Foundation

/-- The group is gone for good in the worlds of `gone`: no call brings it back, and Google never
says it is there. -/
structure Deletion {σ : Type} (ports : Ports σ) (g : Email) (gone : σ → Prop) : Prop where
  add : ∀ group address s, gone s → gone (ports.sync.add group address s).2
  remove : ∀ group address s, gone s → gone (ports.sync.remove group address s).2
  list : ∀ group s, gone s → gone (ports.lister.list group s).2
  groupExists : ∀ group s, gone s → gone (ports.lister.groupExists group s).2
  audit : ∀ event s, gone s → gone (ports.audit event s)
  pool : ∀ s, gone s → gone (ports.pool s).2
  denied : ∀ s, gone s → (ports.lister.groupExists g s).1 ≠ .ok true

section
variable {σ : Type} {ports : Ports σ} {plan : GroupPlan} {g : Email} {gone : σ → Prop}

/-- The record only grows, and a call made after the end is followed by nothing but that end. -/
def Onwards (gone : σ → Prop) (r t : Recorded σ) : Prop :=
  ∃ more, t.calls = r.calls ++ more ∧ (gone r.world → gone t.world) ∧ ∀ e ∈ more, gone e.world →
    gone t.world

theorem Onwards.refl (r : Recorded σ) : Onwards gone r r :=
  ⟨[], (List.append_nil _).symm, id, fun _ member => (nomatch member)⟩

theorem Onwards.trans {r t u : Recorded σ} (first : Onwards gone r t) (second : Onwards gone t u) :
    Onwards gone r u := by
  obtain ⟨earlier, one, lasting, before⟩ := first
  obtain ⟨later, two, still, after⟩ := second
  refine ⟨earlier ++ later,
    by rw [two, one, List.append_assoc], still ∘ lasting, fun e member ended => ?_⟩
  rcases List.mem_append.mp member with early | late
  · exact still (before e early ended)
  · exact after e late ended

theorem Onwards.mem {r t : Recorded σ} (onwards : Onwards gone r t) {e : Entry σ}
    (member : e ∈ r.calls) : e ∈ t.calls := by
  obtain ⟨more, calls, -⟩ := onwards
  rw [calls]
  exact List.mem_append_left _ member

theorem onwards_ask {α : Type} (r : Recorded σ) (f : σ → α × σ) (call : α → Call)
    (lasts : gone r.world → gone (f r.world).2) : Onwards gone r (r.ask f call).2 := by
  refine ⟨[⟨call (f r.world).1, r.world⟩], rfl, lasts, fun e member ended => ?_⟩
  obtain rfl := List.mem_singleton.mp member
  exact lasts ended

theorem onwards_frame (deletion : Deletion ports g gone) (plan : GroupPlan) :
    PlanFrame ports.recorded plan (Onwards gone) where
  refl := Onwards.refl
  trans := Onwards.trans
  add _ _ r := onwards_ask r _ _ (deletion.add _ _ _)
  groupExists r := onwards_ask r _ _ (deletion.groupExists _ _)
  audit event _ := ⟨[], (List.append_nil _).symm, deletion.audit event _, fun _ member =>
    (nomatch member)⟩
  remove _ _ r := onwards_ask r _ _ (deletion.remove _ _ _)

/-! ### The refusals of one plan -/

/-- Every refusal held is the group's own, and one for a missing address comes from an insert on the
record. -/
def Sourced (plan : GroupPlan) (found : List Refusal) (calls : List (Entry σ)) : Prop :=
  ∀ x ∈ found, x.groupEmail = plan.groupEmail ∧ (x.outcome = .addressNotFound →
    ∃ e ∈ calls, e.call = .add (some plan.groupEmail) x.address .addressNotFound)

theorem Sourced.onwards {found : List Refusal} {r t : Recorded σ}
    (sourced : Sourced plan found r.calls) (onwards : Onwards gone r t) :
    Sourced plan found t.calls := by
  intro x member
  obtain ⟨own, origin⟩ := sourced x member
  refine ⟨own, fun missing => ?_⟩
  obtain ⟨e, recorded, call⟩ := origin missing
  exact ⟨e, onwards.mem recorded, call⟩

theorem sourced_turn (deletion : Deletion ports g gone) {l next : AddLoop (Recorded σ)}
    {a : PlannedAdd} (planned : a ∈ plan.adds) (sourced : Sourced plan l.found l.port.calls)
    (turn : AddTurn ports.recorded plan l a (.ok next)) :
    Sourced plan next.found next.port.calls := by
  have frame := onwards_frame deletion plan
  have onwards : Onwards gone l.port next.port := frame.toAddFrame.turn planned turn
  have old := sourced.onwards onwards
  cases turn with
  | settled outcome port answer readable =>
    rw [settleAdd_found]
    split
    · intro x member
      rcases List.mem_append.mp member with earlier | new
      · exact old x earlier
      · obtain rfl := List.mem_singleton.mp new
        exact ⟨rfl, fun missing => absurd missing readable⟩
    · exact old
  | vouched port heard answer asks =>
    rw [settleAdd_found]
    intro x member
    rcases List.mem_append.mp member with earlier | new
    · exact old x earlier
    · obtain rfl := List.mem_singleton.mp new
      refine ⟨rfl, fun _ => ?_⟩
      have asked : Onwards gone port heard := by
        have step := frame.toAddFrame.asks l.presence port
        rw [asks] at step
        exact step
      have settled := frame.toAddFrame.settles a .addressNotFound
        { l with presence := some .present, port := heard }
      have issued : (⟨.add (some plan.groupEmail) a.address .addressNotFound,
          l.port.world⟩ : Entry σ) ∈ port.calls := by
        obtain ⟨outcome, same⟩ := Prod.mk.inj answer
        rw [← same]
        show _ ∈ l.port.calls ++ [_]
        rw [List.mem_append, List.mem_singleton]
        exact Or.inr (by rw [← outcome])
      exact ⟨_, settled.mem (asked.mem issued), rfl⟩
  | unread port heard answer asks => exact old

theorem sourced_adds (deletion : Deletion ports g gone) {adds : List PlannedAdd}
    (planned : ∀ a ∈ adds, a ∈ plan.adds) {l u : AddLoop (Recorded σ)}
    (sourced : Sourced plan l.found l.port.calls)
    (run : applyAdds ports.recorded plan adds l = .ok u) : Sourced plan u.found u.port.calls := by
  induction adds generalizing l with
  | nil =>
    cases pure_ok.mp run
    exact sourced
  | cons a adds ih =>
    obtain ⟨here, later⟩ := List.forall_mem_cons.mp planned
    obtain ⟨v, turned, rest⟩ := foldlM_cons_ok.mp run
    have turn := applyAdd_turn ports.recorded plan l a
    rw [turned] at turn
    exact ih later (sourced_turn deletion here sourced turn) rest

/-- No insert of the group among the calls was issued after its end. -/
def Before (gone : σ → Prop) (g : Email) (calls : List (Entry σ)) : Prop :=
  ∀ e ∈ calls, ∀ address outcome, e.call = .add (some g) address outcome → ¬gone e.world

/-- What one applied plan adds to the refusals, and when its inserts were issued. -/
structure Blamed (gone : σ → Prop) (g : Email) (plan : GroupPlan) (refusals : List Refusal)
    (r : Recorded σ) (done : Applied (Recorded σ)) (found : List Refusal) (more : List (Entry σ)) :
    Prop where
  refusals : done.refusals = refusals ++ found
  calls : done.port.calls = r.calls ++ more
  sourced : Sourced plan found done.port.calls
  before : plan.groupEmail = g → (∃ x ∈ found, x.outcome = .addressNotFound) → Before gone g more

/-- A group that vouches for itself at the end of its adds was there at each of them. -/
theorem vouched_before (deletion : Deletion ports g gone) {r : Recorded σ}
    {l : AddLoop (Recorded σ)} {port : Recorded σ} (onwards : Onwards gone r l.port)
    (answer : presenceOf ports.recorded.lister g l.port = (.present, port)) :
    ∃ more, port.calls = r.calls ++ more ∧ Before gone g more := by
  have there : ¬gone l.port.world := by
    intro ended
    have denied := deletion.denied l.port.world ended
    have said : Presence.ofAnswer (ports.lister.groupExists g l.port.world).1 = .present :=
      congrArg Prod.fst answer
    cases told : (ports.lister.groupExists g l.port.world).1 with
    | error e => rw [told] at said; cases said
    | ok found =>
      cases found with
      | true => exact denied told
      | false => rw [told] at said; cases said
  have asked : port.calls = l.port.calls ++
      [⟨.groupExists g (ports.lister.groupExists g l.port.world).1, l.port.world⟩] :=
    congrArg (fun heard => heard.2.calls) answer.symm
  obtain ⟨more, calls, -, ends⟩ := onwards
  refine ⟨more ++ [_],
    by rw [asked, calls, List.append_assoc], fun e member address outcome call ended => ?_⟩
  rcases List.mem_append.mp member with early | last
  · exact there (ends e early ended)
  · obtain rfl := List.mem_singleton.mp last
    cases call

theorem before_of_removes {calls : List (Entry σ)}
    (allowed : ∀ e ∈ calls, Allowed plan.removesOnly e.call) : Before gone g calls := by
  intro e member address outcome call
  have here := allowed e member
  rw [call] at here
  cases here with
  | add a planned => cases planned

/-- The removes that follow the adds name no insert. -/
theorem finish_blamed {refusals : List Refusal} {r : Recorded σ} {l : AddLoop (Recorded σ)}
    {more : List (Entry σ)}
    (calls : l.port.calls = r.calls ++ more) (sourced : Sourced plan l.found l.port.calls)
    (before : plan.groupEmail = g → (∃ x ∈ l.found, x.outcome = .addressNotFound) →
      Before gone g more) :
    ∃ found more, Blamed gone g plan refusals r (finish ports.recorded plan refusals (.ok l))
      found more := by
  obtain ⟨later, after, allowed, -⟩ := applyRemoves_calls ports plan l.tally l.port
  refine ⟨l.found, more ++ later, rfl, ?_, fun x member => ?_, fun own missed => ?_⟩
  · show (applyRemoves ports.recorded plan l.tally l.port).2.calls = _
    rw [after, calls, List.append_assoc]
  · obtain ⟨own, origin⟩ := sourced x member
    refine ⟨own, fun missing => ?_⟩
    obtain ⟨e, recorded, call⟩ := origin missing
    refine ⟨e, ?_, call⟩
    show e ∈ (applyRemoves ports.recorded plan l.tally l.port).2.calls
    rw [after]
    exact List.mem_append_left _ recorded
  · intro e member
    rcases List.mem_append.mp member with early | late
    · exact before own missed e early
    · exact before_of_removes allowed e late

theorem apply_blamed (deletion : Deletion ports g gone) (plan : GroupPlan) (unmirrorable : List Str)
    (refusals : List Refusal) (accepted : List Email) (r : Recorded σ) :
    ∃ found more, Blamed gone g plan refusals r
      (apply ports.recorded plan unmirrorable refusals accepted r) found more := by
  have start : Sourced plan (loopStart unmirrorable accepted r).found
      (loopStart unmirrorable accepted r).port.calls :=
    fun x member => (nomatch member)
  have frame := (onwards_frame deletion plan).toAddFrame
  have run := adds_run ports.recorded plan (loopStart unmirrorable accepted r)
  unfold apply
  generalize applyAdds ports.recorded plan plan.adds (loopStart unmirrorable accepted r) >>=
    confirmAdds ports.recorded plan = result at *
  have onwards : Onwards gone r (ending result).port := frame.run run
  -- an abandoned group adds no refusal
  have empty : ∀ l, result = .error l → ∃ found more,
      Blamed gone g plan refusals r (finish ports.recorded plan refusals (.error l))
        found more := by
    intro l same
    rw [same] at onwards
    obtain ⟨more, calls, -⟩ := onwards
    exact ⟨[], more, (List.append_nil _).symm, calls, fun x member => (nomatch member),
      fun _ ⟨x, member, _⟩ => (nomatch member)⟩
  cases run with
  | left done rest a u e whole before turn => exact empty e rfl
  | through u result ran closing =>
    have sourced := sourced_adds deletion (fun _ member => member) start ran
    have reached : Onwards gone r u.port := frame.loop (fun _ member => member) ran
    cases closing with
    | unasked none =>
      obtain ⟨more, calls, -⟩ := reached
      apply finish_blamed calls sourced
      rintro _ ⟨x, member, missing⟩
      have known := List.any_eq_false.mp none x member
      simp [missing] at known
    | confirmed port doubted answer =>
      have asked : Onwards gone u.port port := by
        have step := frame.groupExists u.port
        simp only [presenceOf, Prod.mk.injEq] at answer
        exact answer.2 ▸ step
      by_cases own : plan.groupEmail = g
      · obtain ⟨more, calls, before⟩ := vouched_before deletion reached (own ▸ answer)
        exact finish_blamed calls (sourced.onwards asked) fun _ _ => before
      · obtain ⟨more, calls, -⟩ := onwards
        exact finish_blamed calls (sourced.onwards asked) fun same => absurd same own
    | denied presence port doubted answer absent => exact empty _ rfl

/-! ### The refusals of a run -/

section
variable (mainGroupEmail : Email) (statuses : EmailStatuses) (allowMassRemoval : Bool)

theorem rechecked_calls (ports : Ports σ) (plan : GroupPlan) (r : Recorded σ) :
    ∃ reads, (rechecked ports.recorded mainGroupEmail statuses plan r).2.calls = r.calls ++ reads ∧
      (∀ e ∈ reads, e.call.group = none) ∧
      (rechecked ports.recorded mainGroupEmail statuses plan r).1.groupEmail = plan.groupEmail := by
  unfold rechecked
  split
  · refine ⟨[_], rfl, fun e member => ?_, rfl⟩
    obtain rfl := List.mem_singleton.mp member
    rfl
  · exact ⟨[], (List.append_nil _).symm, fun _ member => (nomatch member), rfl⟩

theorem sweepGroup_blamed (deletion : Deletion ports g gone) (s : RunState (Recorded σ))
    (audience : Email × Audience) : ∃ plan found turn, plan.groupEmail = audience.1 ∧
      let next := sweepGroup ports.recorded mainGroupEmail statuses allowMassRemoval s audience
      next.refusals = s.refusals ++ found ∧ next.port.calls = s.port.calls ++ turn ∧
        Sourced plan found next.port.calls ∧
        (audience.1 = g → (∃ x ∈ found, x.outcome = .addressNotFound) → Before gone g turn) := by
  have lists : ports.recorded.lister.list audience.1 s.port =
    ((ports.lister.list audience.1 s.port.world).1,
    ⟨(ports.lister.list audience.1 s.port.world).2, s.port.calls ++
      [⟨.list audience.1 (ports.lister.list audience.1 s.port.world).1, s.port.world⟩]⟩) := rfl
  unfold sweepGroup
  rw [lists]
  cases ports.lister.list audience.1 s.port.world with
  | mk answer world =>
    cases answer with
    | error e =>
      exact ⟨s.plan allowMassRemoval audience [], [], [_], rfl, (List.append_nil _).symm, rfl,
        fun x member => (nomatch member), fun _ ⟨x, member, _⟩ => (nomatch member)⟩
    | ok listing =>
      dsimp only
      obtain ⟨reads, read, unnamed, named⟩ := rechecked_calls mainGroupEmail statuses ports
        (s.plan allowMassRemoval audience listing) ⟨world,
          s.port.calls ++ [⟨.list audience.1 (.ok listing), s.port.world⟩]⟩
      generalize rechecked ports.recorded mainGroupEmail statuses
        (s.plan allowMassRemoval audience listing) _ = heard at *
      obtain ⟨found, more, blamed⟩ :=
        apply_blamed deletion heard.1 s.unmirrorable s.refusals s.accepted heard.2
      refine ⟨heard.1, found, ⟨.list audience.1 (.ok listing), s.port.world⟩ :: (reads ++ more),
        named, blamed.refusals, ?_, blamed.sourced, fun own missed => ?_⟩
      · rw [blamed.calls, read, List.append_assoc, List.append_assoc]
        rfl
      · have before := blamed.before (named.trans own) missed
        intro e member address outcome call
        rcases List.mem_cons.mp member with rfl | member
        · cases call
        rcases List.mem_append.mp member with early | late
        · have none := unnamed e early
          rw [call] at none
          cases none
        · exact before e late address outcome call

end

/-- What holds of a run that has swept some groups: the calls and the refusals about `g` come from
its one turn. -/
structure Blameless (gone : σ → Prop) (g : Email) (swept : List Email) (s : RunState (Recorded σ)) :
    Prop where
  calls : ∀ e ∈ s.port.calls, ∀ group, e.call.group = some group → group ∈ swept
  refusals : ∀ x ∈ s.refusals, x.groupEmail ∈ swept
  issued : ∀ x ∈ s.refusals, x.groupEmail = g → x.outcome = .addressNotFound →
    (∃ e ∈ s.port.calls, e.call = .add (some g) x.address .addressNotFound) ∧
      Before gone g s.port.calls

variable {mainGroupEmail : Email} {statuses : EmailStatuses} {allowMassRemoval : Bool}

theorem blameless_step (deletion : Deletion ports g gone) {s : RunState (Recorded σ)}
    {swept : List Email} {audience : Email × Audience} (fresh : audience.1 ∉ swept)
    (blameless : Blameless gone g swept s) :
    Blameless gone g (swept ++ [audience.1])
      (sweepGroup ports.recorded mainGroupEmail statuses allowMassRemoval s audience) := by
  obtain ⟨turn, calls, turned⟩ :=
    sweepGroup_turn mainGroupEmail statuses allowMassRemoval ports s audience
  have own : ∀ e ∈ turn, ∀ g, e.call.group = some g → g = audience.1 := turned.group (fun _ => rfl)
  obtain ⟨plan, found, turn', named, refusals, calls', sourced, before⟩ :=
    sweepGroup_blamed mainGroupEmail statuses allowMassRemoval deletion s audience
  have same : turn' = turn := List.append_cancel_left (calls'.symm.trans calls)
  subst same
  generalize sweepGroup ports.recorded mainGroupEmail statuses allowMassRemoval s audience =
    next at *
  constructor
  · intro e member group called
    rw [calls] at member
    rcases List.mem_append.mp member with early | late
    · exact List.mem_append_left _ (blameless.calls e early group called)
    · exact List.mem_append_right _ (List.mem_singleton.mpr (own e late group called))
  · intro x member
    rw [refusals] at member
    rcases List.mem_append.mp member with early | late
    · exact List.mem_append_left _ (blameless.refusals x early)
    · exact List.mem_append_right _ (List.mem_singleton.mpr ((sourced x late).1.trans named))
  · intro x member about missing
    rw [refusals] at member
    rcases List.mem_append.mp member with early | late
    · -- the group's turn is over, and this turn is another group's
      have old : g ∈ swept := about ▸ blameless.refusals x early
      obtain ⟨⟨e, recorded, call⟩, kept⟩ := blameless.issued x early about missing
      rw [calls]
      refine ⟨⟨e, List.mem_append_left _ recorded, call⟩, fun f member address outcome issued => ?_⟩
      rcases List.mem_append.mp member with earlier | later
      · exact kept f earlier address outcome issued
      · have here : g = audience.1 := own f later g (by rw [issued]; rfl)
        exact absurd (here ▸ old) fresh
    · obtain ⟨mine, origin⟩ := sourced x late
      have here : audience.1 = g := (named.symm.trans mine.symm).trans about
      refine ⟨by rw [← here, ← named]; exact origin missing, ?_⟩
      rw [calls]
      intro f member address outcome issued
      rcases List.mem_append.mp member with earlier | later
      · have swept := blameless.calls f earlier g (by rw [issued]; rfl)
        exact absurd (here ▸ swept) fresh
      · exact before here ⟨x, late, missing⟩ f later address outcome issued

theorem blameless_run (deletion : Deletion ports g gone) {audiences : List (Email × Audience)}
    {s : RunState (Recorded σ)} {swept : List Email}
    (distinct : (swept ++ audiences.map (·.1)).Nodup) (blameless : Blameless gone g swept s) :
    Blameless gone g (swept ++ audiences.map (·.1))
      (audiences.foldl (sweepGroup ports.recorded mainGroupEmail statuses allowMassRemoval) s) := by
  induction audiences generalizing s swept with
  | nil => simpa using blameless
  | cons audience audiences ih =>
    rw [List.map_cons, List.append_cons] at distinct ⊢
    have fresh : audience.1 ∉ swept := fun member =>
      (List.nodup_append.mp (List.nodup_append.mp distinct).1).2.2 _ member
        _ (List.mem_singleton_self _) rfl
    exact ih distinct (blameless_step deletion fresh blameless)

end

/-- A refusal held for the store as a missing address comes from an insert, and no insert of that
address into that group was issued after the group's end. -/
theorem blamed_before_deletion {σ : Type} {ports : Ports σ} {g : Email} {gone : σ → Prop}
    (deletion : Deletion ports g gone) (mainGroupEmail : Email) (statuses : EmailStatuses)
    (allowMassRemoval : Bool) (audiences : Audiences) (world : σ) :
    let run := sweepAudiences ports.recorded mainGroupEmail statuses allowMassRemoval audiences
      ⟨world, []⟩
    ∀ x ∈ run.refusals, x.groupEmail = g → x.outcome = .addressNotFound →
      (∃ e ∈ run.port.calls, e.call = .add (some g) x.address .addressNotFound) ∧
        ∀ e ∈ run.port.calls, ∀ outcome, e.call = .add (some g) x.address outcome →
          ¬gone e.world := by
  have start : Blameless gone g [] (.start statuses (⟨world, []⟩ : Recorded σ)) :=
    ⟨fun _ member => (nomatch member), fun _ member => (nomatch member), fun _ member =>
      (nomatch member)⟩
  intro run x held about missing
  have blameless : Blameless gone g _ run :=
    blameless_run deletion (Dict.sorted_keys_nodup audiences) start
  obtain ⟨origin, before⟩ := blameless.issued x held about missing
  exact ⟨origin, fun e member outcome call => before e member x.address outcome call⟩

/-- A group of one desired member, deleted once the sweep has asked for it twice; the world counts
the calls. -/
def deletedLate : Ports Nat where
  sync := { add := fun _ _ n => (.addressNotFound, n + 1), remove := fun _ _ n => (.failed, n + 1) }
  lister := { list := fun _ n => (.ok [], n), groupExists := fun _ n =>
    (.ok (decide (n < 3)), n + 1) }
  audit := fun _ n => n
  pool := fun n => ({ Database.empty with
    members := [plainMember 0 (str "ana@pdx.org")], nextId := 1 }, n)

theorem blamed_before_deletion_late :
    let run := sweepAudiences deletedLate.recorded (str "all@pdx.org") ⟨[], Dict.empty, []⟩ false
      (audiencesIn ⟨[], Dict.empty, []⟩ (deletedLate.pool 0).1 (str "all@pdx.org")) ⟨0, []⟩
    run.refusals = [⟨str "ana@pdx.org", 0, str "all@pdx.org", .addressNotFound⟩] ∧
      3 ≤ run.port.world ∧
      ∀ x ∈ run.refusals, x.groupEmail = str "all@pdx.org" → x.outcome = .addressNotFound →
        (∃ e ∈ run.port.calls, e.call = .add (some (str "all@pdx.org")) x.address
          .addressNotFound) ∧
          ∀ e ∈ run.port.calls, ∀ outcome,
            e.call = .add (some (str "all@pdx.org")) x.address outcome → ¬3 ≤ e.world := by
  have deletion : Deletion deletedLate (str "all@pdx.org") (fun n => 3 ≤ n) :=
    { add := fun _ _ n ended => Nat.le_succ_of_le ended
      remove := fun _ _ n ended => Nat.le_succ_of_le ended
      list := fun _ n ended => ended
      groupExists := fun _ n ended => Nat.le_succ_of_le ended
      audit := fun _ n ended => ended
      pool := fun n ended => ended
      denied := fun n ended => by simp [deletedLate, ended] }
  exact ⟨by decide +kernel, by decide +kernel, blamed_before_deletion deletion (str "all@pdx.org") _ false _ 0⟩

end Rosadmin
