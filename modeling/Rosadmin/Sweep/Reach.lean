import Rosadmin.Sweep.Access
import Rosadmin.Sweep.Calls

/-!
# What a sweep may do to a group

Every add and every remove of a run is one that both reads of the desired set
and the listing allow, and the removes of a group stay within its budget,
whatever is written to the tables between the reads.
-/

namespace Rosadmin
open Foundation

/-- What a plan lets the sweep ask of Google. -/
inductive Allowed (plan : GroupPlan) : Call → Prop where
  | groupExists (answer : Except HttpError Bool) : Allowed plan
      (.groupExists plan.groupEmail answer)
  | add (a : PlannedAdd) (planned : a ∈ plan.adds) (outcome : SyncOutcome) :
      Allowed plan (.add (some plan.groupEmail) a.address outcome)
  | remove (address : Email) (planned : address ∈ plan.removes) (outcome : SyncOutcome) :
      Allowed plan (.remove (some plan.groupEmail) address outcome)

section
variable {σ : Type}

def removesOf (g : Email) (calls : List (Entry σ)) : Nat :=
  calls.countP (fun e => e.call.isRemove && e.call.group = some g)

/-- Both reads behind a group's calls: its listing, and the tables as they stood right after. -/
def ReadTwice (calls : List (Entry σ)) (g : Email) (listing : List GroupMemberEntry)
    (reread : Database) : Prop :=
  [Call.list g (.ok listing), .pool reread] <:+: calls.map (·.call)

/-- The bounds of a run that planned on `db`. -/
structure Bounded (statuses : EmailStatuses) (db : Database) (mainGroupEmail : Email)
    (allowMassRemoval : Bool) (calls : List (Entry σ)) : Prop where
  once : ∀ g, calls.countP (fun e => e.call.isList && e.call.group = some g) ≤ 1
  adds : ∀ e ∈ calls, ∀ group address outcome, e.call = .add group address outcome →
    ∃ g listing reread, group = some g ∧ ReadTwice calls g listing reread ∧
      address ∈ (audiencesIn statuses db mainGroupEmail).at g ∧
      address ∈ desiredForGroup statuses reread g mainGroupEmail ∧ address ∉ present listing
  removes : ∀ e ∈ calls, ∀ group address outcome, e.call = .remove group address outcome →
    ∃ g listing reread, group = some g ∧ ReadTwice calls g listing reread ∧
      (∃ entry ∈ listing, entry.email = address ∧ entry.permissionLevel = .member ∧
        entry.type = some (str "USER")) ∧
      casefold address ∉ (audiencesIn statuses db mainGroupEmail).at g ∧
      casefold address ∉ desiredForGroup statuses reread g mainGroupEmail
  fuse : allowMassRemoval = false → ∀ e ∈ calls, ∀ g listing, e.call = .list g (.ok listing) →
    removesOf g calls ≤ max 5 ((listing.length + 9) / 10) ∧
      (max 5 ((listing.length + 9) / 10) <
        (strangers ((audiencesIn statuses db mainGroupEmail).at g) listing).length →
        removesOf g calls = 0)

end

/-! ### The calls of one plan -/

section
variable {σ : Type} {ports : Ports σ} {plan : GroupPlan}

def GroupPlan.addsOnly (plan : GroupPlan) : GroupPlan := { plan with removes := [] }

def GroupPlan.removesOnly (plan : GroupPlan) : GroupPlan := { plan with adds := [] }

theorem Allowed.ofAdds {call : Call} (allowed : Allowed plan.addsOnly call) :
    Allowed plan call := by
  cases allowed with
  | groupExists answer => exact .groupExists answer
  | add a planned outcome =>
    have here : a ∈ plan.adds := planned
    exact .add a here outcome
  | remove address planned outcome => cases planned

theorem Allowed.ofRemoves {call : Call} (allowed : Allowed plan.removesOnly call) :
    Allowed plan call := by
  cases allowed with
  | groupExists answer => exact .groupExists answer
  | add a planned outcome => cases planned
  | remove address planned outcome =>
    have here : address ∈ plan.removes := planned
    exact .remove address here outcome

theorem Allowed.noRemove {call : Call} (allowed : Allowed plan call) (none : plan.removes = []) :
    call.isRemove = false := by
  cases allowed with
  | groupExists answer => rfl
  | add a planned outcome => rfl
  | remove address planned outcome => rw [none] at planned; cases planned

theorem adds_frame (ports : Ports σ) (plan : GroupPlan) :
    AddFrame ports.recorded plan (fun r t => ∃ more, t.calls = r.calls ++ more ∧
      ∀ e ∈ more, Allowed plan.addsOnly e.call) where
  refl r := ⟨[], (List.append_nil _).symm, fun _ member => nomatch member⟩
  trans := by
    rintro r t u ⟨first, early, one⟩ ⟨second, late, two⟩
    refine ⟨first ++ second, by rw [late, early, List.append_assoc], fun e member => ?_⟩
    exact (List.mem_append.mp member).elim (one e) (two e)
  add a planned r := by
    refine ⟨[_], rfl, fun e member => ?_⟩
    obtain rfl := List.mem_singleton.mp member
    have here : a ∈ plan.addsOnly.adds := planned
    exact .add a here _
  groupExists r := by
    refine ⟨[_], rfl, fun e member => ?_⟩
    obtain rfl := List.mem_singleton.mp member
    exact .groupExists _
  audit event r := ⟨[], (List.append_nil _).symm, fun _ member => nomatch member⟩

theorem applyRemove_calls (r : RemoveLoop (Recorded σ)) (address : Email) :
    ∃ outcome, (applyRemove ports.recorded plan r address).port.calls =
      r.port.calls ++ [⟨.remove (some plan.groupEmail) address outcome, r.port.world⟩] := by
  refine ⟨(ports.sync.remove (some plan.groupEmail) address r.port.world).1, ?_⟩
  unfold applyRemove
  dsimp only
  split
  · rfl
  split <;> rfl

theorem removes_calls {removes : List Email} (planned : ∀ address ∈ removes, address ∈ plan.removes)
    (r : RemoveLoop (Recorded σ)) :
    ∃ more, (removes.foldl (applyRemove ports.recorded plan) r).port.calls = r.port.calls ++ more ∧
      (∀ e ∈ more, Allowed plan.removesOnly e.call) ∧
        more.countP (·.call.isRemove) = removes.length := by
  induction removes generalizing r with
  | nil => exact ⟨[], (List.append_nil _).symm, fun _ member => (nomatch member), rfl⟩
  | cons address removes ih =>
    obtain ⟨here, rest⟩ := List.forall_mem_cons.mp planned
    obtain ⟨outcome, first⟩ : ∃ outcome,
      (applyRemove ports.recorded plan r address).port.calls = _ :=
      applyRemove_calls r address
    obtain ⟨more, calls, allowed, count⟩ := ih rest (applyRemove ports.recorded plan r address)
    refine ⟨⟨.remove (some plan.groupEmail) address outcome, r.port.world⟩ :: more, ?_, ?_, ?_⟩
    · rw [List.foldl_cons, calls, first, List.append_assoc]
      rfl
    · have listed : address ∈ plan.removesOnly.removes := here
      exact List.forall_mem_cons.mpr ⟨.remove address listed outcome, allowed⟩
    · rw [List.countP_cons_of_pos rfl, count, List.length_cons]

theorem applyRemoves_calls (ports : Ports σ) (plan : GroupPlan) (tally : List SyncOutcome)
    (r : Recorded σ) :
    ∃ more, (applyRemoves ports.recorded plan tally r).2.calls = r.calls ++ more ∧
      (∀ e ∈ more, Allowed plan.removesOnly e.call) ∧
      more.countP (·.call.isRemove) = plan.removes.length := by
  obtain ⟨more, calls, allowed, count⟩ : ∃ more,
    (plan.removes.foldl (applyRemove ports.recorded plan)
      ⟨tally, 0, r⟩).port.calls = r.calls ++ more ∧ _ :=
        removes_calls (fun _ planned => planned) ⟨tally, 0, r⟩
  unfold applyRemoves
  dsimp only
  generalize plan.removes.foldl (applyRemove ports.recorded plan) ⟨tally, 0, r⟩ = l at *
  split
  · refine ⟨more ++ [⟨.groupExists plan.groupEmail
      (ports.lister.groupExists plan.groupEmail l.port.world).1, l.port.world⟩], ?_, ?_, ?_⟩
    · show l.port.calls ++ _ = _
      rw [calls, List.append_assoc]
    · intro e member
      rcases List.mem_append.mp member with earlier | last
      · exact allowed e earlier
      · obtain rfl := List.mem_singleton.mp last
        exact .groupExists _
    · rw [List.countP_append, count]
      rfl
  · exact ⟨more, calls, allowed, count⟩

theorem apply_calls (ports : Ports σ) (plan : GroupPlan) (unmirrorable : List Str)
    (refusals : List Refusal) (accepted : List Email) (r : Recorded σ) :
    ∃ more, (apply ports.recorded plan unmirrorable refusals accepted r).port.calls = r.calls ++
      more ∧
      (∀ e ∈ more, Allowed plan e.call) ∧ more.countP (·.call.isRemove) ≤ plan.removes.length := by
  obtain ⟨asked, calls, allowed⟩ :=
    (adds_frame ports plan).run (adds_run ports.recorded plan (loopStart unmirrorable accepted r))
  have none : asked.countP (·.call.isRemove) = 0 :=
    List.countP_eq_zero.mpr fun e member => by simp [(allowed e member).noRemove rfl]
  unfold apply
  generalize applyAdds ports.recorded plan plan.adds (loopStart unmirrorable accepted r) >>=
    confirmAdds ports.recorded plan = result at *
  cases result with
  | error l => exact ⟨asked, calls, fun e member => (allowed e member).ofAdds, by omega⟩
  | ok l =>
    obtain ⟨more, later, also, count⟩ := applyRemoves_calls ports plan l.tally l.port
    refine ⟨asked ++ more, ?_, fun e member => ?_, ?_⟩
    · show (applyRemoves ports.recorded plan l.tally l.port).2.calls = _
      change l.port.calls = r.calls ++ asked at calls
      rw [later, calls, List.append_assoc]
    · rcases List.mem_append.mp member with earlier | last
      · exact (allowed e earlier).ofAdds
      · exact (also e last).ofRemoves
    · rw [List.countP_append]
      omega

end

/-! ### The calls of one group -/

section
variable {σ : Type} (mainGroupEmail : Email) (statuses : EmailStatuses) (allowMassRemoval : Bool)

/-- What a group's turn writes on the record. An empty plan is spared its second look, and asks
nothing. -/
inductive GroupTurn (planOf : List GroupMemberEntry → GroupPlan) (g : Email) :
    List (Entry σ) → Prop where
  | unlisted (error : HttpError) (world : σ) : GroupTurn planOf g [⟨.list g (.error error), world⟩]
  | idle (listing : List GroupMemberEntry) (world : σ) (rest : List (Entry σ))
      (noAdds : (planOf listing).adds = []) (noRemoves : (planOf listing).removes = [])
      (allowed : ∀ e ∈ rest, Allowed (planOf listing) e.call) :
      GroupTurn planOf g (⟨.list g (.ok listing), world⟩ :: rest)
  | swept (listing : List GroupMemberEntry) (reread : Database) (world later : σ)
      (rest : List (Entry σ))
      (allowed : ∀ e ∈ rest,
        Allowed (recheck (planOf listing) (desiredForGroup statuses reread g mainGroupEmail))
        e.call)
      (count : rest.countP (·.call.isRemove) ≤
        (recheck (planOf listing)
          (desiredForGroup statuses reread g mainGroupEmail)).removes.length) :
      GroupTurn planOf g (⟨.list g (.ok listing), world⟩ :: ⟨.pool reread, later⟩ :: rest)

theorem sweepGroup_turn (ports : Ports σ) (s : RunState (Recorded σ))
    (audience : Email × Audience) :
    ∃ turn, (sweepGroup ports.recorded mainGroupEmail statuses allowMassRemoval s
      audience).port.calls = s.port.calls ++ turn ∧
      GroupTurn mainGroupEmail statuses (s.plan allowMassRemoval audience) audience.1 turn := by
  have lists : ports.recorded.lister.list audience.1 s.port =
    ((ports.lister.list audience.1 s.port.world).1,
    ⟨(ports.lister.list audience.1 s.port.world).2, s.port.calls ++
      [⟨.list audience.1 (ports.lister.list audience.1 s.port.world).1, s.port.world⟩]⟩) := rfl
  unfold sweepGroup
  rw [lists]
  cases ports.lister.list audience.1 s.port.world with
  | mk answer world =>
    cases answer with
    | error e => exact ⟨[_], rfl, .unlisted e s.port.world⟩
    | ok listing =>
      dsimp only
      unfold rechecked
      split
      · dsimp only
        generalize recheckedAs : recheck (s.plan allowMassRemoval audience listing) _ = fresh
        generalize portAs : (ports.recorded.pool _).2 = r
        obtain ⟨more, calls, allowed, count⟩ :=
          apply_calls ports fresh s.unmirrorable s.refusals s.accepted r
        subst portAs recheckedAs
        refine ⟨_, ?_, .swept listing (ports.pool world).1 s.port.world world more allowed count⟩
        rw [calls]
        show ((s.port.calls ++ [_]) ++ [_]) ++ more = _
        simp
      · rename_i empty
        simp only [ne_eq, not_or, not_not] at empty
        obtain ⟨more, calls, allowed, -⟩ :=
          apply_calls ports (s.plan allowMassRemoval audience listing) s.unmirrorable
          s.refusals s.accepted ⟨world, s.port.calls ++
            [⟨.list audience.1 (.ok listing), s.port.world⟩]⟩
        refine ⟨_, ?_, .idle listing s.port.world more empty.1 empty.2.1 allowed⟩
        rw [calls, List.append_assoc]
        rfl

end

/-! ### The bounds of one group -/

section
variable {unmirrorable lapsedRefusals : List Str} {retrySlots : Nat} {allowMassRemoval : Bool}
    {g : Email} {desired : Audience} {listing : List GroupMemberEntry}

/-- The fuse lets the removes through up to the budget, and none of them past it. -/
theorem planGroup_removes_within (guarded : allowMassRemoval = false) :
    (planGroup unmirrorable lapsedRefusals retrySlots g desired listing
      allowMassRemoval).removes.length ≤ removalBudget listing.length ∧
      (removalBudget listing.length < (strangers desired listing).length →
        (planGroup unmirrorable lapsedRefusals retrySlots g desired listing
          allowMassRemoval).removes.length = 0) := by
  unfold planGroup fuseTrips
  by_cases exceeds : removalBudget listing.length < (strangers desired listing).length
  · simp [guarded, exceeds]
  · have within : (strangers desired listing).length ≤ removalBudget listing.length :=
      Nat.le_of_not_lt exceeds
    simp [guarded, exceeds, within]

end

section
variable {σ : Type} {statuses : EmailStatuses} {db : Database} {mainGroupEmail : Email}
    {allowMassRemoval : Bool} {first second : List (Entry σ)}

/-- Neither list has a call about a group of the other. -/
def Apart (first second : List (Entry σ)) : Prop :=
  ∀ e ∈ first, ∀ f ∈ second, ∀ g, e.call.group = some g → f.call.group ≠ some g

theorem countP_apart (apart : Apart first second) (kind : Call → Bool) (g : Email) :
    first.countP (fun e => kind e.call && e.call.group = some g) = 0 ∨
      second.countP (fun e => kind e.call && e.call.group = some g) = 0 := by
  by_cases here : ∃ e ∈ first, e.call.group = some g
  · obtain ⟨e, member, named⟩ := here
    refine Or.inr (List.countP_eq_zero.mpr fun f later => ?_)
    simp [apart e member f later g named]
  · refine Or.inl (List.countP_eq_zero.mpr fun e member => ?_)
    have other : e.call.group ≠ some g := fun named => here ⟨e, member, named⟩
    simp [other]

theorem ReadTwice.append_left {g : Email} {listing : List GroupMemberEntry} {reread : Database}
    (read : ReadTwice second g listing reread) : ReadTwice (first ++ second) g listing reread := by
  unfold ReadTwice at read ⊢
  rw [List.map_append]
  exact read.trans (List.suffix_append _ _).isInfix

theorem ReadTwice.append_right {g : Email} {listing : List GroupMemberEntry} {reread : Database}
    (read : ReadTwice first g listing reread) : ReadTwice (first ++ second) g listing reread := by
  unfold ReadTwice at read ⊢
  rw [List.map_append]
  exact read.trans (List.prefix_append _ _).isInfix

theorem removesOf_append (g : Email) :
    removesOf g (first ++ second) = removesOf g first + removesOf g second :=
  List.countP_append

theorem Bounded.append (one : Bounded statuses db mainGroupEmail allowMassRemoval first)
    (two : Bounded statuses db mainGroupEmail allowMassRemoval second)
    (apart : Apart first second) :
    Bounded statuses db mainGroupEmail allowMassRemoval (first ++ second) where
  once g := by
    rw [List.countP_append]
    have := one.once g
    have := two.once g
    have := countP_apart apart Call.isList g
    omega
  adds e member group address outcome call := by
    rcases List.mem_append.mp member with earlier | later
    · obtain ⟨g, listing, reread, named, read, rest⟩ :=
        one.adds e earlier group address outcome call
      exact ⟨g, listing, reread, named, read.append_right, rest⟩
    · obtain ⟨g, listing, reread, named, read, rest⟩ := two.adds e later group address outcome call
      exact ⟨g, listing, reread, named, read.append_left, rest⟩
  removes e member group address outcome call := by
    rcases List.mem_append.mp member with earlier | later
    · obtain ⟨g, listing, reread, named, read, rest⟩ :=
        one.removes e earlier group address outcome call
      exact ⟨g, listing, reread, named, read.append_right, rest⟩
    · obtain ⟨g, listing, reread, named, read, rest⟩ :=
        two.removes e later group address outcome call
      exact ⟨g, listing, reread, named, read.append_left, rest⟩
  fuse guarded e member g listing call := by
    have named : e.call.group = some g := by rw [call]; rfl
    rw [removesOf_append]
    rcases List.mem_append.mp member with earlier | later
    · have none : removesOf g second = 0 :=
        List.countP_eq_zero.mpr fun f late => by simp [apart e earlier f late g named]
      rw [none]
      exact one.fuse guarded e earlier g listing call
    · have none : removesOf g first = 0 := List.countP_eq_zero.mpr fun f early => by
        have other : f.call.group ≠ some g := fun same => apart f early e later g same named
        simp [other]
      rw [none, Nat.zero_add]
      exact two.fuse guarded e later g listing call

theorem Allowed.group {plan : GroupPlan} {call : Call} (allowed : Allowed plan call) :
    call.group = some plan.groupEmail := by
  cases allowed <;> rfl

theorem Allowed.isList {plan : GroupPlan} {call : Call} (allowed : Allowed plan call) :
    call.isList = false := by
  cases allowed <;> rfl

theorem GroupTurn.group {planOf : List GroupMemberEntry → GroupPlan} {g : Email}
    {turn : List (Entry σ)} (named : ∀ listing, (planOf listing).groupEmail = g)
    (turned : GroupTurn mainGroupEmail statuses planOf g turn) :
    ∀ e ∈ turn, ∀ g', e.call.group = some g' → g' = g := by
  have inPlan : ∀ {plan : GroupPlan} {call : Call} {g' : Email}, plan.groupEmail = g →
      Allowed plan call → call.group = some g' → g' = g := by
    intro plan call g' same allowed here
    exact (Option.some.inj (here.symm.trans allowed.group)).trans same
  cases turned with
  | unlisted error world =>
    intro e member g' here
    obtain rfl := List.mem_singleton.mp member
    exact (Option.some.inj here).symm
  | idle listing world rest noAdds noRemoves allowed =>
    intro e member g' here
    rcases List.mem_cons.mp member with rfl | member
    · exact (Option.some.inj here).symm
    · exact inPlan (named listing) (allowed e member) here
  | swept listing reread world later rest allowed count =>
    intro e member g' here
    rcases List.mem_cons.mp member with rfl | member
    · exact (Option.some.inj here).symm
    rcases List.mem_cons.mp member with rfl | member
    · cases here
    · have fresh : (recheck (planOf listing)
          (desiredForGroup statuses reread g mainGroupEmail)).groupEmail = g :=
        named listing
      exact inPlan fresh (allowed e member) here

variable {unmirrorable lapsedRefusals : List Str} {retrySlots : Nat} {g : Email}

theorem bounded_nil : Bounded statuses db mainGroupEmail allowMassRemoval
    ([] : List (Entry σ)) where
  once _ := Nat.zero_le _
  adds e member := by cases member
  removes e member := by cases member
  fuse _ e member := by cases member

/-- What passes both reads of a group, by a plan on the first and a second look at it. -/
theorem Allowed.lawful {listing : List GroupMemberEntry} {reread : Database} {call : Call}
    (allowed : Allowed (recheck (planGroup unmirrorable lapsedRefusals retrySlots g
      ((audiencesIn statuses db mainGroupEmail).at g) listing allowMassRemoval)
      (desiredForGroup statuses reread g mainGroupEmail)) call) :
    (∀ group address outcome, call = .add group address outcome → group = some g ∧
      address ∈ (audiencesIn statuses db mainGroupEmail).at g ∧
      address ∈ desiredForGroup statuses reread g mainGroupEmail ∧ address ∉ present listing) ∧
    (∀ group address outcome, call = .remove group address outcome → group = some g ∧
      (∃ entry ∈ listing, entry.email = address ∧ entry.permissionLevel = .member ∧
        entry.type = some (str "USER")) ∧
      casefold address ∉ (audiencesIn statuses db mainGroupEmail).at g ∧
      casefold address ∉ desiredForGroup statuses reread g mainGroupEmail) := by
  cases allowed with
  | groupExists answer => exact ⟨fun _ _ _ same => (nomatch same), fun _ _ _ same => (nomatch same)⟩
  | add a planned outcome =>
    refine ⟨fun group address outcome same => ?_, fun _ _ _ same => (nomatch same)⟩
    cases same
    obtain ⟨offered, kept⟩ := List.mem_filter.mp planned
    obtain ⟨item, absent⟩ := mem_missing.mp (mem_planGroup_adds.mp offered).1
    have desired : a.address ∈ (audiencesIn statuses db mainGroupEmail).at g :=
      Dict.mem_iff_item.mpr ⟨_, item⟩
    refine ⟨rfl, desired, ?_, absent⟩
    have folded : casefold a.address = a.address := casefold_at desired
    rw [← folded]
    exact of_decide_eq_true kept
  | remove address planned outcome =>
    refine ⟨fun _ _ _ same => (nomatch same), fun group address outcome same => ?_⟩
    cases same
    obtain ⟨offered, kept⟩ := List.mem_filter.mp planned
    obtain ⟨entry, member, plain, stranger, rfl⟩ :=
      mem_strangers.mp (planGroup_removes_subset offered)
    simp only [GroupMemberEntry.plain, Bool.and_eq_true, decide_eq_true_eq] at plain
    exact ⟨rfl, ⟨entry, member, rfl, plain⟩, stranger, of_decide_eq_true kept⟩

theorem turn_once {planOf : List GroupMemberEntry → GroupPlan} {turn : List (Entry σ)}
    (turned : GroupTurn mainGroupEmail statuses planOf g turn) (other : Email) :
    turn.countP (fun e => e.call.isList && e.call.group = some other) ≤ 1 := by
  have none : ∀ (plan : GroupPlan) (rest : List (Entry σ)), (∀ e ∈ rest, Allowed plan e.call) →
      rest.countP (fun e => e.call.isList && e.call.group = some other) = 0 :=
    fun plan rest allowed => List.countP_eq_zero.mpr fun e member => by
      simp [(allowed e member).isList]
  cases turned with
  | unlisted error world => exact List.countP_le_length
  | idle listing world rest noAdds noRemoves allowed =>
    rw [List.countP_cons, none _ rest allowed]
    split <;> omega
  | swept listing reread world later rest allowed count =>
    rw [List.countP_cons, List.countP_cons_of_neg (by simp [Call.isList]), none _ rest allowed]
    split <;> omega

theorem removesOf_le (g : Email) (calls : List (Entry σ)) :
    removesOf g calls ≤ calls.countP (·.call.isRemove) := by
  apply List.countP_mono_left
  intro e _ removes
  simp only [Bool.and_eq_true] at removes
  exact removes.1

/-- A group is written to only after both reads, and by the plan the second one leaves. -/
theorem GroupTurn.written {planOf : List GroupMemberEntry → GroupPlan} {turn : List (Entry σ)}
    (turned : GroupTurn mainGroupEmail statuses planOf g turn) {e : Entry σ} (member : e ∈ turn)
    (writes : (∃ group address outcome, e.call = .add group address outcome) ∨
      ∃ group address outcome, e.call = .remove group address outcome) :
    ∃ listing reread, ReadTwice turn g listing reread ∧
      Allowed (recheck (planOf listing) (desiredForGroup statuses reread g mainGroupEmail))
        e.call := by
  have unread : ∀ group answer, e.call ≠ .list group answer := by
    intro group answer call
    rw [call] at writes
    rcases writes with ⟨_, _, _, same⟩ | ⟨_, _, _, same⟩ <;> cases same
  have unpooled : ∀ reread, e.call ≠ .pool reread := by
    intro reread call
    rw [call] at writes
    rcases writes with ⟨_, _, _, same⟩ | ⟨_, _, _, same⟩ <;> cases same
  cases turned with
  | unlisted error world =>
    obtain rfl := List.mem_singleton.mp member
    exact absurd rfl (unread _ _)
  | idle listing world rest noAdds noRemoves allowed =>
    rcases List.mem_cons.mp member with rfl | member
    · exact absurd rfl (unread _ _)
    have here := allowed e member
    rcases writes with ⟨_, _, _, call⟩ | ⟨_, _, _, call⟩
    · rw [call] at here
      cases here with
      | add a planned => rw [noAdds] at planned; cases planned
    · rw [call] at here
      cases here with
      | remove _ planned => rw [noRemoves] at planned; cases planned
  | swept listing reread world later rest allowed count =>
    rcases List.mem_cons.mp member with rfl | member
    · exact absurd rfl (unread _ _)
    rcases List.mem_cons.mp member with rfl | member
    · exact absurd rfl (unpooled _)
    exact ⟨listing, reread, ⟨[], rest.map (·.call), rfl⟩, allowed e member⟩

theorem GroupTurn.fused {turn : List (Entry σ)}
    (turned : GroupTurn mainGroupEmail statuses (fun listing =>
      planGroup unmirrorable lapsedRefusals retrySlots g
      ((audiencesIn statuses db mainGroupEmail).at g) listing allowMassRemoval) g turn)
    (guarded : allowMassRemoval = false) {e : Entry σ} (member : e ∈ turn) {g' : Email}
    {listing' : List GroupMemberEntry}
    (call : e.call = .list g' (.ok listing')) :
    removesOf g' turn ≤ max 5 ((listing'.length + 9) / 10) ∧
      (max 5 ((listing'.length + 9) / 10) <
        (strangers ((audiencesIn statuses db mainGroupEmail).at g') listing').length →
          removesOf g' turn = 0) := by
  have unlisted : ∀ {plan : GroupPlan}, ¬Allowed plan e.call := by
    intro plan allowed
    have other := allowed.isList
    rw [call] at other
    cases other
  cases turned with
  | unlisted error world =>
    obtain rfl := List.mem_singleton.mp member
    cases call
  | idle listing world rest noAdds noRemoves allowed =>
    have none : rest.countP (·.call.isRemove) = 0 :=
      List.countP_eq_zero.mpr fun f later =>
        ne_true_of_eq_false ((allowed f later).noRemove noRemoves)
    have count := removesOf_le g' (⟨.list g (.ok listing), world⟩ :: rest)
    rw [List.countP_cons_of_neg Bool.false_ne_true, none] at count
    exact ⟨by omega, fun _ => by omega⟩
  | swept listing reread world later rest allowed count =>
    rcases List.mem_cons.mp member with rfl | member
    · obtain ⟨same, answer⟩ := Call.list.inj call
      obtain rfl := Except.ok.inj answer
      subst same
      have atMost := removesOf_le g (⟨.list g (.ok listing), world⟩ :: ⟨.pool reread,
        later⟩ :: rest)
      rw [List.countP_cons_of_neg Bool.false_ne_true,
        List.countP_cons_of_neg Bool.false_ne_true] at atMost
      obtain ⟨within, spared⟩ : _ ∧ (removalBudget listing.length < _ → _) :=
        planGroup_removes_within guarded
      have kept := count.trans (List.length_filter_le _ _)
      have fewer := atMost.trans kept
      refine ⟨fewer.trans within, fun exceeds => ?_⟩
      have none := spared exceeds
      omega
    rcases List.mem_cons.mp member with rfl | member
    · cases call
    · exact absurd (allowed e member) unlisted

theorem GroupTurn.bounded {turn : List (Entry σ)}
    (turned : GroupTurn mainGroupEmail statuses (fun listing =>
      planGroup unmirrorable lapsedRefusals retrySlots g
      ((audiencesIn statuses db mainGroupEmail).at g) listing allowMassRemoval) g turn) :
    Bounded statuses db mainGroupEmail allowMassRemoval turn where
  once := turn_once turned
  adds e member group address outcome call := by
    obtain ⟨listing, reread, twice, allowed⟩ :=
      turned.written member (Or.inl ⟨group, address, outcome, call⟩)
    obtain ⟨named, lawful⟩ := allowed.lawful.1 group address outcome call
    exact ⟨g, listing, reread, named, twice, lawful⟩
  removes e member group address outcome call := by
    obtain ⟨listing, reread, twice, allowed⟩ :=
      turned.written member (Or.inr ⟨group, address, outcome, call⟩)
    obtain ⟨named, lawful⟩ := allowed.lawful.2 group address outcome call
    exact ⟨g, listing, reread, named, twice, lawful⟩
  fuse guarded _ member _ _ call := turned.fused guarded member call

theorem bounded_step (ports : Ports σ) {s : RunState (Recorded σ)} {swept : List Email}
    {audience : Email × Audience}
    (whole : audience.2 = (audiencesIn statuses db mainGroupEmail).at audience.1)
    (fresh : audience.1 ∉ swept)
    (groups : ∀ e ∈ s.port.calls, ∀ g, e.call.group = some g → g ∈ swept)
    (bounded : Bounded statuses db mainGroupEmail allowMassRemoval s.port.calls) :
    (∀ e ∈ (sweepGroup ports.recorded mainGroupEmail statuses allowMassRemoval s
      audience).port.calls, ∀ g, e.call.group = some g → g ∈ swept ++ [audience.1]) ∧
      Bounded statuses db mainGroupEmail allowMassRemoval
        (sweepGroup ports.recorded mainGroupEmail statuses allowMassRemoval s
          audience).port.calls := by
  obtain ⟨turn, calls, turned⟩ :=
    sweepGroup_turn mainGroupEmail statuses allowMassRemoval ports s audience
  unfold RunState.plan at turned
  rw [whole] at turned
  have own : ∀ e ∈ turn, ∀ g, e.call.group = some g → g = audience.1 := turned.group (fun _ => rfl)
  have apart : Apart s.port.calls turn := by
    intro e earlier f later g named same
    exact fresh (own f later g same ▸ groups e earlier g named)
  rw [calls]
  refine ⟨fun e member g named => ?_, bounded.append turned.bounded apart⟩
  rcases List.mem_append.mp member with earlier | later
  · exact List.mem_append_left _ (groups e earlier g named)
  · exact List.mem_append_right _ (List.mem_singleton.mpr (own e later g named))

theorem bounded_run (ports : Ports σ) {audiences : List (Email × Audience)}
    {s : RunState (Recorded σ)} {swept : List Email}
    (whole : ∀ audience ∈ audiences,
      audience.2 = (audiencesIn statuses db mainGroupEmail).at audience.1)
    (distinct : (swept ++ audiences.map (·.1)).Nodup)
    (groups : ∀ e ∈ s.port.calls, ∀ g, e.call.group = some g → g ∈ swept)
    (bounded : Bounded statuses db mainGroupEmail allowMassRemoval s.port.calls) :
    Bounded statuses db mainGroupEmail allowMassRemoval
      (audiences.foldl (sweepGroup ports.recorded mainGroupEmail statuses allowMassRemoval)
        s).port.calls := by
  induction audiences generalizing s swept with
  | nil => exact bounded
  | cons audience audiences ih =>
    obtain ⟨here, rest⟩ := List.forall_mem_cons.mp whole
    rw [List.map_cons, List.append_cons] at distinct
    have fresh : audience.1 ∉ swept := fun member =>
      (List.nodup_append.mp (List.nodup_append.mp distinct).1).2.2 _ member
        _ (List.mem_singleton_self _) rfl
    obtain ⟨named, kept⟩ := bounded_step ports here fresh groups bounded
    exact ih rest distinct named kept

/-- Whatever the listings, the answers and the tables in between, a run keeps its bounds. -/
theorem sweep_bounded (ports : Ports σ) (statuses : EmailStatuses) (db : Database)
    (mainGroupEmail : Email) (allowMassRemoval : Bool) (world : σ) :
    Bounded statuses db mainGroupEmail allowMassRemoval
      (sweepAudiences ports.recorded mainGroupEmail statuses allowMassRemoval
        (audiencesIn statuses db mainGroupEmail) ⟨world, []⟩).port.calls := by
  have distinct : (([] : List Email) ++ (audiencesIn statuses db mainGroupEmail).sorted.map
      (·.1)).Nodup :=
    Dict.sorted_keys_nodup _
  exact bounded_run ports (fun _ member => (at_of_sorted member).symm) distinct
    (fun e member => (nomatch member)) bounded_nil

end

end Rosadmin
