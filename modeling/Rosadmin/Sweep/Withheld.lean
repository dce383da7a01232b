import Rosadmin.Sweep.Converged

/-!
# Whom a run withholds from a group

A run leaves an address out of a group it belongs in for one of three reasons: a
refusal of it was on record, Google refused it on the way, or its refusal had
lapsed and there was no slot to try it again. Each can be read off the statuses
the run began with and the calls it has made.
-/

namespace Rosadmin
open Foundation

/-- Why an address that a run wants in a group may be missing from it afterwards. -/
inductive Withheld {σ : Type} (statuses : EmailStatuses) (calls : List (Entry σ)) (g : Email)
    (key : Str) : Prop
  /-- A refusal was on record when the run began, and not due to be tried again. -/
  | live (standing : key ∈ statuses.live)
  /-- Google has refused it in this run, for this group or another. -/
  | refused (group a : Email) (refused : RefusedIn calls group a) (same : casefold a = casefold key)
  /-- Its refusal has lapsed, and the run found it missing from the group and left it so. -/
  | waiting (lapsed : key ∈ statuses.lapsed) (listing : List GroupMemberEntry) (e : Entry σ)
      (there : e ∈ calls) (listed : e.call = .list g (.ok listing))
      (missing : key ∉ present listing)
      (untried : ∀ e ∈ calls, ∀ outcome, e.call ≠ .add (some g) key outcome)

section
variable {σ : Type}

/-! ### What is refused on the way -/

/-- A refusal on record, or one of this run. -/
def KnownRefused (statuses : EmailStatuses) (calls : List (Entry σ)) (key : Str) : Prop :=
  key ∈ statuses.live ∨ ∃ group a, RefusedIn calls group a ∧ casefold a = key

theorem KnownRefused.mono {statuses : EmailStatuses} {calls more : List (Entry σ)} {key : Str}
    (known : KnownRefused statuses calls key) (grows : calls <+: more) :
    KnownRefused statuses more key :=
  known.imp_right fun ⟨group, a, refused, same⟩ => ⟨group, a, refused.mono grows.subset, same⟩

/-- Everything the run leaves out as refused has been refused. -/
def AllRefused (statuses : EmailStatuses) (unmirrorable : List Str) (r : Recorded σ) : Prop :=
  ∀ key ∈ unmirrorable, KnownRefused statuses r.calls key

theorem AllRefused.onto {statuses : EmailStatuses} {unmirrorable : List Str} {r t : Recorded σ}
    (known : AllRefused statuses unmirrorable r) (grows : r.calls <+: t.calls) :
    AllRefused statuses unmirrorable t :=
  fun key member => (known key member).mono grows

theorem growing_frame (ports : Ports σ) (plan : GroupPlan) :
    PlanFrame ports.recorded plan (fun r t => r.calls <+: t.calls) where
  refl _ := List.prefix_refl _
  trans first second := first.trans second
  add _ _ _ := List.prefix_append _ _
  groupExists _ := List.prefix_append _ _
  audit _ _ := List.prefix_refl _
  remove _ _ _ := List.prefix_append _ _

def AddLoop.Refused (statuses : EmailStatuses) (l : AddLoop (Recorded σ)) : Prop :=
  AllRefused statuses l.unmirrorable l.port

section
variable {ports : Ports σ} {plan : GroupPlan} {statuses : EmailStatuses}
    {l u : AddLoop (Recorded σ)} {a : PlannedAdd}

theorem refusedIn_of_answer {r t : Recorded σ} {outcome : SyncOutcome}
    (answer : ports.recorded.sync.add (some plan.groupEmail) a.address r = (outcome, t))
    (refused : outcome.unmirrorable = true) : RefusedIn t.calls plan.groupEmail a.address := by
  obtain ⟨same, rfl⟩ := Prod.mk.inj answer
  exact ⟨_, List.mem_append_right _ (List.mem_singleton_self _), outcome, refused, by rw [← same]⟩

theorem settleAdd_refused (ports : Ports σ) {outcome : SyncOutcome} (known : l.Refused statuses)
    (refused : outcome.unmirrorable = true → RefusedIn l.port.calls plan.groupEmail a.address) :
    (settleAdd ports.recorded plan a outcome l).Refused statuses := by
  have grows := (growing_frame ports plan).settles a outcome l
  intro key member
  rw [settleAdd_unmirrorable] at member
  split at member
  · rename_i now
    rcases List.mem_insert_iff.mp member with rfl | before
    · exact Or.inr ⟨_, _, (refused now).mono grows.subset, rfl⟩
    · exact (known key before).mono grows
  · exact (known key member).mono grows

theorem turn_refused {result : Except (AddLoop (Recorded σ)) (AddLoop (Recorded σ))}
    (turn : AddTurn ports.recorded plan l a result) (planned : a ∈ plan.adds)
    (known : l.Refused statuses) : (ending result).Refused statuses := by
  have grows := (growing_frame ports plan).toAddFrame.turn planned turn
  have added := (growing_frame ports plan).add a planned l.port
  cases turn with
  | settled outcome port answer readable =>
    rw [answer] at added
    exact settleAdd_refused ports (known.onto added) (refusedIn_of_answer answer)
  | vouched port heard answer asks =>
    have asked := (growing_frame ports plan).asks l.presence port
    rw [answer] at added
    rw [asks] at asked
    have later : ({ l with presence := some .present, port := heard } : AddLoop _).Refused
      statuses :=
      known.onto (added.trans asked)
    exact settleAdd_refused ports later fun refused =>
      (refusedIn_of_answer answer refused).mono asked.subset
  | unread port heard answer asks => exact known.onto grows
  | gone port heard answer asks => exact known.onto grows

theorem adds_refused {adds : List PlannedAdd} (planned : ∀ a ∈ adds, a ∈ plan.adds)
    (known : l.Refused statuses) (run : applyAdds ports.recorded plan adds l = .ok u) :
    u.Refused statuses := by
  have each : ∀ a ∈ adds, ∀ s t : AddLoop (Recorded σ), s.Refused statuses →
      applyAdd ports.recorded plan s a = .ok t → t.Refused statuses := by
    intro a listed s t before turned
    have turn := turn_refused (applyAdd_turn ports.recorded plan s a) (planned a listed) before
    rw [turned] at turn
    exact turn
  exact foldlM_keeps each known run

theorem addsRun_refused {result : Except (AddLoop (Recorded σ)) (AddLoop (Recorded σ))}
    (run : AddsRun ports.recorded plan l result) (known : l.Refused statuses) :
    (ending result).Refused statuses := by
  cases run with
  | left done rest a u e whole before turned =>
    have planned : ∀ b ∈ done ++ a :: rest, b ∈ plan.adds := fun b member => whole ▸ member
    have through := adds_refused (fun b member => planned b (List.mem_append_left _ member))
      known before
    have turn := turn_refused (applyAdd_turn ports.recorded plan u a) (planned a (by simp)) through
    rw [turned] at turn
    exact turn
  | through u result run closing =>
    have through := adds_refused (fun _ member => member) known run
    have asked := (growing_frame ports plan).groupExists u.port
    cases closing with
    | unasked none => exact through
    | confirmed port doubted answer =>
      simp only [presenceOf, Prod.mk.injEq] at answer
      exact through.onto (answer.2 ▸ asked)
    | denied presence port doubted answer absent =>
      simp only [presenceOf, Prod.mk.injEq] at answer
      exact through.onto (answer.2 ▸ asked)

/-- An application withholds nothing that has not been refused. -/
theorem apply_withholds {unmirrorable : List Str} (refusals : List Refusal) (accepted : List Email)
    {r : Recorded σ} (known : AllRefused statuses unmirrorable r) :
    AllRefused statuses (apply ports.recorded plan unmirrorable refusals accepted r).unmirrorable
      (apply ports.recorded plan unmirrorable refusals accepted r).port := by
  have start : (loopStart unmirrorable accepted r).Refused statuses := known
  have ended := addsRun_refused (adds_run ports.recorded plan (loopStart unmirrorable accepted r))
    start
  unfold apply
  generalize applyAdds ports.recorded plan plan.adds (loopStart unmirrorable accepted r) >>=
    confirmAdds ports.recorded plan = result at ended ⊢
  cases result with
  | error l => exact ended
  | ok l => exact ended.onto ((growing_frame ports plan).applyRemoves l.tally l.port)

end

/-! ### What a plan leaves out -/

theorem planAddress_perm (unmirrorable lapsedRefusals : List Str) (retrySlots : Nat)
    (todo : List PlannedAdd) (plan : AddPlan) :
    ((todo.foldl (planAddress unmirrorable lapsedRefusals retrySlots) plan).adds ++
      (todo.foldl (planAddress unmirrorable lapsedRefusals retrySlots) plan).excluded).Perm
      (plan.adds ++ plan.excluded ++ todo) := by
  induction todo generalizing plan with
  | nil => simp
  | cons a todo ih =>
    have added : ∀ {adds excluded : List PlannedAdd},
        (adds ++ [a] ++ excluded ++ todo).Perm (adds ++ excluded ++ a :: todo) := by
      intro adds excluded
      simp only [List.append_assoc, List.singleton_append]
      exact List.Perm.append_left _ List.perm_middle.symm
    have excluded : ∀ {adds excluded : List PlannedAdd},
        (adds ++ (excluded ++ [a]) ++ todo).Perm (adds ++ excluded ++ a :: todo) := by
      intro adds excluded
      simp only [List.append_assoc, List.singleton_append]
      exact List.Perm.refl _
    refine (ih (planAddress unmirrorable lapsedRefusals retrySlots plan a)).trans ?_
    unfold planAddress
    split
    · exact excluded
    split
    · exact added
    split
    · exact added
    · exact excluded

section
variable {unmirrorable lapsedRefusals : List Str} {retrySlots : Nat}

/-- A plan leaves out what is withheld now, or was refused and has lapsed. -/
theorem planned_excluded {todo : List PlannedAdd} {plan : AddPlan} {a : PlannedAdd}
    (left : a ∈ (todo.foldl (planAddress unmirrorable lapsedRefusals retrySlots) plan).excluded) :
    a ∈ plan.excluded ∨ a.address ∈ unmirrorable ∨ a.address ∈ lapsedRefusals := by
  induction todo generalizing plan with
  | nil => exact Or.inl left
  | cons b todo ih =>
    rcases ih left with before | withheld
    · unfold planAddress at before
      split at before
      · rename_i here
        rcases List.mem_append.mp before with old | new
        · exact Or.inl old
        · obtain rfl := List.mem_singleton.mp new
          exact Or.inr (Or.inl here)
      split at before
      · exact Or.inl before
      rename_i lapsed
      split at before
      · exact Or.inl before
      · rcases List.mem_append.mp before with old | new
        · exact Or.inl old
        · obtain rfl := List.mem_singleton.mp new
          exact Or.inr (Or.inr (not_not.mp lapsed))
    · exact Or.inr withheld

variable {g : Email} {desired : Audience} {listing : List GroupMemberEntry}
    {allowMassRemoval : Bool} {a : PlannedAdd}

/-- What the plan of a group leaves out is missing there, and not among its adds. -/
theorem planGroup_excluded (left : a ∈ (planGroup unmirrorable lapsedRefusals retrySlots g desired
      listing allowMassRemoval).excluded) :
    (a.address ∈ unmirrorable ∨ a.address ∈ lapsedRefusals) ∧ a.address ∉ present listing ∧
      ∀ b ∈ (planGroup unmirrorable lapsedRefusals retrySlots g desired listing
        allowMassRemoval).adds, b.address ≠ a.address := by
  have perm := planAddress_perm unmirrorable lapsedRefusals retrySlots (missing desired listing) {}
  have lacking : a ∈ missing desired listing := perm.subset (List.mem_append_right _ left)
  refine ⟨(planned_excluded left).resolve_left List.not_mem_nil, (mem_missing.mp lacking).2, ?_⟩
  have apart : ((missing desired listing).map (·.address)).Nodup :=
    List.pairwise_map.mpr ((missing_ordered desired listing).imp fun before => ne_of_lt before)
  have sides := (perm.map (·.address)).nodup_iff.mpr (by simpa using apart)
  rw [List.map_append, List.nodup_append] at sides
  intro b added
  exact sides.2.2 _ (List.mem_map_of_mem added) _ (List.mem_map_of_mem left)

end

/-! ### A whole run -/

section
variable (ports : Ports σ) (mainGroupEmail : Email) (statuses : EmailStatuses)
    (allowMassRemoval : Bool)

/-- All that the run leaves out of its plans was on record, or has been refused since. -/
structure OnlyRefused (statuses : EmailStatuses) (s : RunState (Recorded σ)) : Prop where
  unmirrorable : AllRefused statuses s.unmirrorable s.port
  lapsed : s.lapsedRefusals ⊆ statuses.lapsed

theorem rechecked_grows (plan : GroupPlan) (r : Recorded σ) :
    r.calls <+: (rechecked ports.recorded mainGroupEmail statuses plan r).2.calls := by
  unfold rechecked
  split
  · exact List.prefix_append _ _
  · exact List.prefix_refl _

variable {statuses} in
theorem onlyRefused_step (s : RunState (Recorded σ)) (audience : Email × Audience)
    (only : OnlyRefused statuses s) : OnlyRefused statuses
      (sweepGroup ports.recorded mainGroupEmail statuses allowMassRemoval s audience) := by
  have listed : s.port.calls <+: (ports.recorded.lister.list audience.1 s.port).2.calls :=
    List.prefix_append _ _
  unfold sweepGroup
  generalize ports.recorded.lister.list audience.1 s.port = answer at listed ⊢
  obtain ⟨listing, port⟩ := answer
  cases listing with
  | error error => exact ⟨only.unmirrorable.onto listed, only.lapsed⟩
  | ok actual =>
    refine ⟨apply_withholds _ _ ?_, fun key kept => only.lapsed (List.mem_of_mem_filter kept)⟩
    exact (only.unmirrorable.onto listed).onto
      (rechecked_grows ports mainGroupEmail statuses _ port)

theorem onlyRefused_run (world : σ) (groups : List (Email × Audience)) : OnlyRefused statuses
    (groups.foldl (sweepGroup ports.recorded mainGroupEmail statuses allowMassRemoval)
      (.start statuses ⟨world, []⟩)) := by
  have start : OnlyRefused statuses (RunState.start statuses (⟨world, []⟩ : Recorded σ)) :=
    ⟨fun _ live => Or.inl live, List.Subset.refl _⟩
  exact invariant_of_forall (onlyRefused_step ports mainGroupEmail allowMassRemoval) start groups

/-- The calls of a run are about the groups it has swept. -/
theorem run_calls (s : RunState (Recorded σ)) (groups : List (Email × Audience)) :
    ∃ more, (groups.foldl (sweepGroup ports.recorded mainGroupEmail statuses allowMassRemoval)
        s).port.calls = s.port.calls ++ more ∧
      ∀ e ∈ more, ∀ g, e.call.group = some g → g ∈ groups.map (·.1) := by
  induction groups generalizing s with
  | nil => exact ⟨[], (List.append_nil _).symm, fun _ member => nomatch member⟩
  | cons audience groups ih =>
    obtain ⟨turn, calls, turned⟩ :=
      sweepGroup_turn mainGroupEmail statuses allowMassRemoval ports s audience
    obtain ⟨more, later, about⟩ :=
      ih (sweepGroup ports.recorded mainGroupEmail statuses allowMassRemoval s audience)
    have own : ∀ e ∈ turn, ∀ g, e.call.group = some g → g = audience.1 := turned.group fun _ => rfl
    refine ⟨turn ++ more, by rw [List.foldl_cons, later, calls, List.append_assoc], ?_⟩
    intro e member g named
    rcases List.mem_append.mp member with here | there
    · exact List.mem_cons.mpr (Or.inl (own e here g named))
    · exact List.mem_cons_of_mem _ (about e there g named)

variable {ports mainGroupEmail statuses allowMassRemoval}

theorem turn_listed {s : RunState (Recorded σ)} {audience : Email × Audience} {port : Recorded σ}
    {listing : List GroupMemberEntry} {turn : List (Entry σ)}
    (lists : ports.recorded.lister.list audience.1 s.port = (.ok listing, port))
    (calls : (sweepGroup ports.recorded mainGroupEmail statuses allowMassRemoval s
      audience).port.calls = s.port.calls ++ turn) :
    ∃ rest, turn = ⟨.list audience.1 (.ok listing), s.port.world⟩ :: rest := by
  have asked : s.port.calls ++ [⟨.list audience.1 (.ok listing), s.port.world⟩] = port.calls := by
    obtain ⟨answer, rfl⟩ := Prod.mk.inj lists
    rw [← answer]
  have grows : port.calls <+:
      (sweepGroup ports.recorded mainGroupEmail statuses allowMassRemoval s
        audience).port.calls := by
    unfold sweepGroup
    rw [lists]
    exact (rechecked_grows ports mainGroupEmail statuses _ port).trans
      ((growing_frame ports _).apply _ _ _ _)
  rw [calls, ← asked, List.prefix_append_right_inj] at grows
  obtain ⟨rest, rfl⟩ := grows
  exact ⟨rest, rfl⟩

theorem Allowed.planned {plan : GroupPlan} {call : Call} {group : Option Email} {address : Email}
    {outcome : SyncOutcome} (allowed : Allowed plan call)
    (added : call = .add group address outcome) :
    ∃ a ∈ plan.adds, a.address = address := by
  cases allowed with
  | groupExists answer => cases added
  | add a planned outcome =>
    cases added
    exact ⟨a, planned, rfl⟩
  | remove address planned outcome => cases added

/-- What the plan of a group leaves out, the turn of the group does not try. -/
theorem turn_untried {planOf : List GroupMemberEntry → GroupPlan} {g key : Str} {world : σ}
    {listing : List GroupMemberEntry} {rest : List (Entry σ)}
    (turned : GroupTurn mainGroupEmail statuses planOf g (⟨.list g (.ok listing), world⟩ :: rest))
    (apart : ∀ b ∈ (planOf listing).adds, b.address ≠ key) :
    ∀ e ∈ rest, ∀ outcome, e.call ≠ .add (some g) key outcome := by
  intro e member outcome call
  cases turned with
  | idle listing world rest noAdds noRemoves allowed =>
    obtain ⟨b, planned, same⟩ := (allowed e member).planned call
    exact apart b planned same
  | swept listing reread world later rest allowed count =>
    rcases List.mem_cons.mp member with rfl | member
    · cases call
    · obtain ⟨b, planned, same⟩ := (allowed e member).planned call
      exact apart b (List.mem_of_mem_filter planned) same

/-- Whatever a plan of the run leaves out is withheld. -/
theorem withheld_of_excluded {audiences : Audiences} {world : σ} {g : Email} {key : Str}
    (left : ExcludedIn ports.recorded mainGroupEmail statuses allowMassRemoval audiences
      (.start statuses ⟨world, []⟩) g key) :
    Withheld statuses (sweepAudiences ports.recorded mainGroupEmail statuses
      allowMassRemoval audiences ⟨world, []⟩).port.calls g key := by
  obtain ⟨pre, desired, post, listing, port, split, lists, member⟩ := left
  obtain ⟨a, left, rfl⟩ := List.mem_map.mp member
  obtain ⟨ahead, before, aboutPre⟩ :=
    run_calls ports mainGroupEmail statuses allowMassRemoval (.start statuses ⟨world, []⟩) pre
  have only := onlyRefused_run ports mainGroupEmail statuses allowMassRemoval world pre
  have whole : (sweepAudiences ports.recorded mainGroupEmail statuses allowMassRemoval audiences
      ⟨world, []⟩).port.calls = (post.foldl (sweepGroup ports.recorded mainGroupEmail statuses
        allowMassRemoval) (sweepGroup ports.recorded mainGroupEmail statuses allowMassRemoval
          (pre.foldl (sweepGroup ports.recorded mainGroupEmail statuses allowMassRemoval)
            (.start statuses ⟨world, []⟩)) (g, desired))).port.calls := by
    rw [sweepAudiences, split, List.foldl_append, List.foldl_cons]
  generalize pre.foldl (sweepGroup ports.recorded mainGroupEmail statuses allowMassRemoval)
    (.start statuses ⟨world, []⟩) = s at *
  obtain ⟨turn, calls, turned⟩ :=
    sweepGroup_turn mainGroupEmail statuses allowMassRemoval ports s (g, desired)
  obtain ⟨behind, after, aboutPost⟩ := run_calls ports mainGroupEmail statuses allowMassRemoval
    (sweepGroup ports.recorded mainGroupEmail statuses allowMassRemoval s (g, desired)) post
  obtain ⟨rest, rfl⟩ := turn_listed lists calls
  obtain ⟨reason, missing, apart⟩ := planGroup_excluded left
  have distinct := Dict.sorted_keys_nodup audiences
  rw [split, List.map_append, List.map_cons] at distinct
  obtain ⟨-, later, sooner⟩ := List.nodup_append.mp distinct
  rw [whole, after, calls, before]
  rcases reason with refused | lapsed
  · rcases only.unmirrorable a.address refused with live | ⟨group, address, refused, same⟩
    · exact .live live
    · refine .refused group address (refused.mono ?_) (by rw [← same, casefold_casefold])
      rw [before, List.append_assoc]
      exact List.subset_append_left _ _
  · refine .waiting (only.lapsed lapsed) listing ⟨.list g (.ok listing), s.port.world⟩ (by simp) rfl
      missing ?_
    intro e there outcome call
    have named : e.call.group = some g := by
      rw [call]
      rfl
    rcases List.mem_append.mp there with there | there
    · rcases List.mem_append.mp there with there | there
      · exact sooner _ (aboutPre e there g named) g List.mem_cons_self rfl
      · rcases List.mem_cons.mp there with rfl | there
        · cases call
        · exact turn_untried turned apart e there outcome call
    · exact (List.nodup_cons.mp later).1 (aboutPost e there g named)

end

end

end Rosadmin
