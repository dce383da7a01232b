import Rosadmin.Sweep.Plan

/-!
# The plan as a diff

What one plan says of every desired address and of every stranger, and that a
listing brought to the plan has nothing left to do.
-/

namespace Rosadmin
open Foundation

def addresses (planned : List PlannedAdd) : List Email := planned.map (·.address)

@[simp] theorem mem_addresses {planned : List PlannedAdd} {x : Email} :
    x ∈ addresses planned ↔ ∃ a ∈ planned, a.address = x := List.mem_map

section
variable {unmirrorable lapsedRefusals : List Str} {retrySlots : Nat}

/-! ### Every missing address is placed once -/

/-- A pass adds each address it is given or leaves it out, never both. -/
theorem foldl_placed (todo : List PlannedAdd) (plan : AddPlan) :
    ((todo.foldl (planAddress unmirrorable lapsedRefusals retrySlots) plan).adds ++
      (todo.foldl (planAddress unmirrorable lapsedRefusals retrySlots) plan).excluded).Perm
      (plan.adds ++ plan.excluded ++ todo) := by
  induction todo generalizing plan with
  | nil => rw [List.append_nil]; exact List.Perm.refl _
  | cons b todo ih =>
    have added : (plan.adds ++ [b] ++ plan.excluded ++ todo).Perm
        (plan.adds ++ plan.excluded ++ b :: todo) := by
      simp only [List.append_assoc, List.singleton_append]
      exact (List.perm_middle.symm.append_left plan.adds)
    have left : (plan.adds ++ (plan.excluded ++ [b]) ++ todo).Perm
        (plan.adds ++ plan.excluded ++ b :: todo) := by
      simp only [List.append_assoc, List.singleton_append]
      exact List.Perm.refl _
    rw [List.foldl_cons]
    refine (ih _).trans ?_
    unfold planAddress
    split
    · exact left
    split
    · exact added
    split
    · exact added
    · exact left

section
variable {groupEmail : Email} {desired : Audience} {actual : List GroupMemberEntry}
    {allowMassRemoval : Bool}

theorem planGroup_perm :
    ((planGroup unmirrorable lapsedRefusals retrySlots groupEmail desired actual
      allowMassRemoval).adds ++
      (planGroup unmirrorable lapsedRefusals retrySlots groupEmail desired actual
        allowMassRemoval).excluded).Perm
      (missing desired actual) :=
  foldl_placed (missing desired actual) {}

theorem planGroup_addresses_nodup :
    (addresses (planGroup unmirrorable lapsedRefusals retrySlots groupEmail desired actual
      allowMassRemoval).adds ++
      addresses (planGroup unmirrorable lapsedRefusals retrySlots groupEmail desired actual
        allowMassRemoval).excluded).Nodup := by
  have distinct : ((missing desired actual).map (·.address)).Nodup :=
    List.pairwise_map.mpr ((missing_ordered desired actual).imp (fun before => ne_of_lt before))
  rw [addresses, addresses, ← List.map_append]
  exact ((planGroup_perm.map _).nodup_iff).mpr distinct

theorem mem_planGroup_either {a : PlannedAdd} :
    (a ∈ (planGroup unmirrorable lapsedRefusals retrySlots groupEmail desired actual
      allowMassRemoval).adds ∨
      a ∈ (planGroup unmirrorable lapsedRefusals retrySlots groupEmail desired actual
        allowMassRemoval).excluded) ↔
      (a.address, a.memberId) ∈ desired.items ∧ a.address ∉ present actual := by
  rw [← List.mem_append, planGroup_perm.mem_iff, mem_missing]

end

/-! ### With no refusal lapsed, a pass is one filter -/

theorem foldl_none_lapsed (todo : List PlannedAdd) (plan : AddPlan) :
    (todo.foldl (planAddress unmirrorable [] retrySlots) plan).adds =
        plan.adds ++ todo.filter (·.address ∉ unmirrorable) ∧
      (todo.foldl (planAddress unmirrorable [] retrySlots) plan).excluded =
        plan.excluded ++ todo.filter (·.address ∈ unmirrorable) := by
  induction todo generalizing plan with
  | nil => simp
  | cons b todo ih =>
    rw [List.foldl_cons, (ih _).1, (ih _).2]
    unfold planAddress
    by_cases live : b.address ∈ unmirrorable
    · simp [live]
    · simp [live]

end

/-! ### The listing the plan asks for -/

/-- The listing with the removed entries gone and each added address a plain member, whatever status
Google gives it. -/
def carriedOut (plan : GroupPlan) (actual : List GroupMemberEntry)
    (status : PlannedAdd → Option Str) : List GroupMemberEntry :=
  actual.filter (fun entry => !(entry.plain && entry.email ∈ plan.removes)) ++
    plan.adds.map (fun a => ⟨a.address, .member, status a, some (str "USER")⟩)

section
variable {unmirrorable : List Str} {retrySlots : Nat} {groupEmail : Email} {desired : Audience}
  {actual : List GroupMemberEntry} {allowMassRemoval : Bool}

/-- Nothing but the strangers goes, so what is present of the desired addresses is what was, and the
adds. -/
theorem present_carriedOut (status : PlannedAdd → Option Str) {plan : GroupPlan}
    (removes : plan.removes = strangers desired actual) {key : Str} (wanted : key ∈ desired) :
    key ∈ present (carriedOut plan actual status) ↔
      key ∈ present actual ∨ ∃ a ∈ plan.adds, casefold a.address = key := by
  unfold present carriedOut
  rw [List.map_append, List.mem_append, List.map_map]
  constructor
  · rintro (kept | added)
    · obtain ⟨entry, member, rfl⟩ := List.mem_map.mp kept
      exact Or.inl (List.mem_map_of_mem (List.mem_of_mem_filter member))
    · obtain ⟨a, member, rfl⟩ := List.mem_map.mp added
      exact Or.inr ⟨a, member, rfl⟩
  · rintro (before | ⟨a, member, rfl⟩)
    · obtain ⟨entry, member, rfl⟩ := List.mem_map.mp before
      refine Or.inl (List.mem_map_of_mem (List.mem_filter.mpr ⟨member, ?_⟩))
      have stays : entry.email ∉ strangers desired actual := by
        intro gone
        obtain ⟨other, -, -, foreign, same⟩ := mem_strangers.mp gone
        exact foreign (same ▸ wanted)
      rw [removes]
      simp [stays]
    · exact Or.inr (List.mem_map.mpr ⟨a, member, rfl⟩)

theorem strangers_carriedOut (status : PlannedAdd → Option Str) {plan : GroupPlan}
    (removes : plan.removes = strangers desired actual)
    (added : ∀ a ∈ plan.adds, casefold a.address ∈ desired) :
    strangers desired (carriedOut plan actual status) = [] := by
  refine List.eq_nil_iff_forall_not_mem.mpr fun address left => ?_
  obtain ⟨entry, member, plain, foreign, rfl⟩ := mem_strangers.mp left
  rcases List.mem_append.mp member with kept | appended
  · obtain ⟨old, stays⟩ := List.mem_filter.mp kept
    have gone : entry.email ∈ plan.removes :=
      removes ▸ mem_strangers.mpr ⟨entry, old, plain, foreign, rfl⟩
    simp [plain, gone] at stays
  · obtain ⟨a, planned, rfl⟩ := List.mem_map.mp appended
    exact foreign (added a planned)

theorem planGroup_unlapsed (actual : List GroupMemberEntry) :
    let plan := planGroup unmirrorable [] retrySlots groupEmail desired actual allowMassRemoval
    plan.adds = (missing desired actual).filter (·.address ∉ unmirrorable) ∧
      plan.excluded = (missing desired actual).filter (·.address ∈ unmirrorable) :=
  foldl_none_lapsed (missing desired actual) {}

theorem missing_carriedOut (status : PlannedAdd → Option Str) {plan : GroupPlan}
    (folded : ∀ key ∈ desired, casefold key = key)
    (removes : plan.removes = strangers desired actual)
    (adds : plan.adds = (missing desired actual).filter (·.address ∉ unmirrorable)) :
    missing desired (carriedOut plan actual status) = (missing desired actual).filter
      (·.address ∈ unmirrorable) := by
  unfold missing
  rw [List.filter_map, List.filter_filter]
  refine congrArg _ (List.filter_congr fun e member => ?_)
  have item := Dict.mem_sorted.mp member
  have wanted : e.1 ∈ desired := Dict.mem_iff_item.mpr ⟨e.2, item⟩
  have landed : (∃ a ∈ plan.adds, casefold a.address = e.1) ↔
      e.1 ∉ present actual ∧ e.1 ∉ unmirrorable := by
    rw [adds]
    constructor
    · rintro ⟨a, added, same⟩
      obtain ⟨lacking, open_⟩ := List.mem_filter.mp added
      obtain ⟨listed, absent⟩ := mem_missing.mp lacking
      have address : a.address = e.1 :=
        (folded _ (Dict.mem_iff_item.mpr ⟨_, listed⟩)).symm.trans same
      exact address ▸ ⟨absent, of_decide_eq_true open_⟩
    · rintro ⟨absent, open_⟩
      refine ⟨⟨e.1, e.2⟩, List.mem_filter.mpr ⟨?_, decide_eq_true open_⟩, folded _ wanted⟩
      exact mem_missing.mpr ⟨item, absent⟩
  have here := present_carriedOut status removes wanted
  rw [landed] at here
  by_cases before : e.1 ∈ present actual <;> by_cases live : e.1 ∈ unmirrorable <;>
    simp [here, before, live]

/-- A listing the plan was carried out on leaves the next plan the same exclusions and nothing
else. -/
theorem planGroup_carriedOut (status : PlannedAdd → Option Str)
    (folded : ∀ key ∈ desired, casefold key = key)
    (fused : (planGroup unmirrorable [] retrySlots groupEmail desired actual
      allowMassRemoval).refusedRemoves = 0) :
    let plan := planGroup unmirrorable [] retrySlots groupEmail desired actual allowMassRemoval
    let next := planGroup unmirrorable [] retrySlots groupEmail desired
      (carriedOut plan actual status) allowMassRemoval
    next.adds = [] ∧ next.removes = [] ∧ next.excluded = plan.excluded ∧
      next.refusedRemoves = 0 := by
  intro plan next
  have removes : plan.removes = strangers desired actual := planGroup_removes_whole fused
  obtain ⟨adds, excluded⟩ : _ ∧ _ :=
    @planGroup_unlapsed unmirrorable retrySlots groupEmail desired allowMassRemoval actual
  obtain ⟨nextAdds, nextExcluded⟩ : _ ∧ _ :=
    @planGroup_unlapsed unmirrorable retrySlots groupEmail desired allowMassRemoval
      (carriedOut plan actual status)
  have still := missing_carriedOut status folded removes adds
  have idle : strangers desired (carriedOut plan actual status) = [] := by
    refine strangers_carriedOut status removes fun a added => ?_
    have wanted : a.address ∈ desired :=
      Dict.mem_iff_item.mpr ⟨_, (mem_planGroup_either.mp (Or.inl added)).1⟩
    rw [folded _ wanted]
    exact wanted
  have trips : fuseTrips allowMassRemoval desired (carriedOut plan actual status) = false :=
    by simp [fuseTrips, idle]
  refine ⟨?_, ?_, ?_, ?_⟩
  · rw [nextAdds, still, List.filter_filter]
    exact List.filter_eq_nil_iff.mpr fun a _ => by simp
  · exact (if_neg (by simp [trips])).trans idle
  · rw [nextExcluded, excluded, still, List.filter_filter]
    simp only [Bool.and_self]
  · exact if_neg (by simp [trips])

end

/-! ### Sound and complete -/

section
variable (unmirrorable lapsedRefusals : List Str) (retrySlots : Nat) (groupEmail : Email)
    (desired : Audience) (actual : List GroupMemberEntry) (allowMassRemoval : Bool)

/-- The address is wanted and missing, and nothing but a lapsed refusal is against it. -/
def RetryCandidate (x : Str) : Prop :=
  x ∈ desired ∧ x ∉ present actual ∧ x ∈ lapsedRefusals ∧ x ∉ unmirrorable

/-- What one plan says of the addresses, the retries and the strangers it was given. -/
structure SoundDiff (plan : GroupPlan) : Prop where
  placed : ∀ x ∈ desired, x ∈ present actual ∨ x ∈ addresses plan.adds ∨ x ∈ addresses plan.excluded
  once : (addresses plan.adds ++ addresses plan.excluded).Nodup
  wanted : ∀ a, a ∈ plan.adds ∨ a ∈ plan.excluded →
    (a.address, a.memberId) ∈ desired.items ∧ a.address ∉ present actual
  open_ : ∀ a ∈ plan.adds, a.address ∉ unmirrorable
  retried : ∀ x, x ∈ plan.retried ↔ x ∈ addresses plan.adds ∧ x ∈ lapsedRefusals
  slots : plan.retried.length ≤ retrySlots
  ordered : plan.retried.Pairwise (· < ·)
  first : ∀ x ∈ plan.retried, ∀ y, RetryCandidate unmirrorable lapsedRefusals desired actual y →
    y ∉ plan.retried → x < y
  spent : (∃ x ∈ addresses plan.excluded, x ∈ lapsedRefusals ∧ x ∉ unmirrorable) →
    plan.retried.length = retrySlots
  removed : (strangers desired actual).length ≤ max 5 ((actual.length + 9) / 10) ∨
    allowMassRemoval = true → plan.removes = strangers desired actual ∧ plan.refusedRemoves = 0
  refused : max 5 ((actual.length + 9) / 10) < (strangers desired actual).length →
    allowMassRemoval = false →
    plan.removes = [] ∧ plan.refusedRemoves = (strangers desired actual).length
  settled : plan.refusedRemoves = 0 → lapsedRefusals = [] → ∀ status : PlannedAdd → Option Str,
    let next := planGroup unmirrorable lapsedRefusals retrySlots groupEmail desired
      (carriedOut plan actual status)
      allowMassRemoval
    next.adds = [] ∧ next.removes = [] ∧ next.excluded = plan.excluded

end

section
variable {unmirrorable lapsedRefusals : List Str} {retrySlots : Nat} {groupEmail : Email}
    {desired : Audience} {actual : List GroupMemberEntry} {allowMassRemoval : Bool}

theorem mem_planGroup_retried {x : Str} :
    x ∈ (planGroup unmirrorable lapsedRefusals retrySlots groupEmail desired actual
      allowMassRemoval).retried ↔ x ∈ addresses
          (planGroup unmirrorable lapsedRefusals retrySlots groupEmail desired actual
            allowMassRemoval).adds ∧
        x ∈ lapsedRefusals := by
  constructor
  · intro retried
    exact ⟨mem_addresses.mpr (planGroup_added_of_retried retried), planGroup_retried_lapsed retried⟩
  · rintro ⟨added, lapsed⟩
    obtain ⟨a, member, rfl⟩ := mem_addresses.mp added
    exact planGroup_retried_of_lapsed member lapsed

/-- The retries come first among the candidates. -/
theorem planGroup_retried_first {x y : Str}
    (retried : x ∈
      (planGroup unmirrorable lapsedRefusals retrySlots groupEmail desired actual
        allowMassRemoval).retried)
    (candidate : RetryCandidate unmirrorable lapsedRefusals desired actual y)
    (left : y ∉
      (planGroup unmirrorable lapsedRefusals retrySlots groupEmail desired actual
        allowMassRemoval).retried) :
    x < y := by
  obtain ⟨wanted, absent, lapsed, open_⟩ := candidate
  obtain ⟨id, item⟩ := Dict.mem_iff_item.mp wanted
  rw [planGroup_retried] at retried left
  have ordered : (((missing desired actual).filter (retryable unmirrorable lapsedRefusals)).map
      (·.address)).Pairwise (· < ·) :=
    List.pairwise_map.mpr ((missing_ordered desired actual).filter _)
  have member : y ∈ ((missing desired actual).filter (retryable unmirrorable lapsedRefusals)).map
      (·.address) := by
    refine List.mem_map.mpr ⟨⟨y, id⟩, List.mem_filter.mpr ⟨mem_missing.mpr ⟨item, absent⟩, ?_⟩, rfl⟩
    simp [retryable, open_, lapsed]
  generalize ((missing desired actual).filter (retryable unmirrorable lapsedRefusals)).map
    (·.address) = all at *
  rw [← List.take_append_drop retrySlots all] at ordered member
  have later : y ∈ all.drop retrySlots := (List.mem_append.mp member).resolve_left left
  exact (List.pairwise_append.mp ordered).2.2 x retried y later

theorem planGroup_retried_spent {x : Str}
    (left : x ∈ addresses
      (planGroup unmirrorable lapsedRefusals retrySlots groupEmail desired actual
        allowMassRemoval).excluded)
    (lapsed : x ∈ lapsedRefusals) (open_ : x ∉ unmirrorable) :
    (planGroup unmirrorable lapsedRefusals retrySlots groupEmail desired actual
      allowMassRemoval).retried.length = retrySlots := by
  obtain ⟨a, excluded, rfl⟩ := mem_addresses.mp left
  refine planGroup_retried_full (mem_missing.mpr (mem_planGroup_either.mp (Or.inr excluded))) ?_ ?_
  · simp [retryable, open_, lapsed]
  · intro retried
    have added := (mem_planGroup_retried.mp retried).1
    exact (List.nodup_append.mp planGroup_addresses_nodup).2.2 _ added _ left rfl

theorem planGroup_sound_diff (folded : ∀ key ∈ desired, casefold key = key) :
    SoundDiff unmirrorable lapsedRefusals retrySlots groupEmail desired actual allowMassRemoval
      (planGroup unmirrorable lapsedRefusals retrySlots groupEmail desired actual
        allowMassRemoval) where
  placed := by
    intro x wanted
    by_cases absent : x ∈ present actual
    · exact Or.inl absent
    obtain ⟨id, item⟩ := Dict.mem_iff_item.mp wanted
    have lacking : (⟨x, id⟩ : PlannedAdd) ∈ missing desired actual := mem_missing.mpr ⟨item, absent⟩
    rcases planGroup_placed lacking with added | left
    · exact Or.inr (Or.inl (mem_addresses.mpr ⟨_, added, rfl⟩))
    · exact Or.inr (Or.inr (mem_addresses.mpr ⟨_, left, rfl⟩))
  once := planGroup_addresses_nodup
  wanted := fun a either => mem_planGroup_either.mp either
  open_ := by
    intro a added live
    have kept := (mem_planGroup_adds.mp added).2
    simp [withheld, live] at kept
  retried := fun x => mem_planGroup_retried
  slots := planGroup_retried_length
  ordered := planGroup_retried_ordered
  first := fun x retried y candidate left => planGroup_retried_first retried candidate left
  spent := fun ⟨x, left, lapsed, open_⟩ => planGroup_retried_spent left lapsed open_
  removed := by
    intro within
    have trips : fuseTrips allowMassRemoval desired actual = false := by
      unfold fuseTrips removalBudget removalFuseFloor
      rcases within with small | allowed
      · simp only [Bool.and_eq_false_iff, decide_eq_false_iff_not]
        exact Or.inl (by omega)
      · simp [allowed]
    exact ⟨if_neg (by simp [trips]), if_neg (by simp [trips])⟩
  refused := by
    intro exceeds guarded
    have trips : fuseTrips allowMassRemoval desired actual = true := by
      simp only [fuseTrips, guarded, Bool.not_false, Bool.and_true, decide_eq_true_eq]
      exact exceeds
    exact ⟨if_pos trips, if_pos trips⟩
  settled := by
    rintro fused rfl status
    obtain ⟨adds, removes, excluded, -⟩ := planGroup_carriedOut status folded fused
    exact ⟨adds, removes, excluded⟩

end

theorem planGroup_sound_diff_retry :
    SoundDiff [] [str "ada@pdx.org"] 1 (str "tech-leaders@pdx.org")
      (Dict.empty.set (str "ada@pdx.org") 1)
        [⟨str "gus@pdx.org", .member, none, some (str "USER")⟩] false
      (planGroup [] [str "ada@pdx.org"] 1 (str "tech-leaders@pdx.org")
        (Dict.empty.set (str "ada@pdx.org") 1)
          [⟨str "gus@pdx.org", .member, none, some (str "USER")⟩] false) :=
  planGroup_sound_diff (fun key wanted => by
    obtain rfl : key = str "ada@pdx.org" := by simpa using wanted
    decide +kernel)

end Rosadmin
