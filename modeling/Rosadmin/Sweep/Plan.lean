import Rosadmin.Db.Desired

/-!
# One group's plan

The diff of a desired set against a listing, and the second look at it once the
desired set has been read again. The removal budget is taken exactly.
-/

namespace Rosadmin
open Foundation

def removalFuseFloor : Nat := 5

/-- The floor, or a tenth of the group rounded up. -/
def removalBudget (actualSize : Nat) : Nat := max removalFuseFloor ((actualSize + 9) / 10)

structure PlannedAdd where
  address : Email
  memberId : UUID
  deriving DecidableEq

structure GroupPlan where
  groupEmail : Email
  adds : List PlannedAdd
  removes : List Email
  excluded : List PlannedAdd
  retried : List Email
  refusedRemoves : Nat
  deriving DecidableEq

structure AddPlan where
  adds : List PlannedAdd := []
  excluded : List PlannedAdd := []
  retried : List Email := []

section
variable (unmirrorable lapsedRefusals : List Str) (retrySlots : Nat)

def planAddress (plan : AddPlan) (planned : PlannedAdd) : AddPlan :=
  if planned.address ∈ unmirrorable then { plan with excluded := plan.excluded ++ [planned] }
  else if planned.address ∉ lapsedRefusals then { plan with adds := plan.adds ++ [planned] }
  else if plan.retried.length < retrySlots then
    { plan with retried := plan.retried ++ [planned.address], adds := plan.adds ++ [planned] }
  else { plan with excluded := plan.excluded ++ [planned] }

def present (actual : List GroupMemberEntry) : List Str :=
  actual.map (fun entry => casefold entry.email)

def missing (desired : Audience) (actual : List GroupMemberEntry) : List PlannedAdd :=
  (desired.sorted.filter (fun e => e.1 ∉ present actual)).map (fun e => ⟨e.1, e.2⟩)

/-- Only a plain member's own entry may be removed. -/
def GroupMemberEntry.plain (entry : GroupMemberEntry) : Bool :=
  entry.permissionLevel = .member && entry.type = some (str "USER")

def strangers (desired : Audience) (actual : List GroupMemberEntry) : List Email :=
  (actual.filter (fun entry => entry.plain && casefold entry.email ∉ desired)).map (·.email)

def fuseTrips (allowMassRemoval : Bool) (desired : Audience) (actual : List GroupMemberEntry) :
    Bool :=
  removalBudget actual.length < (strangers desired actual).length && !allowMassRemoval

def planGroup (groupEmail : Email) (desired : Audience) (actual : List GroupMemberEntry)
    (allowMassRemoval : Bool) : GroupPlan :=
  let plan := (missing desired actual).foldl (planAddress unmirrorable lapsedRefusals retrySlots) {}
  let removes := strangers desired actual
  let trips := fuseTrips allowMassRemoval desired actual
  { groupEmail, adds := plan.adds, removes := if trips then [] else removes,
    excluded := plan.excluded,
    retried := plan.retried, refusedRemoves := if trips then removes.length else 0 }

end

/-- Drop plan entries a concurrent panel write has outdated. -/
def recheck (plan : GroupPlan) (fresh : Audience) : GroupPlan :=
  { plan with
    adds := plan.adds.filter (fun a => casefold a.address ∈ fresh)
    removes := plan.removes.filter (fun r => casefold r ∉ fresh)
    excluded := plan.excluded.filter (fun e => casefold e.address ∈ fresh)
    retried := plan.retried.filter (fun r => casefold r ∈ fresh) }

/-! ### What a pass places where -/

section
variable {unmirrorable lapsedRefusals : List Str} {retrySlots : Nat}

theorem mem_missing {desired : Audience} {actual : List GroupMemberEntry} {a : PlannedAdd} :
    a ∈ missing desired actual ↔ (a.address, a.memberId) ∈ desired.items ∧
      a.address ∉ present actual := by
  simp only [missing, List.mem_map, List.mem_filter, Dict.mem_sorted, decide_eq_true_eq]
  constructor
  · rintro ⟨e, ⟨item, absent⟩, rfl⟩
    exact ⟨item, absent⟩
  · rintro ⟨item, absent⟩
    exact ⟨(a.address, a.memberId), ⟨item, absent⟩, rfl⟩

theorem mem_strangers {desired : Audience} {listing : List GroupMemberEntry} {address : Email} :
    address ∈ strangers desired listing ↔
      ∃ entry ∈ listing, entry.plain = true ∧ casefold entry.email ∉ desired ∧
        entry.email = address := by
  simp [strangers, and_assoc]

theorem missing_ordered (desired : Audience) (actual : List GroupMemberEntry) :
    (missing desired actual).Pairwise (fun a b => a.address < b.address) :=
  List.pairwise_map.mpr ((Dict.sorted_keys_ordered desired).filter _)

theorem mem_planned_adds {todo : List PlannedAdd} {plan : AddPlan} {a : PlannedAdd}
    (added : a ∈ (todo.foldl (planAddress unmirrorable lapsedRefusals retrySlots) plan).adds) :
    a ∈ plan.adds ∨ (a ∈ todo ∧ a.address ∉ unmirrorable) := by
  induction todo generalizing plan with
  | nil => exact Or.inl added
  | cons b todo ih =>
    rw [List.foldl_cons] at added
    rcases ih added with before | ⟨later, open_⟩
    · unfold planAddress at before
      split at before
      · exact Or.inl before
      rename_i withheld
      split at before
      · rcases List.mem_append.mp before with old | here
        · exact Or.inl old
        · obtain rfl := List.mem_singleton.mp here
          exact Or.inr ⟨List.mem_cons_self, withheld⟩
      split at before
      · rcases List.mem_append.mp before with old | here
        · exact Or.inl old
        · obtain rfl := List.mem_singleton.mp here
          exact Or.inr ⟨List.mem_cons_self, withheld⟩
      · exact Or.inl before
    · exact Or.inr ⟨List.mem_cons_of_mem _ later, open_⟩

theorem adds_kept {todo : List PlannedAdd} {plan : AddPlan} {a : PlannedAdd}
    (added : a ∈ plan.adds) :
    a ∈ (todo.foldl (planAddress unmirrorable lapsedRefusals retrySlots) plan).adds := by
  induction todo generalizing plan with
  | nil => exact added
  | cons b todo ih =>
    refine ih ?_
    unfold planAddress
    split
    · exact added
    split
    · exact List.mem_append_left _ added
    split
    · exact List.mem_append_left _ added
    · exact added

section
variable (unmirrorable lapsedRefusals)

def retryable (a : PlannedAdd) : Bool := a.address ∉ unmirrorable && a.address ∈ lapsedRefusals

end

theorem planAddress_retried (unmirrorable lapsedRefusals : List Str) (retrySlots : Nat)
    (plan : AddPlan) (b : PlannedAdd) :
    (planAddress unmirrorable lapsedRefusals retrySlots plan b).retried =
      if retryable unmirrorable lapsedRefusals b = true ∧ plan.retried.length < retrySlots
      then plan.retried ++ [b.address] else plan.retried := by
  unfold planAddress retryable
  by_cases withheld : b.address ∈ unmirrorable
  · simp [withheld]
  by_cases lapsed : b.address ∈ lapsedRefusals
  · by_cases room : plan.retried.length < retrySlots <;> simp [withheld, lapsed, room]
  · simp [withheld, lapsed]

/-- The retries of a pass are the first lapsed addresses it meets, as many as there are slots. -/
theorem foldl_retried {todo : List PlannedAdd} {plan : AddPlan}
    (within : plan.retried.length ≤ retrySlots) :
    (todo.foldl (planAddress unmirrorable lapsedRefusals retrySlots) plan).retried = plan.retried ++
      ((todo.filter (retryable unmirrorable lapsedRefusals)).map (·.address)).take
        (retrySlots - plan.retried.length) := by
  induction todo generalizing plan with
  | nil => simp
  | cons b todo ih =>
    have here := planAddress_retried unmirrorable lapsedRefusals retrySlots plan b
    rw [List.foldl_cons]
    generalize planAddress unmirrorable lapsedRefusals retrySlots plan b = next at *
    by_cases retries : retryable unmirrorable lapsedRefusals b = true
    · rw [List.filter_cons_of_pos retries, List.map_cons]
      by_cases room : plan.retried.length < retrySlots
      · rw [if_pos ⟨retries, room⟩] at here
        have length : next.retried.length = plan.retried.length + 1 := by rw [here]; simp
        obtain ⟨left, some⟩ : ∃ left, retrySlots - plan.retried.length = left + 1 :=
          Nat.exists_eq_succ_of_ne_zero (by omega)
        have spent : retrySlots - next.retried.length = left := by omega
        rw [ih (by omega), spent, some, here, List.take_succ_cons, List.append_assoc]
        rfl
      · rw [if_neg (fun h => room h.2)] at here
        have none : retrySlots - plan.retried.length = 0 := by omega
        rw [ih (by rw [here]; exact within), here, none, List.take_zero, List.take_zero]
    · rw [if_neg (fun h => retries h.1)] at here
      rw [ih (by rw [here]; exact within), here, List.filter_cons_of_neg retries]

/-- One address of the pass is added when it is not withheld and, if its refusal has lapsed, a slot
is left for it. -/
theorem mem_adds_iff {before after : List PlannedAdd} {a : PlannedAdd} (first : a ∉ before)
    (last : a ∉ after) :
    a ∈ ((before ++ a :: after).foldl (planAddress unmirrorable lapsedRefusals retrySlots)
      {}).adds ↔ a.address ∉ unmirrorable ∧ (a.address ∈ lapsedRefusals →
        before.countP (retryable unmirrorable lapsedRefusals) < retrySlots) := by
  have retried : (before.foldl (planAddress unmirrorable lapsedRefusals retrySlots)
      {}).retried.length =
        min retrySlots (before.countP (retryable unmirrorable lapsedRefusals)) := by
    have none : ({} : AddPlan).retried.length ≤ retrySlots := Nat.zero_le _
    rw [foldl_retried none, List.countP_eq_length_filter]
    simp
  have earlier : a ∉ (before.foldl (planAddress unmirrorable lapsedRefusals retrySlots)
      {}).adds := by
    intro added
    rcases mem_planned_adds added with none | ⟨member, -⟩
    · cases none
    · exact first member
  rw [List.foldl_append, List.foldl_cons]
  generalize before.foldl (planAddress unmirrorable lapsedRefusals retrySlots) {} = plan at *
  have here : a ∈ (planAddress unmirrorable lapsedRefusals retrySlots plan a).adds ↔
      a.address ∉ unmirrorable ∧ (a.address ∈ lapsedRefusals →
        plan.retried.length < retrySlots) := by
    unfold planAddress
    by_cases withheld : a.address ∈ unmirrorable
    · simp [withheld, earlier]
    by_cases lapsed : a.address ∈ lapsedRefusals
    · by_cases room : plan.retried.length < retrySlots <;> simp [withheld, lapsed, room, earlier]
    · simp [withheld, lapsed]
  have slots : plan.retried.length < retrySlots ↔
      before.countP (retryable unmirrorable lapsedRefusals) < retrySlots := by omega
  rw [← slots, ← here]
  refine ⟨fun added => ?_, adds_kept⟩
  rcases mem_planned_adds added with now | ⟨later, -⟩
  · exact now
  · exact absurd later last

section
variable (unmirrorable lapsedRefusals retrySlots)

/-- The plan leaves the address out: it is refused, or its refusal has lapsed and earlier retries
took every slot. -/
def withheld (desired : Audience) (actual : List GroupMemberEntry) (address : Email) : Bool :=
  address ∈ unmirrorable || (address ∈ lapsedRefusals && retrySlots ≤
    ((missing desired actual).filter (·.address < address)).countP
      (retryable unmirrorable lapsedRefusals))

end

theorem mem_planGroup_adds {groupEmail : Email} {desired : Audience}
    {actual : List GroupMemberEntry} {allowMassRemoval : Bool} {a : PlannedAdd} :
    a ∈ (planGroup unmirrorable lapsedRefusals retrySlots groupEmail desired actual
      allowMassRemoval).adds ↔ a ∈ missing desired actual ∧
        withheld unmirrorable lapsedRefusals retrySlots desired actual a.address = false := by
  by_cases member : a ∈ missing desired actual
  · have ordered := missing_ordered desired actual
    unfold planGroup withheld
    obtain ⟨before, after, split⟩ := List.append_of_mem member
    rw [split] at ordered ⊢
    obtain ⟨-, tail, apart⟩ := List.pairwise_append.mp ordered
    have lower : ∀ b ∈ before, b.address < a.address :=
      fun b early => apart b early a List.mem_cons_self
    have upper : ∀ b ∈ after, a.address < b.address := (List.pairwise_cons.mp tail).1
    have only : (before ++ a :: after).filter (·.address < a.address) = before := by
      rw [List.filter_append, List.filter_cons, List.filter_eq_self.mpr (by simpa using lower),
        List.filter_eq_nil_iff.mpr (by simpa using fun b late => (upper b late).le)]
      simp
    rw [only]
    refine (mem_adds_iff (fun early => lt_irrefl _ (lower a early))
      (fun late => lt_irrefl _ (upper a late))).trans ?_
    simp
  · refine ⟨fun added => ?_, fun h => absurd h.1 member⟩
    rcases mem_planned_adds added with none | ⟨here, -⟩
    · cases none
    · exact absurd here member

/-! ### What a plan retries -/

theorem foldl_adds_sublist (todo : List PlannedAdd) (plan : AddPlan) :
    (todo.foldl (planAddress unmirrorable lapsedRefusals retrySlots) plan).adds.Sublist
      (plan.adds ++ todo) := by
  induction todo generalizing plan with
  | nil => rw [List.append_nil]; exact List.Sublist.refl _
  | cons b todo ih =>
    rw [List.foldl_cons]
    refine (ih _).trans ?_
    unfold planAddress
    split
    · exact (List.sublist_cons_self b todo).append_left plan.adds
    split
    · rw [List.append_assoc]; exact List.Sublist.refl _
    split
    · rw [List.append_assoc]; exact List.Sublist.refl _
    · exact (List.sublist_cons_self b todo).append_left plan.adds

theorem retried_of_lapsed {todo : List PlannedAdd} {plan : AddPlan}
    (spent : ∀ a ∈ plan.adds, a.address ∈ lapsedRefusals → a.address ∈ plan.retried) :
    ∀ a ∈ (todo.foldl (planAddress unmirrorable lapsedRefusals retrySlots) plan).adds,
      a.address ∈ lapsedRefusals →
      a.address ∈ (todo.foldl (planAddress unmirrorable lapsedRefusals retrySlots)
        plan).retried := by
  induction todo generalizing plan with
  | nil => exact spent
  | cons b todo ih =>
    rw [List.foldl_cons]
    refine ih ?_
    unfold planAddress
    split
    · exact spent
    split
    · rename_i fresh
      intro a added lapsed
      rcases List.mem_append.mp added with old | here
      · exact spent a old lapsed
      · rw [List.mem_singleton.mp here] at lapsed
        exact absurd lapsed fresh
    split
    · intro a added lapsed
      rcases List.mem_append.mp added with old | here
      · exact List.mem_append_left _ (spent a old lapsed)
      · rw [List.mem_singleton.mp here]
        exact List.mem_append_right _ (List.mem_singleton_self _)
    · exact spent

theorem added_of_retried {todo : List PlannedAdd} {plan : AddPlan}
    (spent : ∀ x ∈ plan.retried, ∃ a ∈ plan.adds, a.address = x) :
    ∀ x ∈ (todo.foldl (planAddress unmirrorable lapsedRefusals retrySlots) plan).retried,
      ∃ a ∈ (todo.foldl (planAddress unmirrorable lapsedRefusals retrySlots) plan).adds,
        a.address = x := by
  induction todo generalizing plan with
  | nil => exact spent
  | cons b todo ih =>
    rw [List.foldl_cons]
    apply ih
    intro x retried
    unfold planAddress at retried ⊢
    split at retried
    · rename_i withheld
      rw [if_pos withheld]
      exact spent x retried
    rename_i open_
    rw [if_neg open_]
    split at retried
    · rename_i fresh
      rw [if_pos fresh]
      obtain ⟨a, added, same⟩ := spent x retried
      exact ⟨a, List.mem_append_left _ added, same⟩
    rename_i lapsed
    rw [if_neg lapsed]
    split at retried
    · rename_i room
      rw [if_pos room]
      rcases List.mem_append.mp retried with old | here
      · obtain ⟨a, added, same⟩ := spent x old
        exact ⟨a, List.mem_append_left _ added, same⟩
      · exact ⟨b, List.mem_append_right _ (List.mem_singleton_self b),
          (List.mem_singleton.mp here).symm⟩
    · rename_i full
      rw [if_neg full]
      exact spent x retried

theorem placed_of_mem {todo : List PlannedAdd} {plan : AddPlan} {a : PlannedAdd}
    (member : a ∈ plan.adds ∨ a ∈ plan.excluded ∨ a ∈ todo) :
    a ∈ (todo.foldl (planAddress unmirrorable lapsedRefusals retrySlots) plan).adds ∨
      a ∈ (todo.foldl (planAddress unmirrorable lapsedRefusals retrySlots) plan).excluded := by
  induction todo generalizing plan with
  | nil => exact member.imp_right fun rest => rest.resolve_right List.not_mem_nil
  | cons b todo ih =>
    rw [List.foldl_cons]
    refine ih ?_
    have split : a ∈ plan.adds ∨ a ∈ plan.excluded ∨ a = b ∨ a ∈ todo := by simpa using member
    unfold planAddress
    split
    · simp only [List.mem_append, List.mem_singleton]
      tauto
    split
    · simp only [List.mem_append, List.mem_singleton]
      tauto
    split
    · simp only [List.mem_append, List.mem_singleton]
      tauto
    · simp only [List.mem_append, List.mem_singleton]
      tauto

section
variable {groupEmail : Email} {desired : Audience} {actual : List GroupMemberEntry}
    {allowMassRemoval : Bool}

theorem planGroup_placed {a : PlannedAdd} (lacking : a ∈ missing desired actual) :
    a ∈ (planGroup unmirrorable lapsedRefusals retrySlots groupEmail desired actual
      allowMassRemoval).adds ∨
      a ∈ (planGroup unmirrorable lapsedRefusals retrySlots groupEmail desired actual
        allowMassRemoval).excluded :=
  placed_of_mem (Or.inr (Or.inr lacking))

theorem planGroup_retried :
    (planGroup unmirrorable lapsedRefusals retrySlots groupEmail desired actual
      allowMassRemoval).retried =
      (((missing desired actual).filter (retryable unmirrorable lapsedRefusals)).map
        (·.address)).take retrySlots := by
  have none : ({} : AddPlan).retried.length ≤ retrySlots := Nat.zero_le _
  unfold planGroup
  dsimp only
  rw [foldl_retried none]
  simp

theorem planGroup_retried_of_lapsed {a : PlannedAdd}
    (added : a ∈ (planGroup unmirrorable lapsedRefusals retrySlots groupEmail desired actual
      allowMassRemoval).adds)
    (lapsed : a.address ∈ lapsedRefusals) :
    a.address ∈
      (planGroup unmirrorable lapsedRefusals retrySlots groupEmail desired actual
        allowMassRemoval).retried :=
  retried_of_lapsed (fun a (none : a ∈ []) => absurd none List.not_mem_nil) a added lapsed

theorem planGroup_added_of_retried {x : Str}
    (retried : x ∈
      (planGroup unmirrorable lapsedRefusals retrySlots groupEmail desired actual
        allowMassRemoval).retried) :
    ∃ a ∈ (planGroup unmirrorable lapsedRefusals retrySlots groupEmail desired actual
      allowMassRemoval).adds, a.address = x :=
  added_of_retried (fun x (none : x ∈ []) => absurd none List.not_mem_nil) x retried

/-- A lapsed address the plan passes over finds every slot taken. -/
theorem planGroup_retried_full {a : PlannedAdd} (lacking : a ∈ missing desired actual)
    (retries : retryable unmirrorable lapsedRefusals a = true)
    (left : a.address ∉
      (planGroup unmirrorable lapsedRefusals retrySlots groupEmail desired actual
        allowMassRemoval).retried) :
    (planGroup unmirrorable lapsedRefusals retrySlots groupEmail desired actual
      allowMassRemoval).retried.length = retrySlots := by
  rw [planGroup_retried] at left ⊢
  have member : a.address ∈ ((missing desired actual).filter
      (retryable unmirrorable lapsedRefusals)).map (·.address) :=
    List.mem_map_of_mem (List.mem_filter.mpr ⟨lacking, retries⟩)
  rw [List.length_take, Nat.min_eq_left]
  by_contra short
  rw [List.take_of_length_le (by omega)] at left
  exact left member

theorem planGroup_removes_subset {address : Email}
    (planned : address ∈
      (planGroup unmirrorable lapsedRefusals retrySlots groupEmail desired actual
        allowMassRemoval).removes) :
    address ∈ strangers desired actual := by
  unfold planGroup at planned
  dsimp only at planned
  split at planned
  · cases planned
  · exact planned

/-- Where the fuse refused nothing, every stranger goes. -/
theorem planGroup_removes_whole
    (clear : (planGroup unmirrorable lapsedRefusals retrySlots groupEmail desired actual
      allowMassRemoval).refusedRemoves = 0) :
    (planGroup unmirrorable lapsedRefusals retrySlots groupEmail desired actual
      allowMassRemoval).removes = strangers desired actual := by
  unfold planGroup at clear ⊢
  dsimp only at clear ⊢
  by_cases trips : fuseTrips allowMassRemoval desired actual = true
  · rw [if_pos trips] at clear
    rw [if_pos trips, List.length_eq_zero_iff.mp clear]
  · rw [if_neg trips]

theorem planGroup_adds_ordered :
    (planGroup unmirrorable lapsedRefusals retrySlots groupEmail desired actual
      allowMassRemoval).adds.Pairwise
      (fun a b => a.address < b.address) :=
  (missing_ordered desired actual).sublist (foldl_adds_sublist (missing desired actual) {})

theorem planGroup_retried_ordered :
    (planGroup unmirrorable lapsedRefusals retrySlots groupEmail desired actual
      allowMassRemoval).retried.Pairwise
      (· < ·) := by
  rw [planGroup_retried]
  have ordered := (missing_ordered desired actual).filter (retryable unmirrorable lapsedRefusals)
  exact (List.pairwise_map.mpr ordered).sublist (List.take_sublist _ _)

theorem planGroup_retried_length :
    (planGroup unmirrorable lapsedRefusals retrySlots groupEmail desired actual
      allowMassRemoval).retried.length ≤ retrySlots := by
  rw [planGroup_retried]
  exact List.length_take_le _ _

theorem planGroup_retried_lapsed {address : Email}
    (retried : address ∈
      (planGroup unmirrorable lapsedRefusals retrySlots groupEmail desired actual
        allowMassRemoval).retried) :
    address ∈ lapsedRefusals := by
  rw [planGroup_retried] at retried
  obtain ⟨a, member, rfl⟩ := List.mem_map.mp (List.mem_of_mem_take retried)
  have retries := (List.mem_filter.mp member).2
  simp only [retryable, Bool.and_eq_true, decide_eq_true_eq] at retries
  exact retries.2

end

end

end Rosadmin
