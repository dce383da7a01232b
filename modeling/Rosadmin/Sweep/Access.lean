import Rosadmin.Sweep.Ledger

/-!
# Who keeps access through one group's sweep

A member is desired under one address and may be in the group under the other.
The removes do not look at what the adds answered, so the member keeps a place
exactly unless the new address is not taken up while every old one is removed.
-/

namespace Rosadmin
open Foundation

def memberKeys (a : SyncAddresses) : List Str :=
  casefold a.email :: (a.alternateEmail.map casefold).toList

def HoldsMember (entries : List GroupMemberEntry) (a : SyncAddresses) : Prop :=
  ∃ e ∈ entries, casefold e.email ∈ memberKeys a

/-- The member is desired for the group: good standing, not banned, holding a row that puts them
there. -/
structure DesiredIn (statuses : EmailStatuses) (db : Database) (mainGroupEmail g : Email)
    (m : MembersRow) : Prop where
  member : m ∈ db.members
  standing : m.standing = .goodStanding
  unbanned : db.banned m.id = false
  placed : g = mainGroupEmail ∨ ∃ bm ∈ db.bodyMemberships, bm.memberId = m.id ∧
    ∃ lb ∈ db.leadershipBodies, lb.id = bm.bodyId ∧ Database.holdsGroup g bm lb = true
  real : isExample (syncTarget m.addresses statuses) = false

section
variable {statuses : EmailStatuses} {db : Database} {mainGroupEmail g : Email} {m : MembersRow}

theorem syncTarget_key (statuses : EmailStatuses) (a : SyncAddresses) :
    casefold (syncTarget a statuses) ∈ memberKeys a := by
  rcases syncTarget_mem a statuses with primary | alternate
  · rw [primary]
    exact List.mem_cons_self
  · exact List.mem_cons_of_mem _ (by rw [alternate]; exact List.mem_singleton_self _)

theorem DesiredIn.eligible (desired : DesiredIn statuses db mainGroupEmail g m) :
    db.eligible m = true :=
  Database.eligible_iff.mpr ⟨desired.standing, desired.unbanned⟩

theorem DesiredIn.in_audience (desired : DesiredIn statuses db mainGroupEmail g m) :
    casefold (syncTarget m.addresses statuses) ∈ (audiencesIn statuses db mainGroupEmail).at g := by
  refine mem_audiencesIn.mpr ?_
  rcases desired.placed with main | ⟨bm, held, same, lb, body, link, holds⟩
  · exact Or.inl ⟨main, Database.desiredRow m,
      Database.mem_goodStandingRows.mpr ⟨m, desired.member, desired.eligible, rfl⟩,
      desired.real, rfl⟩
  · refine Or.inr ⟨⟨Database.desiredRow m, g⟩, ?_, rfl, desired.real, rfl⟩
    simp only [Database.holdsGroup, Bool.or_eq_true, Bool.and_eq_true, decide_eq_true_eq] at holds
    rcases holds with ⟨role, column⟩ | ⟨role, column⟩
    · exact List.mem_append_left _ (Database.mem_linkedRows.mpr
        ⟨bm, held, role, lb, body, link, column, m, desired.member, same.symm,
          desired.eligible, rfl⟩)
    · exact List.mem_append_right _ (Database.mem_linkedRows.mpr
        ⟨bm, held, role, lb, body, link, column, m, desired.member, same.symm,
          desired.eligible, rfl⟩)

theorem DesiredIn.in_group (desired : DesiredIn statuses db mainGroupEmail g m) :
    casefold (syncTarget m.addresses statuses) ∈ desiredForGroup statuses db g mainGroupEmail := by
  refine mem_desiredForGroup.mpr ⟨Database.desiredRow m, ?_, desired.real, rfl⟩
  split
  · exact Database.mem_goodStandingRows.mpr ⟨m, desired.member, desired.eligible, rfl⟩
  · rename_i other
    obtain ⟨bm, held, same, lb, body, link, holds⟩ := desired.placed.resolve_left other
    exact Database.mem_oneLinkedGroupRows.mpr
      ⟨bm, held, lb, body, link, holds, m, desired.member, same.symm, desired.eligible, rfl⟩

theorem casefold_at {key : Str} (desired : key ∈ (audiencesIn statuses db mainGroupEmail).at g) :
    casefold key = key := by
  rcases mem_audiencesIn.mp desired with ⟨-, row, -, -, rfl⟩ | ⟨row, -, -, -, rfl⟩
  · exact casefold_casefold _
  · exact casefold_casefold _

end

section
variable (answers : Answers) (mainGroupEmail : Email) (statuses : EmailStatuses)
    (allowMassRemoval : Bool) (s : RunState Workspace) (g : Email) (desired : Audience)

def freshDesired : Audience := desiredForGroup statuses (answers.reread g) g mainGroupEmail

def leftOut (address : Email) : Bool :=
  withheld s.unmirrorable s.lapsedRefusals s.retrySlots desired (s.port.contents g) address

/-- The inserts Google is asked for: the addresses the group lacks, desired at both reads and not
left out. -/
def offers : List PlannedAdd :=
  (missing desired (s.port.contents g)).filter fun a =>
    a.address ∈ freshDesired answers mainGroupEmail statuses g && !leftOut s g desired a.address

/-- A member desired as `target` loses the group: the target is not there and is not taken up, the
removes are made, and they take every entry of the member's. -/
structure Stripped (target : Str) (keys : List Str) : Prop where
  listed : answers.unlisted g = none
  absent : target ∉ present (s.port.contents g)
  untaken : target ∈ freshDesired answers mainGroupEmail statuses g →
    leftOut s g desired target = true ∨ (answers.insert g target).accepted = false
  unfused : fuseTrips allowMassRemoval desired (s.port.contents g) = false
  owned : answers.disowns g (offers answers mainGroupEmail statuses s g desired) = false
  removed : ∀ e ∈ s.port.contents g, casefold e.email ∈ keys →
    casefold e.email ∉ desired ∧ casefold e.email ∉ freshDesired answers mainGroupEmail statuses g ∧
      answers.delete g e.email = .applied ∧ ∃ p ∈ s.port.contents g,
        p.plain = true ∧ p.email = e.email

end

section
variable {answers : Answers} {mainGroupEmail : Email} {statuses : EmailStatuses}
    {allowMassRemoval : Bool} {s : RunState Workspace} {g : Email} {desired : Audience}

theorem finalPlan_adds :
    (finalPlan answers mainGroupEmail statuses allowMassRemoval s (g, desired)).adds =
    (s.plan allowMassRemoval (g, desired) (s.port.contents g)).adds.filter
      (fun a => casefold a.address ∈ freshDesired answers mainGroupEmail statuses g) := by
  unfold finalPlan rechecked
  dsimp only
  split
  · rfl
  · rename_i empty
    simp only [not_or, not_not] at empty
    rw [empty.1]; rfl

theorem finalPlan_removes :
    (finalPlan answers mainGroupEmail statuses allowMassRemoval s (g, desired)).removes =
    (s.plan allowMassRemoval (g, desired) (s.port.contents g)).removes.filter
      (fun r => casefold r ∉ freshDesired answers mainGroupEmail statuses g) := by
  unfold finalPlan rechecked
  dsimp only
  split
  · rfl
  · rename_i empty
    simp only [not_or, not_not] at empty
    rw [empty.2.1]; rfl

theorem mem_offers {a : PlannedAdd} (folded : ∀ key ∈ desired, casefold key = key) :
    a ∈ (finalPlan answers mainGroupEmail statuses allowMassRemoval s (g, desired)).adds ↔
      a ∈ offers answers mainGroupEmail statuses s g desired := by
  rw [finalPlan_adds, offers, List.mem_filter, List.mem_filter, RunState.plan, mem_planGroup_adds]
  simp only [decide_eq_true_eq, Bool.and_eq_true, Bool.not_eq_true', and_assoc]
  apply and_congr_right
  intro lacking
  rw [folded _ (Dict.mem_iff_item.mpr ⟨_, (mem_missing.mp lacking).1⟩), and_comm]
  rfl

theorem mem_finalPlan_removes {address : Email} :
    address ∈ (finalPlan answers mainGroupEmail statuses allowMassRemoval s (g, desired)).removes ↔
      fuseTrips allowMassRemoval desired (s.port.contents g) = false ∧ casefold address ∉ desired ∧
        casefold address ∉ freshDesired answers mainGroupEmail statuses g ∧
          ∃ p ∈ s.port.contents g, p.plain = true ∧ p.email = address := by
  rw [finalPlan_removes, List.mem_filter, RunState.plan, planGroup]
  dsimp only
  cases fuseTrips allowMassRemoval desired (s.port.contents g) with
  | true => simp
  | false =>
    simp only [Bool.false_eq_true, if_false, strangers, List.mem_map, List.mem_filter,
      Bool.and_eq_true, decide_eq_true_eq, true_and]
    constructor
    · rintro ⟨⟨p, ⟨listed, plain, stranger⟩, rfl⟩, undesired⟩
      exact ⟨stranger, undesired, p, listed, plain, rfl⟩
    · rintro ⟨stranger, undesired, p, listed, plain, rfl⟩
      exact ⟨⟨p, ⟨listed, plain, stranger⟩, rfl⟩, undesired⟩

/-- A listed group ends with its inserts taken up and, unless Google disowns it, its removes
made. -/
theorem swept_contents (mainGroupEmail : Email) (statuses : EmailStatuses) (allowMassRemoval : Bool)
    (s : RunState Workspace) (folded : ∀ key ∈ desired, casefold key = key)
    (listed : answers.unlisted g = none) :
    let plan := finalPlan answers mainGroupEmail statuses allowMassRemoval s (g, desired)
    ∃ issued, issued <+: plan.adds ∧
      (answers.disowns g (offers answers mainGroupEmail statuses s g desired) = false →
        issued = plan.adds) ∧
      (sweepGroup answers.ports mainGroupEmail statuses allowMassRemoval s (g, desired)).port.contents g =
        let filled := s.port.contents g ++
          (issued.filter (fun a => (answers.insert g a.address).accepted)).map (insertedEntry ·.address)
        if answers.disowns g (offers answers mainGroupEmail statuses s g desired) then filled
        else survivors answers g plan.removes filled := by
  intro plan
  obtain ⟨done, issued, settled, -, -, -, port⟩ := sweepGroup_listed mainGroupEmail statuses
    allowMassRemoval s (show answers.unlisted (g, desired).1 = none from listed)
  have group : plan.groupEmail = g := finalPlan_groupEmail s (g, desired)
  have same : answers.disowns g (offers answers mainGroupEmail statuses s g desired) =
      answers.disowns plan.groupEmail plan.adds := by
    have any : ∀ p : PlannedAdd → Bool,
        (offers answers mainGroupEmail statuses s g desired).any p = plan.adds.any p := by
      intro p
      rw [Bool.eq_iff_iff, List.any_eq_true, List.any_eq_true]
      exact exists_congr fun a => and_congr_left fun _ => (mem_offers folded).symm
    rw [group, Answers.disowns, any]
    rfl
  refine ⟨issued, settled.early, fun owned => settled.complete (same ▸ owned), ?_⟩
  rw [same, port, settled.contents, group, Function.update_self]
  rfl

theorem memberKeys_two {a : SyncAddresses} {x y z : Str} (hx : x ∈ memberKeys a)
    (hy : y ∈ memberKeys a) (hz : z ∈ memberKeys a) : x = y ∨ y = z ∨ x = z := by
  unfold memberKeys at hx hy hz
  cases alternate : a.alternateEmail with
  | none =>
    rw [alternate] at hx hy
    exact Or.inl ((List.mem_singleton.mp hx).trans (List.mem_singleton.mp hy).symm)
  | some b =>
    simp only [alternate, Option.map_some, Option.toList_some, List.mem_cons, List.not_mem_nil,
      or_false] at hx hy hz
    grind

variable {db : Database} {m : MembersRow}

theorem not_holds_of_stripped
    (stripped : Stripped answers mainGroupEmail statuses allowMassRemoval s g
      ((audiencesIn statuses db mainGroupEmail).at g) (casefold (syncTarget m.addresses statuses))
      (memberKeys m.addresses))
    (held : HoldsMember (s.port.contents g) m.addresses) :
    ¬HoldsMember ((sweepGroup answers.ports mainGroupEmail statuses allowMassRemoval s
      (g, (audiencesIn statuses db mainGroupEmail).at g)).port.contents g) m.addresses := by
  have folded : ∀ key ∈ (audiencesIn statuses db mainGroupEmail).at g, casefold key = key :=
    fun _ => casefold_at
  obtain ⟨issued, early, -, contents⟩ :=
    swept_contents mainGroupEmail statuses allowMassRemoval s folded stripped.listed
  rw [contents, stripped.owned]
  rintro ⟨e, survived, mine⟩
  obtain ⟨filled, kept⟩ := List.mem_filter.mp survived
  rcases List.mem_append.mp filled with listed | inserted
  · obtain ⟨undesired, unfresh, applied, plain⟩ := stripped.removed e listed mine
    exact of_decide_eq_true kept ⟨mem_finalPlan_removes.mpr ⟨stripped.unfused, undesired, unfresh,
      plain⟩, applied⟩
  · obtain ⟨a, taken, rfl⟩ := List.mem_map.mp inserted
    obtain ⟨issue, accepted⟩ := List.mem_filter.mp taken
    have offered := (mem_offers (fun key desired => casefold_at desired)).mp (early.subset issue)
    obtain ⟨lacking, wanted⟩ := List.mem_filter.mp offered
    obtain ⟨item, lacks⟩ := mem_missing.mp lacking
    have key : casefold a.address = a.address := casefold_at (Dict.mem_iff_item.mpr ⟨_, item⟩)
    simp only [Bool.and_eq_true, decide_eq_true_eq, Bool.not_eq_true'] at wanted
    -- the address taken up is the target: the member's other key is the one the group lists
    have target : a.address = casefold (syncTarget m.addresses statuses) := by
      obtain ⟨e₀, listed, own⟩ := held
      have there : casefold e₀.email ∈ present (s.port.contents g) := List.mem_map_of_mem listed
      have mine' : a.address ∈ memberKeys m.addresses := key ▸ mine
      rcases memberKeys_two mine' own (syncTarget_key statuses m.addresses) with same | same | same
      · exact absurd (same ▸ there) lacks
      · exact absurd (same ▸ there) stripped.absent
      · exact same
    rcases stripped.untaken (target ▸ wanted.1) with out | refused
    · rw [← target, wanted.2] at out
      cases out
    · rw [← target, accepted] at refused
      cases refused

/-- A key the group lacks is inserted if it is desired at both looks, not left out, and accepted. -/
theorem inserted_of_accepted {key : Str} (folded : ∀ key ∈ desired, casefold key = key)
    (wanted : key ∈ desired) (absent : key ∉ present (s.port.contents g))
    (again : key ∈ freshDesired answers mainGroupEmail statuses g)
    (offered : leftOut s g desired key = false)
    (accepted : (answers.insert g key).accepted = true) :
    insertedEntry key ∈ ((finalPlan answers mainGroupEmail statuses allowMassRemoval s
      (g, desired)).adds.filter
      (fun a => (answers.insert g a.address).accepted)).map (insertedEntry ·.address) := by
  obtain ⟨id, item⟩ := Dict.mem_iff_item.mp wanted
  have offer : (⟨key, id⟩ : PlannedAdd) ∈ offers answers mainGroupEmail statuses s g desired :=
    List.mem_filter.mpr ⟨mem_missing.mpr ⟨item, absent⟩, by simp [again, offered]⟩
  exact List.mem_map.mpr ⟨_, List.mem_filter.mpr ⟨(mem_offers folded).mpr offer, accepted⟩, rfl⟩

/-- A member who leaves a group leaves one that was listed and owned, whose removes took every entry
of theirs. -/
theorem taken_of_lost {a : SyncAddresses} (folded : ∀ key ∈ desired, casefold key = key)
    (held : HoldsMember (s.port.contents g) a)
    (lost : ¬HoldsMember
      ((sweepGroup answers.ports mainGroupEmail statuses allowMassRemoval s
        (g, desired)).port.contents g) a) :
    answers.unlisted g = none ∧ answers.disowns g
      (offers answers mainGroupEmail statuses s g desired) = false ∧
      ∀ e ∈ s.port.contents g ++
        ((finalPlan answers mainGroupEmail statuses allowMassRemoval s (g, desired)).adds.filter
          (fun a => (answers.insert g a.address).accepted)).map (insertedEntry ·.address),
        casefold e.email ∈ memberKeys a →
          e.email ∈ (finalPlan answers mainGroupEmail statuses allowMassRemoval s
            (g, desired)).removes ∧ answers.delete g e.email = .applied := by
  have listed : answers.unlisted g = none := by
    by_contra failed
    obtain ⟨error, failed⟩ := Option.ne_none_iff_exists'.mp failed
    rw [sweepGroup_unlisted failed] at lost
    exact lost held
  obtain ⟨issued, -, complete, contents⟩ :=
    swept_contents mainGroupEmail statuses allowMassRemoval s
    folded listed
  rw [contents] at lost
  have owned : answers.disowns g (offers answers mainGroupEmail statuses s g desired) = false := by
    by_contra disowned
    rw [Bool.not_eq_false] at disowned
    rw [disowned] at lost
    obtain ⟨e, listed, mine⟩ := held
    exact lost ⟨e, List.mem_append_left _ listed, mine⟩
  rw [owned, complete owned] at lost
  refine ⟨listed, owned, fun e member mine => ?_⟩
  by_contra kept
  exact lost ⟨e, List.mem_filter.mpr ⟨member, decide_eq_true kept⟩, mine⟩

theorem stripped_of_not_holds (desired : DesiredIn statuses db mainGroupEmail g m)
    (held : HoldsMember (s.port.contents g) m.addresses)
    (lost : ¬HoldsMember ((sweepGroup answers.ports mainGroupEmail statuses allowMassRemoval s
      (g, (audiencesIn statuses db mainGroupEmail).at g)).port.contents g) m.addresses) :
    Stripped answers mainGroupEmail statuses allowMassRemoval s g
      ((audiencesIn statuses db mainGroupEmail).at g)
      (casefold (syncTarget m.addresses statuses)) (memberKeys m.addresses) := by
  have wanted := desired.in_audience
  have folded : ∀ key ∈ (audiencesIn statuses db mainGroupEmail).at g, casefold key = key :=
    fun key member => casefold_at member
  generalize (audiencesIn statuses db mainGroupEmail).at g = audience at *
  obtain ⟨listed, owned, taken⟩ := taken_of_lost folded held lost
  have removed : ∀ e ∈ s.port.contents g, casefold e.email ∈ memberKeys m.addresses → _ :=
    fun e listed mine => (taken e (List.mem_append_left _ listed) mine).imp_left
      mem_finalPlan_removes.mp
  have absent : casefold (syncTarget m.addresses statuses) ∉ present (s.port.contents g) := by
    intro there
    obtain ⟨e, listed, key⟩ := List.mem_map.mp there
    obtain ⟨⟨-, undesired, -⟩, -⟩ := removed e listed (key ▸ syncTarget_key _ m.addresses)
    exact undesired (key ▸ wanted)
  refine ⟨listed, absent, ?_, ?_, owned, ?_⟩
  · intro again
    by_contra took
    simp only [not_or, Bool.not_eq_true, Bool.not_eq_false] at took
    obtain ⟨gone, -⟩ := taken (insertedEntry (casefold (syncTarget m.addresses statuses)))
      (List.mem_append_right _ (inserted_of_accepted folded wanted absent again took.1 took.2))
      (by rw [insertedEntry, casefold_casefold]; exact syncTarget_key _ m.addresses)
    obtain ⟨-, undesired, -⟩ := mem_finalPlan_removes.mp gone
    exact undesired (by rw [insertedEntry, casefold_casefold]; exact wanted)
  · obtain ⟨e, listed, mine⟩ := held
    exact (removed e listed mine).1.1
  · intro e listed mine
    obtain ⟨⟨-, undesired, unfresh, plain⟩, applied⟩ := removed e listed mine
    exact ⟨undesired, unfresh, applied, plain⟩

/-- Who is desired at the second look too is stripped only where their target was declined. -/
theorem Stripped.declined {m' : MembersRow}
    (stripped : Stripped answers mainGroupEmail statuses allowMassRemoval s g
      desired (casefold (syncTarget m.addresses statuses)) (memberKeys m.addresses))
    (again : DesiredIn statuses (answers.reread g) mainGroupEmail g m')
    (same : m'.addresses = m.addresses) :
    leftOut s g desired (casefold (syncTarget m.addresses statuses)) = true ∨
      (answers.insert g (casefold (syncTarget m.addresses statuses))).accepted = false := by
  refine stripped.untaken ?_
  rw [← same]
  exact again.in_group

/-- A desired member the group holds keeps a place in it exactly when the sweep does not strip
them. -/
theorem access_kept_iff (desired : DesiredIn statuses db mainGroupEmail g m)
    (listed : ∃ e ∈ s.port.contents g, e.plain = true ∧ casefold e.email ∈ memberKeys m.addresses) :
    let audience := (audiencesIn statuses db mainGroupEmail).at g
    let next := sweepGroup answers.ports mainGroupEmail statuses allowMassRemoval s (g, audience)
    HoldsMember (next.port.contents g) m.addresses ↔
      ¬Stripped answers mainGroupEmail statuses allowMassRemoval s g audience
        (casefold (syncTarget m.addresses statuses)) (memberKeys m.addresses) := by
  intro audience next
  obtain ⟨e, here, -, mine⟩ := listed
  have held : HoldsMember (s.port.contents g) m.addresses := ⟨e, here, mine⟩
  constructor
  · intro holds stripped
    exact not_holds_of_stripped stripped held holds
  · intro kept
    by_contra lost
    exact kept (stripped_of_not_holds desired held lost)

end

/-! ### An alternate address that Google does not take up -/

def withAlternate : MembersRow :=
  { plainMember 1 (str "ana@pdx.org") with alternateEmail := some (str "ana@gmail.com") }

def oneMember : Database := { Database.empty with members := [withAlternate], nextId := 2 }

/-- Every removal is made; an insert answers `outcome`. -/
def answering (outcome : SyncOutcome) : Answers where
  unlisted := fun _ => none
  insert := fun _ _ => outcome
  delete := fun _ _ => .applied
  groupExists := fun _ _ => .ok true
  reread := fun _ => oneMember

def heldByPrimary : RunState Workspace :=
  .start ⟨[], Dict.empty, []⟩ (.opened fun _ => [insertedEntry (str "ana@pdx.org")])

theorem withAlternate_desired :
    DesiredIn ⟨[], Dict.empty, []⟩ oneMember (str "everyone@pdx.org")
      (str "everyone@pdx.org") withAlternate where
  member := List.mem_singleton_self _
  standing := rfl
  unbanned := by decide
  placed := Or.inl rfl
  real := by decide +kernel

theorem access_kept_iff_taken_up :
    let main := str "everyone@pdx.org"
    let statuses : EmailStatuses := ⟨[], Dict.empty, []⟩
    let audience := (audiencesIn statuses oneMember main).at main
    let next := sweepGroup (answering .applied).ports main statuses false heldByPrimary
      (main, audience)
    HoldsMember (next.port.contents main) withAlternate.addresses ↔
      ¬Stripped (answering .applied) main statuses false heldByPrimary main audience
        (casefold (syncTarget withAlternate.addresses statuses))
          (memberKeys withAlternate.addresses) :=
  access_kept_iff withAlternate_desired ⟨insertedEntry (str "ana@pdx.org"), by decide +kernel⟩

/-- The insert of the Google address fails and the primary is removed all the same. -/
theorem failed_insert_strips :
    let main := str "everyone@pdx.org"
    let statuses : EmailStatuses := ⟨[], Dict.empty, []⟩
    let answers := answering .failed
    let audience := (audiencesIn statuses oneMember main).at main
    let next := sweepGroup answers.ports main statuses false heldByPrimary (main, audience)
    DesiredIn statuses oneMember main main withAlternate ∧
      DesiredIn statuses (answers.reread main) main main withAlternate ∧
      (∃ e ∈ heldByPrimary.port.contents main,
        e.plain = true ∧ casefold e.email ∈ memberKeys withAlternate.addresses) ∧
      ¬HoldsMember (next.port.contents main) withAlternate.addresses := by
  refine ⟨withAlternate_desired, withAlternate_desired,
    ⟨insertedEntry (str "ana@pdx.org"), by decide +kernel⟩, ?_⟩
  have empty : (sweepGroup (answering .failed).ports (str "everyone@pdx.org") ⟨[], Dict.empty,
    []⟩ false heldByPrimary
      (str "everyone@pdx.org",
        (audiencesIn ⟨[], Dict.empty, []⟩ oneMember (str "everyone@pdx.org")).at
        (str "everyone@pdx.org"))).port.contents (str "everyone@pdx.org") = [] := by decide +kernel
  rintro ⟨e, member, -⟩
  rw [empty] at member
  cases member

end Rosadmin
