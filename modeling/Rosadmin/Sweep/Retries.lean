import Rosadmin.Foundation.Rounds
import Rosadmin.Db.Audiences
import Rosadmin.Sweep.Discipline

/-!
# Lapsed refusals over a series of sweeps

A run offers again the first lapsed refusals it meets, as many as it has slots
for. Who comes next depends on which of them the run takes out of the lapsed
set, and a failed insert takes out none.
-/

namespace Rosadmin
open Foundation

/-- The address is wanted and not there. -/
def Lacks (desired : Audience) (actual : List GroupMemberEntry) (a : Str) : Prop :=
  a ∈ desired ∧ a ∉ present actual

section
variable (audiences : Audiences) (contents : Email → List GroupMemberEntry)

/-- The addresses with a lapsed refusal that some group lacks. -/
def waiting (lapsed : List Str) : List Str :=
  ((audiences.sorted.flatMap fun p => (missing p.2 (contents p.1)).map (·.address)).filter
    (lower · ∈ lapsed)).dedup

variable (answers : Answers)

/-- Google lists every group and stands behind it. -/
structure Reaches : Prop where
  listed : ∀ p ∈ audiences.sorted, answers.unlisted p.1 = none
  owned : ∀ p ∈ audiences.sorted, answers.disowns p.1 (missing p.2 (contents p.1)) = false

/-- Google has a verdict on every waiting address, and what it refuses for the first time fits under
the fuse. -/
structure Settles (store : StatusStore) (lapsed : List Str) : Prop where
  verdict : ∀ a ∈ waiting audiences contents lapsed, ∃ p ∈ audiences.sorted,
    Lacks p.2 (contents p.1) a ∧
    ((answers.insert p.1 a).accepted = true ∨ answers.refuses p.1 a = true)
  calm : store.bootstrappedRefusalLearning = true → ∃ news : List Str,
    news.length ≤ refusalFuseCeiling ∧
    ∀ p ∈ audiences.sorted, ∀ a, Lacks p.2 (contents p.1) a → answers.refuses p.1 a = true →
      lower a ∉ lapsed → a ∈ news

end

section
variable {audiences : Audiences} {contents : Email → List GroupMemberEntry} {lapsed : List Str}

theorem lacks_iff {desired : Audience} {actual : List GroupMemberEntry} {a : Str} :
    Lacks desired actual a ↔ ∃ planned ∈ missing desired actual, planned.address = a := by
  constructor
  · rintro ⟨wanted, absent⟩
    obtain ⟨id, item⟩ := Dict.mem_iff_item.mp wanted
    exact ⟨⟨a, id⟩, mem_missing.mpr ⟨item, absent⟩, rfl⟩
  · rintro ⟨planned, lacking, rfl⟩
    obtain ⟨item, absent⟩ := mem_missing.mp lacking
    exact ⟨Dict.mem_iff_item.mpr ⟨_, item⟩, absent⟩

theorem mem_waiting {a : Str} :
    a ∈ waiting audiences contents lapsed ↔ (∃ p ∈ audiences.sorted, Lacks p.2 (contents p.1) a) ∧
      lower a ∈ lapsed := by
  simp only [waiting, List.mem_dedup, List.mem_filter, List.mem_flatMap, List.mem_map,
    decide_eq_true_eq, lacks_iff]

end

/-! ### One group -/

section
variable {answers : Answers} {db : Database} {mainGroupEmail : Email} {statuses : EmailStatuses}
  {allowMassRemoval : Bool} {s : RunState Workspace} {p : Email × Audience}

/-- The turn of a listed group that Google stands behind, on tables that stay as they are. -/
structure WholeTurn (answers : Answers) (s next : RunState Workspace) (p : Email × Audience)
    (plan : GroupPlan) : Prop where
  inserts : next.port.inserts = s.port.inserts ++ segment answers p.1 plan.adds
  contents : ∃ removes, (∀ r ∈ removes, casefold r ∉ p.2) ∧
    next.port.contents = Function.update s.port.contents p.1
    (survivors answers p.1 removes (s.port.contents p.1 ++
      (plan.adds.filter (fun a => (answers.insert p.1 a.address).accepted)).map
        (insertedEntry ·.address)))

theorem disowns_of_subset {group : Email} {few many : List PlannedAdd} (fewer : few ⊆ many)
    (owned : answers.disowns group many = false) : answers.disowns group few = false := by
  by_contra disowned
  rw [Bool.not_eq_false, Answers.disowns, Bool.and_eq_true] at disowned
  obtain ⟨a, member, missed⟩ := List.any_eq_true.mp disowned.1
  have whole : many.any (fun a => answers.insert group a.address = .addressNotFound) = true :=
    List.any_eq_true.mpr ⟨a, fewer member, missed⟩
  rw [Answers.disowns, whole, disowned.2] at owned
  cases owned

theorem wholeTurn (same : p.2 = (audiencesIn statuses db mainGroupEmail).at p.1)
    (reread : answers.reread p.1 = db) (listed : answers.unlisted p.1 = none)
    (owned : answers.disowns p.1 (missing p.2 (s.port.contents p.1)) = false) :
    WholeTurn answers s (sweepGroup answers.ports mainGroupEmail statuses allowMassRemoval s p) p
      (s.plan allowMassRemoval p (s.port.contents p.1)) := by
  obtain ⟨done, issued, settled, -, -, -, port⟩ :=
    sweepGroup_listed mainGroupEmail statuses allowMassRemoval s listed
  obtain ⟨g, desired⟩ := p
  dsimp only at same reread listed owned
  have again : ∀ key, key ∈ freshDesired answers mainGroupEmail statuses g ↔ key ∈ desired := by
    intro key
    rw [freshDesired, reread, same]
    exact mem_at_iff_reread.symm
  have folded : ∀ key ∈ desired, casefold key = key := fun key wanted => casefold_at (same ▸ wanted)
  have lacks : ∀ a ∈ (s.plan allowMassRemoval (g, desired) (s.port.contents g)).adds,
      a ∈ missing desired (s.port.contents g) := fun a added => (mem_planGroup_adds.mp added).1
  have adds : (finalPlan answers mainGroupEmail statuses allowMassRemoval s (g, desired)).adds =
      (s.plan allowMassRemoval (g, desired) (s.port.contents g)).adds := by
    rw [finalPlan_adds]
    refine List.filter_eq_self.mpr fun a added => decide_eq_true ?_
    have wanted : a.address ∈ desired := (lacks_iff.mpr ⟨a, lacks a added, rfl⟩).1
    rw [again, folded _ wanted]
    exact wanted
  have group : (finalPlan answers mainGroupEmail statuses allowMassRemoval s
      (g, desired)).groupEmail = g :=
    finalPlan_groupEmail s (g, desired)
  have stands : answers.disowns (finalPlan answers mainGroupEmail statuses allowMassRemoval s
    (g, desired)).groupEmail
      (finalPlan answers mainGroupEmail statuses allowMassRemoval s (g, desired)).adds = false := by
    rw [group, adds]
    exact disowns_of_subset lacks owned
  have whole := settled.complete stands
  refine ⟨?_, (finalPlan answers mainGroupEmail statuses allowMassRemoval s (g, desired)).removes,
    ?_, ?_⟩
  · rw [port, settled.inserts, whole, adds, group]
    rfl
  · exact fun r planned => (mem_finalPlan_removes.mp planned).2.1
  · rw [port, settled.contents, stands, whole, adds, group]
    rfl

/-! ### One run -/

/-- What a run has done for the addresses some group of `pre` lacks. -/
structure Asking (answers : Answers) (statuses : EmailStatuses)
    (contents : Email → List GroupMemberEntry) (pre : List (Email × Audience)) (retried : List Str)
    (s : RunState Workspace) : Prop
    extends Retrying statuses retried s where
  waits : ∀ a ∈ retried, a ∈ statuses.lapsed ∧ ∃ p ∈ pre, Lacks p.2 (contents p.1) a
  offered : ∀ c ∈ s.port.inserts, ∃ p ∈ pre, c.group = p.1 ∧ Lacks p.2 (contents p.1) c.address
  heard : ∀ p ∈ pre, ∀ a, Lacks p.2 (contents p.1) a → a ∉ statuses.live →
    (∃ c ∈ s.port.inserts, c.group = p.1 ∧ c.address = a) ∨
      (∃ c ∈ s.port.inserts, c.address = a ∧ answers.refused c = true) ∨
        (a ∈ s.lapsedRefusals ∧ s.retrySlots = 0)

/-- What a run has done to the groups: no wanted address is gone, and one that is new was
offered. -/
structure Filled (contents : Email → List GroupMemberEntry) (pre : List (Email × Audience))
    (s : RunState Workspace) : Prop where
  untouched : ∀ g, g ∉ pre.map (·.1) → s.port.contents g = contents g
  held : ∀ p ∈ pre, ∀ a ∈ p.2, a ∈ present (contents p.1) → a ∈ present (s.port.contents p.1)
  new : ∀ p ∈ pre, ∀ a ∈ present (s.port.contents p.1), a ∈ present (contents p.1) ∨
    ∃ c ∈ s.port.inserts, casefold c.address = a

section
variable {contents : Email → List GroupMemberEntry} {pre : List (Email × Audience)}
    {retried : List Str} {next : RunState Workspace}

/-- What the group lacks is offered in its turn, refused before it, or left without a slot. -/
theorem asking_here {planned : PlannedAdd} (ledger : Ledger answers statuses (pre.map (·.1)) s)
    (asking : Asking answers statuses contents pre retried s)
    (folded : ∀ q ∈ pre, ∀ key ∈ q.2, casefold key = key)
    (offers : GroupOffers answers allowMassRemoval s next p
      (s.plan allowMassRemoval p (s.port.contents p.1)).adds)
    (lacking : planned ∈ missing p.2 (s.port.contents p.1))
    (closed : planned.address ∉ statuses.live) :
    (∃ c ∈ next.port.inserts, c.group = p.1 ∧ c.address = planned.address) ∨
      (∃ c ∈ next.port.inserts, c.address = planned.address ∧ answers.refused c = true) ∨
      (planned.address ∈ next.lapsedRefusals ∧ next.retrySlots = 0) := by
  let plan := s.plan allowMassRemoval p (s.port.contents p.1)
  rw [offers.inserts, offers.lapsed, offers.slots]
  have issued : ∀ a ∈ plan.adds, ∃ c ∈ s.port.inserts ++ segment answers p.1 plan.adds,
      c.group = p.1 ∧ c.address = a.address := fun a added =>
    ⟨_, List.mem_append_right _ (List.mem_map_of_mem added), rfl, rfl⟩
  by_cases withheld : planned.address ∈ s.unmirrorable
  · rcases (ledger.unmirrorable _).mp withheld with live | ⟨c, earlier, refused, same⟩
    · exact absurd live closed
    · obtain ⟨q, early, -, there⟩ := asking.offered c earlier
      rw [folded q early _ there.1] at same
      exact Or.inr (Or.inl ⟨c, List.mem_append_left _ earlier, same, refused⟩)
  by_cases lapsed : planned.address ∈ s.lapsedRefusals
  · by_cases retry : planned.address ∈ plan.retried
    · obtain ⟨a, added, same⟩ := planGroup_added_of_retried retry
      exact Or.inl (same ▸ issued a added)
    · -- a lapsed address left here found every slot taken
      have retries : retryable s.unmirrorable s.lapsedRefusals planned = true := by
        simp [retryable, withheld, lapsed]
      have full : plan.retried.length = s.retrySlots := planGroup_retried_full lacking retries retry
      have none : s.retrySlots - plan.retried.length = 0 := by omega
      exact Or.inr (Or.inr ⟨List.mem_filter.mpr ⟨lapsed, decide_eq_true retry⟩, none⟩)
  · refine Or.inl (issued planned (mem_planGroup_adds.mpr ⟨lacking, ?_⟩))
    simp [Rosadmin.withheld, withheld, lapsed]

theorem asking_step (ledger : Ledger answers statuses (pre.map (·.1)) s)
    (asking : Asking answers statuses contents pre retried s)
    (unmet : s.port.contents p.1 = contents p.1)
    (folded : ∀ q ∈ pre ++ [p], ∀ key ∈ q.2, casefold key = key)
    (offers : GroupOffers answers allowMassRemoval s next p
      (s.plan allowMassRemoval p (s.port.contents p.1)).adds) :
    Asking answers statuses contents (pre ++ [p])
      (retried ++ (s.plan allowMassRemoval p (s.port.contents p.1)).retried) next := by
  let plan := s.plan allowMassRemoval p (s.port.contents p.1)
  have lapsedHere : ∀ a ∈ plan.retried, a ∈ statuses.lapsed := fun a member =>
    ((asking.lapsed a).mp (planGroup_retried_lapsed member)).1
  have lacksHere : ∀ a ∈ plan.adds, Lacks p.2 (contents p.1) a.address := fun a added =>
    lacks_iff.mpr ⟨a, unmet ▸ (mem_planGroup_adds.mp added).1, rfl⟩
  refine { retrying_offers asking.toRetrying offers with waits := ?_, offered := ?_, heard := ?_ }
  · intro a member
    rcases List.mem_append.mp member with before | here
    · obtain ⟨lapsed, q, early, lacks⟩ := asking.waits a before
      exact ⟨lapsed, q, List.mem_append_left _ early, lacks⟩
    · obtain ⟨added, planned, rfl⟩ := planGroup_added_of_retried here
      exact ⟨lapsedHere _ here, p, List.mem_append_right _ (List.mem_singleton_self p),
        lacksHere added planned⟩
  · intro c member
    rw [offers.inserts] at member
    rcases List.mem_append.mp member with before | here
    · obtain ⟨q, early, group, lacks⟩ := asking.offered c before
      exact ⟨q, List.mem_append_left _ early, group, lacks⟩
    · obtain ⟨a, planned, rfl⟩ := List.mem_map.mp here
      exact ⟨p, List.mem_append_right _ (List.mem_singleton_self p), rfl, lacksHere a planned⟩
  · intro q member a lacks closed
    rcases List.mem_append.mp member with early | here
    · rw [offers.inserts, offers.lapsed, offers.slots]
      rcases asking.heard q early a lacks closed with ⟨c, issued, asked⟩ | ⟨c, issued, refused⟩
        | ⟨lapsed, full⟩
      · exact Or.inl ⟨c, List.mem_append_left _ issued, asked⟩
      · exact Or.inr (Or.inl ⟨c, List.mem_append_left _ issued, refused⟩)
      · -- without slots the group retries nothing
        have fits : plan.retried.length ≤ s.retrySlots := planGroup_retried_length
        have none : plan.retried = [] := List.length_eq_zero_iff.mp (by omega)
        refine Or.inr (Or.inr ⟨List.mem_filter.mpr ⟨lapsed, ?_⟩, by omega⟩)
        show decide (a ∉ plan.retried) = true
        simp [none]
    · obtain rfl := List.mem_singleton.mp here
      obtain ⟨planned, lacking, rfl⟩ := lacks_iff.mp (unmet ▸ lacks)
      exact asking_here ledger asking (fun q early => folded q (List.mem_append_left _ early))
        offers lacking closed

theorem filled_step {plan : GroupPlan} (filled : Filled contents pre s)
    (fresh : p.1 ∉ pre.map (·.1)) (turn : WholeTurn answers s next p plan) :
    Filled contents (pre ++ [p]) next := by
  obtain ⟨inserts, removes, kept, now⟩ := turn
  have unmet := filled.untouched p.1 fresh
  have elsewhere : ∀ g, g ≠ p.1 → next.port.contents g = s.port.contents g := by
    intro g other
    rw [now]
    exact Function.update_of_ne other _ _
  have other : ∀ q ∈ pre, next.port.contents q.1 = s.port.contents q.1 := fun q early =>
    elsewhere q.1 fun same => fresh (same ▸ List.mem_map_of_mem early)
  have here : ∀ e, e ∈ next.port.contents p.1 ↔
      (e ∈ contents p.1 ∨ ∃ a ∈ plan.adds, (answers.insert p.1 a.address).accepted = true ∧
        insertedEntry a.address = e) ∧
        ¬(e.email ∈ removes ∧ answers.delete p.1 e.email = .applied) := by
    intro e
    rw [now, Function.update_self, unmet]
    simp only [survivors, List.mem_filter, List.mem_append, List.mem_map,
      decide_eq_true_eq, and_assoc]
  constructor
  · intro g outside
    rw [List.map_append, List.mem_append, not_or] at outside
    rw [elsewhere g fun same => outside.2 (List.mem_singleton.mpr same),
      filled.untouched g outside.1]
  · intro q member a wanted there
    rcases List.mem_append.mp member with early | last
    · rw [other q early]
      exact filled.held q early a wanted there
    · obtain rfl := List.mem_singleton.mp last
      obtain ⟨e, listed, rfl⟩ := List.mem_map.mp there
      exact List.mem_map_of_mem ((here e).mpr ⟨Or.inl listed, fun removed =>
        kept _ removed.1 wanted⟩)
  · intro q member a there
    rw [inserts]
    rcases List.mem_append.mp member with early | last
    · rw [other q early] at there
      refine (filled.new q early a there).imp_right ?_
      rintro ⟨c, issued, same⟩
      exact ⟨c, List.mem_append_left _ issued, same⟩
    · obtain rfl := List.mem_singleton.mp last
      obtain ⟨e, listed, rfl⟩ := List.mem_map.mp there
      rcases ((here e).mp listed).1 with old | ⟨a, added, -, rfl⟩
      · exact Or.inl (List.mem_map_of_mem old)
      · exact Or.inr ⟨_, List.mem_append_right _ (List.mem_map_of_mem added), rfl⟩

theorem asking_run {audiences : List (Email × Audience)} (reread : ∀ g, answers.reread g = db)
    (same : ∀ p ∈ audiences, p.2 = (audiencesIn statuses db mainGroupEmail).at p.1)
    (listed : ∀ p ∈ audiences, answers.unlisted p.1 = none)
    (owned : ∀ p ∈ audiences, answers.disowns p.1 (missing p.2 (contents p.1)) = false)
    (distinct : (audiences.map (·.1)).Nodup) :
    ∃ retried, Asking answers statuses contents audiences retried
        (runOver answers mainGroupEmail statuses allowMassRemoval contents audiences) ∧
      Filled contents audiences (runOver answers mainGroupEmail statuses allowMassRemoval contents
        audiences) := by
  induction audiences using List.reverseRecOn with
  | nil =>
    refine ⟨[], { retrying_start contents with waits := ?_, offered := ?_, heard := ?_ },
      ?_, ?_, ?_⟩
    · exact fun a none => (nomatch none)
    · exact fun c none => (nomatch none)
    · exact fun p none => (nomatch none)
    · exact fun g _ => rfl
    · exact fun p none => (nomatch none)
    · exact fun p none => (nomatch none)
  | append_singleton pre p ih =>
    have early : pre <+: pre ++ [p] := List.prefix_append _ _
    have last : p ∈ pre ++ [p] := List.mem_append_right _ (List.mem_singleton_self p)
    have before : ∀ q ∈ pre, q ∈ pre ++ [p] := fun q member => List.mem_append_left _ member
    obtain ⟨retried, asking, filled⟩ := ih (fun q member => same q (before q member))
      (fun q member => listed q (before q member)) (fun q member => owned q (before q member))
      (distinct_of_early distinct early)
    have fresh : p.1 ∉ pre.map (·.1) := by
      rw [List.map_append, List.nodup_append] at distinct
      exact fun old => distinct.2.2 _ old _ (List.mem_singleton_self _) rfl
    have ledger : Ledger answers statuses (pre.map (·.1))
        (runOver answers mainGroupEmail statuses allowMassRemoval contents pre) :=
      ledger_runOver (distinct_of_early distinct early)
    rw [runOver_append]
    generalize runOver answers mainGroupEmail statuses allowMassRemoval contents pre = s at *
    have unmet := filled.untouched p.1 fresh
    have turn : WholeTurn answers s
        (sweepGroup answers.ports mainGroupEmail statuses allowMassRemoval s p) p _ :=
      wholeTurn (same p last) (reread p.1) (listed p last) (by rw [unmet]; exact owned p last)
    obtain ⟨lapsed, slots⟩ := sweepGroup_spends mainGroupEmail statuses allowMassRemoval s p
      (listed p last)
    have folded : ∀ q ∈ pre ++ [p], ∀ key ∈ q.2, casefold key = key :=
      fun q member key wanted => casefold_at (same q member ▸ wanted)
    exact ⟨_, asking_step ledger asking unmet folded ⟨turn.inserts, List.Sublist.refl _,
      lapsed, slots⟩, filled_step filled fresh turn⟩

end

end

/-! ### A series of sweeps -/

/-- One sweep of a series: when it begins, what Google answers it, and when its writes land. -/
structure SweepTurn where
  now : Time
  answers : Answers
  clock : Workspace → Time × Workspace

/-- What one sweep leaves for the next. -/
structure Between where
  store : StatusStore
  contents : Email → List GroupMemberEntry

section
variable (db : Database) (mainGroupEmail : Email) (allowMassRemoval : Bool)

def Between.swept (s : Between) (t : SweepTurn) : RunState Workspace :=
  let statuses := emailStatuses s.store t.now
  sweepAudiences t.answers.ports mainGroupEmail statuses allowMassRemoval
    (audiencesIn statuses db mainGroupEmail)
    (.opened s.contents)

def Between.next (s : Between) (t : SweepTurn) : Between :=
  let run := s.swept db mainGroupEmail allowMassRemoval t
  ⟨(closeRun (emailStatuses s.store t.now) (.landing t.clock) false run s.store).2.1,
    run.port.contents⟩

/-- The tables stay as they are; the sweep's writes land at `since` or later, the sweep begins
within a retry period of it, and no refusal that was on record lapses meanwhile. -/
structure Meanwhile (first : StatusStore) (since : Time) (t : SweepTurn) : Prop where
  reread : ∀ g, t.answers.reread g = db
  timely : ∀ w, since ≤ (t.clock w).1
  season : t.now - retryAfter < since
  aging : ∀ key row, first.googleEmailStatus.get? key = some row → row.status ≠ acceptedStatus →
    (t.now - retryAfter < row.observedAt ↔ since - retryAfter < row.observedAt)

end

/-- The rows on record at first are unchanged or written since, under the keys the table allows. -/
structure Ongoing (first : StatusStore) (since : Time) (s : Between) : Prop where
  rows : ∀ key, s.store.googleEmailStatus.get? key = first.googleEmailStatus.get? key ∨
    ∃ row, s.store.googleEmailStatus.get? key = some row ∧ since ≤ row.observedAt
  keyed : ∀ key row, s.store.googleEmailStatus.get? key = some row → casefold key = key →
    lower key = key

section
variable {db : Database} {mainGroupEmail : Email} {allowMassRemoval : Bool} {first : StatusStore}
    {since : Time} {s : Between} {t : SweepTurn} {audiences : Audiences}

theorem lapsed_same (ongoing : Ongoing first since s) (meanwhile : Meanwhile db first since t)
    {key : Str} :
    key ∈ (emailStatuses s.store t.now).lapsed ↔ key ∈ (emailStatuses s.store since).lapsed := by
  rw [mem_lapsed, mem_lapsed]
  refine exists_congr fun row => and_congr_right fun here => and_congr_right fun refused =>
    not_congr ?_
  rcases ongoing.rows key with same | ⟨row', there, written⟩
  · exact meanwhile.aging key row (same ▸ here) refused
  · obtain rfl := Option.some.inj (here.symm.trans there)
    have season := meanwhile.season
    have period : (0 : Time) < retryAfter := by decide
    exact iff_of_true (lt_of_lt_of_le season written)
      (lt_of_lt_of_le (Int.sub_lt_self since period) written)

/-- A folded address whose refusal has lapsed has no live one under its own spelling. -/
theorem Ongoing.unlive (ongoing : Ongoing first since s) {a : Str} {now : Time}
    (folded : casefold a = a) (lapsed : lower a ∈ (emailStatuses s.store now).lapsed) :
    a ∉ (emailStatuses s.store now).live := by
  intro live
  obtain ⟨row, here, refused, young⟩ := mem_live.mp live
  rw [ongoing.keyed a row here folded] at lapsed
  obtain ⟨row', there, -, old⟩ := mem_lapsed.mp lapsed
  obtain rfl := Option.some.inj (here.symm.trans there)
  exact old young

theorem Ongoing.lapsed_lower (ongoing : Ongoing first since s) {a : Str} {now : Time}
    (folded : casefold a = a) (lapsed : a ∈ (emailStatuses s.store now).lapsed) :
    lower a ∈ (emailStatuses s.store now).lapsed := by
  obtain ⟨row, here, -⟩ := mem_lapsed.mp lapsed
  rw [ongoing.keyed a row here folded]
  exact lapsed

variable (db) (mainGroupEmail) (allowMassRemoval) (audiences) (since)

def pendingAt (s : Between) : Finset Str :=
  (waiting audiences s.contents (emailStatuses s.store since).lapsed).toFinset

def servedBy (s : Between) (t : SweepTurn) : Finset Str :=
  ((s.swept db mainGroupEmail allowMassRemoval t).port.inserts.map (·.address)).toFinset

variable {db} {mainGroupEmail} {allowMassRemoval} {audiences} {since}

theorem mem_pendingAt {a : Str} : a ∈ pendingAt since audiences s ↔
    (∃ p ∈ audiences.sorted, Lacks p.2 (s.contents p.1) a) ∧
      lower a ∈ (emailStatuses s.store since).lapsed := by
  rw [pendingAt, List.mem_toFinset, mem_waiting]

theorem mem_servedBy {a : Str} : a ∈ servedBy db mainGroupEmail allowMassRemoval s t ↔
    ∃ c ∈ (s.swept db mainGroupEmail allowMassRemoval t).port.inserts, c.address = a := by
  rw [servedBy, List.mem_toFinset, List.mem_map]

/-- A sweep of the series: the audiences are the same, and Google lists every group and stands
behind it. -/
structure Sound (db : Database) (mainGroupEmail : Email) (first : StatusStore) (since : Time)
    (audiences : Audiences) (s : Between) (t : SweepTurn) : Prop where
  meanwhile : Meanwhile db first since t
  steady : audiencesIn (emailStatuses s.store t.now) db mainGroupEmail = audiences
  reaches : Reaches audiences s.contents t.answers

theorem Sound.swept_eq (sound : Sound db mainGroupEmail first since audiences s t)
    (allowMassRemoval : Bool) :
    s.swept db mainGroupEmail allowMassRemoval t = runOver t.answers mainGroupEmail
      (emailStatuses s.store t.now)
      allowMassRemoval s.contents audiences.sorted := by
  show sweepAudiences _ _ _ _ _ _ = _
  rw [sound.steady]
  rfl

theorem Sound.asking (sound : Sound db mainGroupEmail first since audiences s t)
    (allowMassRemoval : Bool) : let run := s.swept db mainGroupEmail allowMassRemoval t
    ∃ retried, Asking t.answers (emailStatuses s.store t.now) s.contents audiences.sorted
      retried run ∧ Filled s.contents audiences.sorted run := by
  intro run
  have runAs : run = _ := sound.swept_eq allowMassRemoval
  rw [runAs]
  refine asking_run sound.meanwhile.reread (fun p member => ?_) sound.reaches.listed
    sound.reaches.owned
    (Dict.sorted_keys_nodup audiences)
  rw [sound.steady]
  exact (at_of_sorted member).symm

theorem Sound.ledger (sound : Sound db mainGroupEmail first since audiences s t)
    (allowMassRemoval : Bool) :
    Ledger t.answers (emailStatuses s.store t.now) (audiences.sorted.map (·.1))
      (s.swept db mainGroupEmail allowMassRemoval t) := by
  rw [sound.swept_eq]
  exact ledger_runOver (Dict.sorted_keys_nodup audiences)

theorem Sound.unrepeated (sound : Sound db mainGroupEmail first since audiences s t)
    (allowMassRemoval : Bool) :
    Unrepeated t.answers (emailStatuses s.store t.now)
      (s.swept db mainGroupEmail allowMassRemoval t).port.inserts := by
  rw [sound.swept_eq]
  apply unrepeated_run s.contents (Dict.sorted_keys_nodup audiences)
  intro p member key wanted
  rw [← at_of_sorted member, ← sound.steady] at wanted
  exact casefold_at wanted

theorem Sound.folded (sound : Sound db mainGroupEmail first since audiences s t)
    {p : Email × Audience} (member : p ∈ audiences.sorted) {a : Str}
    (lacks : Lacks p.2 (s.contents p.1) a) :
    casefold a = a := by
  have wanted := lacks.1
  rw [← at_of_sorted member, ← sound.steady] at wanted
  exact casefold_at wanted

theorem served_enough (ongoing : Ongoing first since s)
    (sound : Sound db mainGroupEmail first since audiences s t)
    (some : ¬pendingAt since audiences s ⊆ servedBy db mainGroupEmail allowMassRemoval s t) :
    retriesPerRun ≤ (pendingAt since audiences s ∩ servedBy db mainGroupEmail allowMassRemoval s
      t).card := by
  obtain ⟨a, waits, unasked⟩ := Finset.not_subset.mp some
  obtain ⟨⟨p, member, lacks⟩, lapsed⟩ := mem_pendingAt.mp waits
  rw [mem_servedBy] at unasked
  obtain ⟨retried, asking, -⟩ := sound.asking allowMassRemoval
  have open_ := ongoing.unlive (sound.folded member lacks)
    ((lapsed_same ongoing sound.meanwhile).mpr lapsed)
  -- an address passed over finds the slots spent
  obtain ⟨-, full⟩ : a ∈ (s.swept db mainGroupEmail allowMassRemoval t).lapsedRefusals ∧
      (s.swept db mainGroupEmail allowMassRemoval t).retrySlots = 0 := by
    rcases asking.heard p member a lacks open_ with ⟨c, issued, -, same⟩
      | ⟨c, issued, same, -⟩ | spent
    · exact absurd ⟨c, issued, same⟩ unasked
    · exact absurd ⟨c, issued, same⟩ unasked
    · exact spent
  have count : retried.toFinset.card = retriesPerRun := by
    rw [List.toFinset_card_of_nodup asking.distinct]
    have slots := asking.slots
    omega
  rw [← count]
  refine Finset.card_le_card fun b retry => Finset.mem_inter.mpr ?_
  rw [List.mem_toFinset] at retry
  obtain ⟨old, q, there, lacksIt⟩ := asking.waits b retry
  have spelled := sound.folded there lacksIt
  have lowered := ongoing.lapsed_lower spelled old
  refine ⟨mem_pendingAt.mpr ⟨⟨q, there, lacksIt⟩, (lapsed_same ongoing sound.meanwhile).mp lowered⟩,
    mem_servedBy.mpr ?_⟩
  rcases asking.heard q there b lacksIt (ongoing.unlive spelled lowered) with ⟨c, issued, -, same⟩
    | ⟨c, issued, same, -⟩ |
    ⟨left, -⟩
  · exact ⟨c, issued, same⟩
  · exact ⟨c, issued, same⟩
  · exact absurd retry ((asking.lapsed b).mp left).2

/-! ### What a sweep writes -/

section
variable (statuses : EmailStatuses) (store : StatusStore)

/-- The keys a run's closing writes. -/
def closingKeys {σ : Type} (run : RunState σ) : List Str :=
  (if refusalFuseTrips store statuses.lapsed run.refusals then []
    else run.refusals.map (fun r => lower r.address)) ++
    (run.accepted.filter (fun a => lower a ∉ statuses.accepted)).map lower

theorem closeRun_rewrites {σ : Type} {clock : σ → Time × σ}
    (timely : ∀ port, since ≤ (clock port).1) (run : RunState σ) :
    Rewritten since (closingKeys statuses store run) store
      (closeRun statuses (.landing clock) false run store).2.1 := by
  unfold closeRun
  rw [if_neg Bool.false_ne_true]
  exact (rewritten_commitRefusals timely run.refusals statuses.lapsed store run.port).append
    (rewritten_rememberAccepted timely _ _ _)

end

variable {run : RunState Workspace} {retried : List Str} {swept : List Email} {answers : Answers}
  {statuses : EmailStatuses} {contents : Email → List GroupMemberEntry}

theorem believed_of_refused (owned : ∀ p ∈ audiences.sorted,
    answers.disowns p.1 (missing p.2 (contents p.1)) = false)
    (ledger : Ledger answers statuses swept run)
    (asking : Asking answers statuses contents audiences.sorted retried run) {c : Insert}
    (issued : c ∈ run.port.inserts) (refused : answers.refused c = true) :
    c ∈ answers.believed run.port.inserts := by
  refine List.mem_filter.mpr ⟨issued, ?_⟩
  rw [refused, Bool.true_and, Bool.not_eq_true']
  by_contra disowned
  rw [Bool.not_eq_false, Answers.disownsIn, Bool.and_eq_true] at disowned
  obtain ⟨d, offered, missed⟩ := List.any_eq_true.mp disowned.1
  obtain ⟨p, member, group, lacks⟩ := asking.offered d offered
  obtain ⟨planned, lacking, same⟩ := lacks_iff.mp lacks
  rw [Bool.and_eq_true, decide_eq_true_eq, decide_eq_true_eq] at missed
  have own : c.group = p.1 := missed.1.symm.trans group
  have some : (missing p.2 (contents p.1)).any
      (fun a => answers.insert p.1 a.address = .addressNotFound) = true := by
    refine List.any_eq_true.mpr ⟨planned, lacking, decide_eq_true ?_⟩
    rw [same, ← group, ← ledger.outcomes d offered]
    exact missed.2
  have never := owned p member
  rw [Answers.disowns, some, ← own, disowned.2] at never
  cases never

theorem offered_of_written (ledger : Ledger answers statuses swept run) {store : StatusStore}
    {key : Str} (written : key ∈ closingKeys statuses store run) :
    ∃ c ∈ run.port.inserts, lower c.address = key := by
  rcases List.mem_append.mp written with refused | taken
  · split at refused
    · cases refused
    obtain ⟨r, held, rfl⟩ := List.mem_map.mp refused
    have origin : r.origin ∈ answers.believed run.port.inserts :=
      ledger.refusals ▸ List.mem_map_of_mem held
    exact ⟨r.origin, (List.mem_filter.mp origin).1, rfl⟩
  · obtain ⟨a, filtered, rfl⟩ := List.mem_map.mp taken
    obtain ⟨c, issued, -, rfl⟩ := (ledger.accepted a).mp (List.mem_filter.mp filtered).1
    exact ⟨c, issued, rfl⟩

theorem written_of_accepted (ledger : Ledger answers statuses swept run) {store : StatusStore}
    {c : Insert} (issued : c ∈ run.port.inserts) (took : c.outcome.accepted = true)
    (unknown : lower c.address ∉ statuses.accepted) :
    lower c.address ∈ closingKeys statuses store run := by
  refine List.mem_append_right _ (List.mem_map_of_mem
    (List.mem_filter.mpr ⟨?_, decide_eq_true unknown⟩))
  exact (ledger.accepted _).mpr ⟨c, issued, took, rfl⟩

theorem written_of_believed (ledger : Ledger answers statuses swept run) {store : StatusStore}
    {c : Insert} (believed : c ∈ answers.believed run.port.inserts)
    (calm : refusalFuseTrips store statuses.lapsed run.refusals = false) :
    lower c.address ∈ closingKeys statuses store run := by
  rw [← ledger.refusals] at believed
  obtain ⟨r, held, rfl⟩ := List.mem_map.mp believed
  refine List.mem_append_left _ ?_
  rw [calm, if_neg Bool.false_ne_true]
  exact List.mem_map_of_mem held

/-- A batch whose news come from few addresses does not trip the fuse: a run meets no refused
address twice. -/
theorem calm_of_news {news : List Str} {store : StatusStore}
    (ledger : Ledger answers statuses swept run)
    (unrepeated : Unrepeated answers statuses run.port.inserts)
    (few : news.length ≤ refusalFuseCeiling)
    (covers : ∀ c ∈ run.port.inserts, answers.refused c = true → lower c.address ∉ statuses.lapsed →
      c.address ∈ news) :
    refusalFuseTrips store statuses.lapsed run.refusals = false := by
  have refused : ∀ c ∈ answers.believed run.port.inserts,
      c ∈ run.port.inserts ∧ answers.refused c = true := by
    intro c believed
    obtain ⟨issued, both⟩ := List.mem_filter.mp believed
    exact ⟨issued, (Bool.and_eq_true _ _ ▸ both).1⟩
  have once : ((answers.believed run.port.inserts).map (·.address)).Nodup := by
    refine List.pairwise_map.mpr ((unrepeated.once.sublist List.filter_sublist).imp_of_mem ?_)
    intro c d believed _ apart same
    exact apart (refused c believed).2 same.symm
  have count : refusalNews statuses.lapsed run.refusals ≤ news.length := by
    rw [ledger.news, List.countP_eq_length_filter, ← List.length_map (·.address)]
    apply (once.sublist (List.filter_sublist.map _)).length_le_of_subset
    intro a member
    obtain ⟨c, filtered, rfl⟩ := List.mem_map.mp member
    obtain ⟨believed, fresh⟩ := List.mem_filter.mp filtered
    obtain ⟨issued, turned⟩ := refused c believed
    exact covers c issued turned (of_decide_eq_true fresh)
  unfold refusalFuseTrips
  rw [decide_eq_false (by omega), Bool.and_false]

/-! ### What is still pending after a sweep -/

theorem folded_of_offered (sound : Sound db mainGroupEmail first since audiences s t)
    (asking : Asking t.answers statuses s.contents audiences.sorted retried run) {c : Insert}
    (issued : c ∈ run.port.inserts) : casefold c.address = c.address := by
  obtain ⟨p, member, -, lacks⟩ := asking.offered c issued
  exact sound.folded member lacks

/-- Two addresses of the groups are written under one key only if they are one. -/
theorem address_of_key {a b : Str} (foldedA : casefold a = a) (foldedB : casefold b = b)
    (same : lower a = lower b) : a = b := by
  rw [← foldedA, ← casefold_lower a, same, casefold_lower, foldedB]

theorem ongoing_next (ongoing : Ongoing first since s)
    (sound : Sound db mainGroupEmail first since audiences s t) :
    Ongoing first since (s.next db mainGroupEmail allowMassRemoval t) := by
  obtain ⟨retried, asking, -⟩ := sound.asking allowMassRemoval
  have ledger := sound.ledger allowMassRemoval
  have rewritten : Rewritten since _ s.store (s.next db mainGroupEmail allowMassRemoval t).store :=
    closeRun_rewrites (emailStatuses s.store t.now) s.store sound.meanwhile.timely _
  constructor
  · intro key
    by_cases written : key ∈ closingKeys (emailStatuses s.store t.now) s.store
        (s.swept db mainGroupEmail allowMassRemoval t)
    · exact Or.inr (rewritten.fresh key written)
    · rw [rewritten.kept key written]
      exact ongoing.rows key
  · intro key row here spelled
    by_cases written : key ∈ closingKeys (emailStatuses s.store t.now) s.store
        (s.swept db mainGroupEmail allowMassRemoval t)
    · obtain ⟨c, issued, rfl⟩ := offered_of_written ledger written
      have folded := folded_of_offered sound asking issued
      rw [casefold_lower, folded] at spelled
      exact congrArg lower spelled.symm
    · rw [rewritten.kept key written] at here
      exact ongoing.keyed key row here spelled

/-- An address with a verdict of this sweep has left the lapsed set. -/
theorem written_of_asked (ongoing : Ongoing first since s)
    (sound : Sound db mainGroupEmail first since audiences s t)
    (settles : Settles audiences s.contents t.answers s.store (emailStatuses s.store t.now).lapsed)
    {a : Str} (waits : a ∈ pendingAt since audiences s)
    (asked : a ∈ servedBy db mainGroupEmail allowMassRemoval s t) :
    lower a ∈ closingKeys (emailStatuses s.store t.now) s.store
      (s.swept db mainGroupEmail allowMassRemoval t) := by
  obtain ⟨retried, asking, -⟩ := sound.asking allowMassRemoval
  have ledger := sound.ledger allowMassRemoval
  have unrepeated := sound.unrepeated allowMassRemoval
  obtain ⟨c, issued, rfl⟩ := mem_servedBy.mp asked
  generalize s.swept db mainGroupEmail allowMassRemoval t = run at *
  obtain ⟨some, lapsed⟩ := mem_pendingAt.mp waits
  have old := (lapsed_same ongoing sound.meanwhile).mpr lapsed
  have spelled := folded_of_offered sound asking issued
  have calm : refusalFuseTrips s.store (emailStatuses s.store t.now).lapsed run.refusals =
      false := by
    cases armed : s.store.bootstrappedRefusalLearning with
    | false => simp [refusalFuseTrips, armed]
    | true =>
      obtain ⟨news, few, covers⟩ := settles.calm armed
      apply calm_of_news ledger unrepeated few
      intro d offered refused fresh
      obtain ⟨p, member, group, lacks⟩ := asking.offered d offered
      exact covers p member d.address lacks (group ▸ refused) fresh
  have refusedWritten : ∀ d ∈ run.port.inserts, t.answers.refused d = true → d.address = c.address →
      lower c.address ∈ closingKeys (emailStatuses s.store t.now) s.store run := by
    intro d offered refused same
    rw [← same]
    exact written_of_believed ledger
      (believed_of_refused sound.reaches.owned ledger asking offered refused) calm
  obtain ⟨p, member, lacks, verdict⟩ := settles.verdict c.address (mem_waiting.mpr ⟨some, old⟩)
  rcases asking.heard p member c.address lacks (ongoing.unlive spelled old) with
    ⟨d, offered, group, same⟩ | ⟨d, offered, same, refused⟩ | ⟨left, -⟩
  · rcases verdict with took | turned
    · rw [← same]
      refine written_of_accepted ledger offered ?_ fun known => ?_
      · rw [ledger.outcomes d offered, group, same]
        exact took
      · obtain ⟨row, here, refused, -⟩ := mem_lapsed.mp old
        rw [same, mem_accepted, StatusStore.statusOf, here] at known
        exact refused (Option.some.inj known)
    · refine refusedWritten d offered ?_ same
      rw [Answers.refused, group, same]
      exact turned
  · exact refusedWritten d offered refused same
  · -- a lapsed address that was asked about was retried
    obtain ⟨listed, fresh⟩ := (asking.lapsed c.address).mp left
    exact absurd (asking.spent c issued listed) fresh

theorem pending_next (ongoing : Ongoing first since s)
    (sound : Sound db mainGroupEmail first since audiences s t)
    (settles : Settles audiences s.contents t.answers s.store
      (emailStatuses s.store t.now).lapsed) :
    pendingAt since audiences (s.next db mainGroupEmail allowMassRemoval t) =
      pendingAt since audiences s \ servedBy db mainGroupEmail allowMassRemoval s t := by
  obtain ⟨retried, asking, filled⟩ := sound.asking allowMassRemoval
  have ledger := sound.ledger allowMassRemoval
  have rewritten : Rewritten since _ s.store (s.next db mainGroupEmail allowMassRemoval t).store :=
    closeRun_rewrites (emailStatuses s.store t.now) s.store sound.meanwhile.timely _
  have contents : (s.next db mainGroupEmail allowMassRemoval t).contents =
      (s.swept db mainGroupEmail allowMassRemoval t).port.contents := rfl
  ext a
  rw [Finset.mem_sdiff]
  constructor
  · intro waits
    obtain ⟨⟨p, member, wanted, absent⟩, lapsed⟩ := mem_pendingAt.mp waits
    obtain ⟨before, unwritten⟩ := (rewritten.lapsed _).mp lapsed
    have waited : a ∈ pendingAt since audiences s := by
      refine mem_pendingAt.mpr ⟨⟨p, member, wanted, fun there => absent ?_⟩, before⟩
      rw [contents]
      exact filled.held p member a wanted there
    exact ⟨waited, fun asked => unwritten (written_of_asked ongoing sound settles waited asked)⟩
  · rintro ⟨waits, unasked⟩
    obtain ⟨⟨p, member, lacks⟩, lapsed⟩ := mem_pendingAt.mp waits
    have spelled := sound.folded member lacks
    rw [mem_servedBy] at unasked
    refine mem_pendingAt.mpr ⟨⟨p, member, lacks.1, fun there => ?_⟩,
      (rewritten.lapsed _).mpr ⟨lapsed, fun written => ?_⟩⟩
    · rw [contents] at there
      rcases filled.new p member a there with before | ⟨c, issued, same⟩
      · exact lacks.2 before
      · rw [folded_of_offered sound asking issued] at same
        exact unasked ⟨c, issued, same⟩
    · obtain ⟨c, issued, same⟩ := offered_of_written ledger written
      exact unasked ⟨c, issued, address_of_key (folded_of_offered sound asking issued) spelled same⟩

end

/-- In a series of sweeps that Google answers with a verdict, every address that waits at the start
is offered within the sweeps its number takes. The last sweep may fail. -/
theorem waiting_all_offered {db : Database} {mainGroupEmail : Email} {allowMassRemoval : Bool}
    {start : Between} {turns : List SweepTurn} {since : Time} {audiences : Audiences}
    (keyed : ∀ key ∈ start.store.googleEmailStatus, lower key = key)
    (meanwhile : ∀ t ∈ turns, Meanwhile db start.store since t)
    (steady : Guarded (Between.next db mainGroupEmail allowMassRemoval)
      (fun s t => audiencesIn (emailStatuses s.store t.now) db mainGroupEmail = audiences)
        start turns)
    (reached : Guarded (Between.next db mainGroupEmail allowMassRemoval)
      (fun s t => Reaches audiences s.contents t.answers) start turns)
    (settled : Guarded (Between.next db mainGroupEmail allowMassRemoval)
      (fun s t => Settles audiences s.contents t.answers s.store
        (emailStatuses s.store t.now).lapsed) start turns.dropLast)
    (enough : (waiting audiences start.contents (emailStatuses start.store since).lapsed).length ≤
      retriesPerRun * turns.length) :
    ∀ a ∈ waiting audiences start.contents (emailStatuses start.store since).lapsed,
      ∃ pre t post, turns = pre ++ t :: post ∧
        ∃ c ∈ ((pre.foldl (Between.next db mainGroupEmail allowMassRemoval) start).swept db
          mainGroupEmail allowMassRemoval t).port.inserts, c.address = a := by
  intro a waits
  have began : Ongoing start.store since start :=
    ⟨fun key => Or.inl rfl, fun key row here _ => keyed key (Dict.mem_of_get? here)⟩
  have timely : Guarded (Between.next db mainGroupEmail allowMassRemoval)
      (fun _ t => Meanwhile db start.store since t) start turns := guarded_of_events meanwhile start
  have sound : Guarded (Between.next db mainGroupEmail allowMassRemoval)
      (Sound db mainGroupEmail start.store since audiences) start turns :=
    guarded_imp (fun s t both => ⟨both.1, both.2.1, both.2.2⟩)
      (guarded_and timely (guarded_and steady reached))
  have progress : ∀ s t, Ongoing start.store since s →
      Sound db mainGroupEmail start.store since audiences s t →
        ¬pendingAt since audiences s ⊆ servedBy db mainGroupEmail allowMassRemoval s t →
          retriesPerRun ≤
          (pendingAt since audiences s ∩ servedBy db mainGroupEmail allowMassRemoval s t).card :=
    fun s t ongoing sound some => served_enough ongoing sound some
  have settles : ∀ s t, Ongoing start.store since s →
      Sound db mainGroupEmail start.store since audiences s t →
        Settles audiences s.contents t.answers s.store (emailStatuses s.store t.now).lapsed →
        Ongoing start.store since (Between.next db mainGroupEmail allowMassRemoval s t) ∧
          pendingAt since audiences (Between.next db mainGroupEmail allowMassRemoval s t) =
            pendingAt since audiences s \ servedBy db mainGroupEmail allowMassRemoval s t :=
    fun s t ongoing sound settles =>
      ⟨ongoing_next ongoing sound, pending_next ongoing sound settles⟩
  have few : (pendingAt since audiences start).card ≤ retriesPerRun * turns.length :=
    (List.toFinset_card_le _).trans enough
  obtain ⟨pre, t, post, whole, asked⟩ :=
    served_of_rounds progress settles began sound settled few a (List.mem_toFinset.mpr waits)
  exact ⟨pre, t, post, whole, mem_servedBy.mp asked⟩

/-! ### One more lapsed refusal than a run has slots -/

def cohortAddress (n : Nat) : Email := [0x61 + n, 0x40, 0x78]

def cohort : Database :=
  { Database.empty with
    members := (List.range 26).map (fun n => plainMember n (cohortAddress n))
    nextId := 26 }

/-- Every address of the cohort was refused at the start of time. -/
def cohortStore : StatusStore :=
  ⟨(List.range 26).foldl (fun d n => d.set (cohortAddress n) ⟨SyncOutcome.noGoogleAccount.value, 0⟩)
    Dict.empty, true⟩

def cohortStart : Between := ⟨cohortStore, fun _ => []⟩

def cohortGroup : Email := str "everyone@pdx.org"

def cohortAudiences : Audiences :=
  audiencesIn (emailStatuses cohortStore retryAfter) cohort cohortGroup

/-- A sweep a retry period later, in which every insert has the one outcome. -/
def cohortTurn (outcome : SyncOutcome) : SweepTurn where
  now := retryAfter
  answers := ⟨fun _ => none, fun _ _ => outcome, fun _ _ => .applied, fun _ _ =>
    .ok true, fun _ => cohort⟩
  clock := fun w => (retryAfter, w)

theorem cohort_meanwhile (outcome : SyncOutcome) :
    Meanwhile cohort cohortStore retryAfter (cohortTurn outcome) where
  reread _ := rfl
  timely _ := le_refl _
  season := Int.sub_lt_self retryAfter (by decide)
  aging _ _ _ _ := Iff.rfl

theorem cohort_reaches {outcome : SyncOutcome} (readable : outcome ≠ .addressNotFound)
    (contents : Email → List GroupMemberEntry) :
    Reaches cohortAudiences contents (cohortTurn outcome).answers where
  listed _ _ := rfl
  owned p _ := by
    have unmet : ∀ adds : List PlannedAdd, adds.any (fun a =>
        (cohortTurn outcome).answers.insert p.1 a.address = .addressNotFound) = false :=
      fun adds => List.any_eq_false.mpr fun a _ => by
        show ¬decide (outcome = .addressNotFound) = true
        rw [decide_eq_true_eq]
        exact readable
    rw [Answers.disowns, unmet, Bool.false_and]

/-- The tables the two sweeps of a series read give the same groups. -/
theorem cohort_steady {first last : SyncOutcome}
    (same : audiencesIn (emailStatuses (cohortStart.next cohort cohortGroup
    false (cohortTurn first)).store retryAfter) cohort cohortGroup = cohortAudiences) :
    Guarded (Between.next cohort cohortGroup false)
      (fun s t => audiencesIn (emailStatuses s.store t.now) cohort cohortGroup = cohortAudiences)
        cohortStart
      [cohortTurn first, cohortTurn last] := by
  refine ⟨?_, same, trivial⟩
  rfl

theorem cohort_reached {first last : SyncOutcome}
    (readable : first ≠ .addressNotFound ∧ last ≠ .addressNotFound) :
    Guarded (Between.next cohort cohortGroup false)
      (fun s t => Reaches cohortAudiences s.contents t.answers) cohortStart
      [cohortTurn first, cohortTurn last] :=
  ⟨cohort_reaches readable.1 _, cohort_reaches readable.2 _, trivial⟩

theorem cohort_keyed : ∀ key ∈ cohortStore.googleEmailStatus, lower key = key := by
  have all : ∀ key ∈ cohortStore.googleEmailStatus.keys, lower key = key := by decide +kernel
  exact fun key member => all key member

/-- Twenty-five inserts that fail hold the slots of every sweep, and the last address is never
offered. -/
theorem lapsed_refusal_starved :
    let next := Between.next cohort cohortGroup false
    let turns := [cohortTurn .failed, cohortTurn .failed]
    let lapsed := (emailStatuses cohortStore retryAfter).lapsed
    (∀ t ∈ turns, Meanwhile cohort cohortStore retryAfter t) ∧
      Guarded next (fun s t => audiencesIn (emailStatuses s.store t.now) cohort cohortGroup =
        cohortAudiences)
        cohortStart turns ∧
      Guarded next (fun s t => Reaches cohortAudiences s.contents t.answers) cohortStart turns ∧
      turns.length = ((waiting cohortAudiences cohortStart.contents lapsed).length +
        24) / retriesPerRun ∧
      ¬∀ a ∈ waiting cohortAudiences cohortStart.contents lapsed, ∃ pre t post,
        turns = pre ++ t :: post ∧
        ∃ c ∈ ((pre.foldl next cohortStart).swept cohort cohortGroup false t).port.inserts,
          c.address = a := by
  intro next turns lapsed
  have one : ∀ t ∈ turns, t = cohortTurn .failed := by simp [turns]
  have steady : audiencesIn
    (emailStatuses (cohortStart.next cohort cohortGroup false (cohortTurn .failed)).store
      retryAfter) cohort cohortGroup = cohortAudiences := by decide +kernel
  have count : turns.length = ((waiting cohortAudiences cohortStart.contents lapsed).length +
      24) / retriesPerRun := by
    decide +kernel
  have waits : cohortAddress 25 ∈ waiting cohortAudiences cohortStart.contents lapsed :=
    by decide +kernel
  have first : ∀ c ∈ (cohortStart.swept cohort cohortGroup false (cohortTurn .failed)).port.inserts,
      c.address ≠ cohortAddress 25 := by decide +kernel
  have second : ∀ c ∈ ((cohortStart.next cohort cohortGroup false (cohortTurn .failed)).swept cohort
    cohortGroup false
      (cohortTurn .failed)).port.inserts, c.address ≠ cohortAddress 25 := by decide +kernel
  refine ⟨fun t member => ?_, cohort_steady steady, cohort_reached ⟨by decide, by decide⟩, count,
    fun offered => ?_⟩
  · rw [one t member]
    exact cohort_meanwhile .failed
  obtain ⟨pre, t, post, whole, c, issued, same⟩ := offered (cohortAddress 25) waits
  obtain rfl := one t (whole ▸ List.mem_append_right _ List.mem_cons_self)
  cases pre with
  | nil =>
    rw [List.foldl_nil] at issued
    exact first c issued same
  | cons u pre =>
    obtain rfl := one u (whole ▸ List.mem_cons_self)
    cases pre with
    | nil =>
      simp only [List.foldl_cons, List.foldl_nil, next] at issued
      exact second c issued same
    | cons v pre =>
      have length := congrArg List.length whole
      simp only [turns, List.length_cons, List.length_append, List.length_nil] at length
      omega

/-- The same cohort refused once more is offered whole, though the second sweep fails. -/
theorem waiting_all_offered_cohort :
    let next := Between.next cohort cohortGroup false
    let turns := [cohortTurn .noGoogleAccount, cohortTurn .failed]
    ∀ a ∈ waiting cohortAudiences cohortStart.contents
      (emailStatuses cohortStore retryAfter).lapsed, ∃ pre t post, turns = pre ++ t :: post ∧
        ∃ c ∈ ((pre.foldl next cohortStart).swept cohort cohortGroup false t).port.inserts,
          c.address = a := by
  intro next turns
  have steady : audiencesIn
    (emailStatuses (cohortStart.next cohort cohortGroup false (cohortTurn .noGoogleAccount)).store
      retryAfter) cohort cohortGroup = cohortAudiences := by decide +kernel
  have all : ∀ p ∈ cohortAudiences.sorted, ∀ key ∈ p.2.keys,
      lower key ∈ (emailStatuses cohortStore retryAfter).lapsed := by decide +kernel
  have enough : (waiting cohortAudiences cohortStart.contents
    (emailStatuses cohortStore retryAfter).lapsed).length ≤
      retriesPerRun * turns.length := by decide +kernel
  have settles : Settles cohortAudiences cohortStart.contents
      (cohortTurn .noGoogleAccount).answers cohortStore
        (emailStatuses cohortStore retryAfter).lapsed := by
    refine ⟨fun a waits => ?_, fun _ => ⟨[], Nat.zero_le _, fun p member a lacks _ fresh => ?_⟩⟩
    · obtain ⟨⟨p, member, lacks⟩, -⟩ := mem_waiting.mp waits
      exact ⟨p, member, lacks, Or.inr rfl⟩
    · exact absurd (all p member a lacks.1) fresh
  have meanwhile : ∀ t ∈ turns, Meanwhile cohort cohortStore retryAfter t :=
    List.forall_mem_cons.mpr ⟨cohort_meanwhile _,
      List.forall_mem_singleton.mpr (cohort_meanwhile _)⟩
  exact waiting_all_offered cohort_keyed meanwhile (cohort_steady steady)
    (cohort_reached ⟨by decide, by decide⟩)
    ⟨settles, trivial⟩ enough

end Rosadmin
