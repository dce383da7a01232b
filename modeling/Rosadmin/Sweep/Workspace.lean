import Mathlib.Logic.Function.Basic
import Rosadmin.Sweep.Run

/-!
# A workspace that answers anything

A run lists a group once, offers it an address once and asks after it in turn.
So an answer for each group and address, and one for each group and turn, is
any sequence of answers a run can meet.
-/

namespace Rosadmin
open Foundation

structure Answers where
  /-- Why a listing fails, if it does. -/
  unlisted : Email → Option HttpError
  insert : Email → Email → SyncOutcome
  delete : Email → Email → SyncOutcome
  groupExists : Email → Nat → Except HttpError Bool
  /-- The tables as they stand when a group is read again. -/
  reread : Email → Database

structure Insert where
  group : Email
  address : Email
  outcome : SyncOutcome
  deriving DecidableEq

structure Workspace where
  contents : Email → List GroupMemberEntry
  /-- The group listed last, and how often it has been asked after since. -/
  current : Email
  asked : Nat
  inserts : List Insert

def insertedEntry (address : Email) : GroupMemberEntry :=
  ⟨address, .member, some (str "ACTIVE"), some (str "USER")⟩

namespace Workspace

def add (answers : Answers) (group address : Email) (w : Workspace) : SyncOutcome × Workspace :=
  let outcome := answers.insert group address
  (outcome, { w with
    inserts := w.inserts ++ [⟨group, address, outcome⟩]
    contents := if outcome.accepted then Function.update w.contents group
      (w.contents group ++ [insertedEntry address])
      else w.contents })

def remove (answers : Answers) (group address : Email) (w : Workspace) : SyncOutcome × Workspace :=
  let outcome := answers.delete group address
  (outcome, { w with
    contents := if outcome = .applied then Function.update w.contents group
      ((w.contents group).filter (·.email ≠ address))
      else w.contents })

def opened (contents : Email → List GroupMemberEntry) : Workspace := ⟨contents, [], 0, []⟩

def listing (w : Workspace) (group : Email) : Workspace := { w with current := group, asked := 0 }

def listed (answers : Answers) (group : Email) (w : Workspace) :
    Except HttpError (List GroupMemberEntry) :=
  match answers.unlisted group with
  | some error => .error error
  | none => .ok (w.contents group)

end Workspace

/-- The ports of a workspace. A sweep only ever names a group. -/
def Answers.ports (answers : Answers) : Ports Workspace where
  sync :=
    { add := fun group address w => match group with
        | none => (.skippedUnlinked, w)
        | some group => w.add answers group address
      remove := fun group address w => match group with
        | none => (.skippedUnlinked, w)
        | some group => w.remove answers group address }
  lister :=
    { list := fun group w => (w.listed answers group, w.listing group)
      groupExists := fun group w => (answers.groupExists group w.asked,
        { w with asked := w.asked + 1 }) }
  audit := fun _ w => w
  pool := fun w => (answers.reread w.current, w)

/-! ### What the adds of one group meet -/

section
variable (answers : Answers)

/-- The first and the second answer about a group after it was listed. -/
def Answers.presence (group : Email) (turn : Nat) : Presence :=
  .ofAnswer (answers.groupExists group turn)

/-- The outcome as the run tallies it: a 404 of a group Google will not vouch for is a failure. -/
def Answers.reading (group address : Email) : SyncOutcome :=
  if answers.insert group address = .addressNotFound ∧
    answers.presence group 0 ≠ .present then .failed
  else answers.insert group address

def Answers.refuses (group address : Email) : Bool := (answers.reading group address).unmirrorable

structure Offered (plan : GroupPlan) (start l : AddLoop Workspace) (met : List PlannedAdd) :
    Prop where
  tally : l.tally = start.tally ++ met.map (fun a => answers.reading plan.groupEmail a.address)
  found : l.found = start.found ++
    (met.filter (fun a => answers.refuses plan.groupEmail a.address)).map (fun a =>
    ⟨a.address, a.memberId, plan.groupEmail, answers.reading plan.groupEmail a.address⟩)
  unmirrorable : ∀ u, u ∈ l.unmirrorable ↔ u ∈ start.unmirrorable ∨
    ∃ a ∈ met, answers.refuses plan.groupEmail a.address = true ∧ casefold a.address = u
  accepted : ∀ x, x ∈ l.accepted ↔ x ∈ start.accepted ∨
    ∃ a ∈ met, (answers.insert plan.groupEmail a.address).accepted = true ∧ a.address = x
  inserts : l.port.inserts = start.port.inserts ++
    met.map (fun a => ⟨plan.groupEmail, a.address, answers.insert plan.groupEmail a.address⟩)
  contents : l.port.contents = Function.update start.port.contents plan.groupEmail
    (start.port.contents plan.groupEmail ++
      (met.filter (fun a => (answers.insert plan.groupEmail a.address).accepted)).map
        (insertedEntry ·.address))
  current : l.port.current = start.port.current

/-- Where the loop stands on its way: the group is asked after once, at the first 404. -/
structure Offering (plan : GroupPlan) (start l : AddLoop Workspace) (met : List PlannedAdd) : Prop
    extends Offered answers plan start l met where
  presence : l.presence = if met.any (fun a =>
    answers.insert plan.groupEmail a.address = .addressNotFound)
    then some (answers.presence plan.groupEmail 0) else none
  asked : l.port.asked =
    if met.any (fun a => answers.insert plan.groupEmail a.address = .addressNotFound) then 1 else 0

theorem presenceOf_ports (group : Email) (w : Workspace) : presenceOf answers.ports.lister group w =
    (.ofAnswer (answers.groupExists group w.asked), { w with asked := w.asked + 1 }) := rfl

structure Fresh (l : AddLoop Workspace) : Prop where
  presence : l.presence = none
  asked : l.port.asked = 0

variable {answers} {plan : GroupPlan} {start l : AddLoop Workspace} {met : List PlannedAdd}
    {a : PlannedAdd}

theorem offered_nil (answers : Answers) (plan : GroupPlan) (fresh : Fresh start) :
    Offering answers plan start start [] where
  tally := by simp
  found := by simp
  unmirrorable := by simp
  accepted := by simp
  inserts := by simp
  contents := by simp
  presence := by simpa using fresh.presence
  current := rfl
  asked := by simpa using fresh.asked

/-- Whenever a 404 makes the question matter, the first answer about the group is in hand. -/
theorem askOnce_offered (offered : Offering answers plan start l met) {w : Workspace}
    (asked : w.asked = l.port.asked) :
    askOnce answers.ports plan l.presence w = (answers.presence plan.groupEmail 0,
      { w with asked := 1 }) := by
  have known := offered.presence
  have count := asked.trans offered.asked
  split at known
  · rename_i before
    rw [if_pos before] at count
    rw [known, ← count]
    rfl
  · rename_i before
    rw [if_neg before] at count
    rw [known]
    simp [askOnce, presenceOf, Answers.ports, Answers.presence, count]

theorem reading_unmirrorable (group address : Email) :
    (answers.reading group address).unmirrorable = answers.refuses group address := rfl

theorem reading_accepted (group address : Email) :
    (answers.reading group address).accepted = (answers.insert group address).accepted := by
  unfold Answers.reading
  split
  · rename_i unreadable
    rw [unreadable.1]; rfl
  · rfl

def heard (answers : Answers) (plan : GroupPlan) (a : PlannedAdd) (l : AddLoop Workspace) :
    AddLoop Workspace :=
  let w := (l.port.add answers plan.groupEmail a.address).2
  if answers.insert plan.groupEmail a.address = .addressNotFound then
    { l with presence := some (answers.presence plan.groupEmail 0), port := { w with asked := 1 } }
  else { l with port := w }

section
variable (answers) (plan) (a) (l)

theorem heard_tally : (heard answers plan a l).tally = l.tally := by
  unfold heard; dsimp only; split <;> rfl

theorem heard_found : (heard answers plan a l).found = l.found := by
  unfold heard; dsimp only; split <;> rfl

theorem heard_unmirrorable : (heard answers plan a l).unmirrorable = l.unmirrorable := by
  unfold heard; dsimp only; split <;> rfl

theorem heard_accepted : (heard answers plan a l).accepted = l.accepted := by
  unfold heard; dsimp only; split <;> rfl

theorem heard_presence : (heard answers plan a l).presence =
    if answers.insert plan.groupEmail a.address = .addressNotFound
      then some (answers.presence plan.groupEmail 0)
    else l.presence := by
  unfold heard; dsimp only; split <;> rfl

theorem heard_asked : (heard answers plan a l).port.asked =
    if answers.insert plan.groupEmail a.address = .addressNotFound then 1 else l.port.asked := by
  unfold heard; dsimp only; split <;> rfl

theorem heard_current : (heard answers plan a l).port.current = l.port.current := by
  unfold heard; dsimp only; split <;> rfl

theorem heard_inserts : (heard answers plan a l).port.inserts =
    l.port.inserts ++ [⟨plan.groupEmail, a.address, answers.insert plan.groupEmail a.address⟩] := by
  unfold heard; dsimp only; split <;> rfl

theorem heard_contents : (heard answers plan a l).port.contents =
    if (answers.insert plan.groupEmail a.address).accepted then
      Function.update l.port.contents plan.groupEmail
        (l.port.contents plan.groupEmail ++ [insertedEntry a.address])
    else l.port.contents := by
  unfold heard; dsimp only; split <;> rfl

theorem ite_self_audit (outcome : SyncOutcome) (event : AuditEvent) (w : Workspace) :
    (if outcome = .applied then answers.ports.audit event w else w) = w := ite_self w

end

theorem applyAdd_alive (offered : Offering answers plan start l met)
    (alive : answers.insert plan.groupEmail a.address = .addressNotFound →
      answers.presence plan.groupEmail 0 ≠ .gone) :
    applyAdd answers.ports plan l a =
      .ok (settleAdd answers.ports plan a (answers.reading plan.groupEmail a.address)
        (heard answers plan a l)) := by
  have asks := askOnce_offered offered (w := (l.port.add answers plan.groupEmail a.address).2) rfl
  show (if answers.insert plan.groupEmail a.address = .addressNotFound then
    readMissing answers.ports plan l a
      (askOnce answers.ports plan l.presence (l.port.add answers plan.groupEmail a.address).2)
        else _) = _
  unfold heard Answers.reading
  by_cases missing : answers.insert plan.groupEmail a.address = .addressNotFound
  · have here := alive missing
    rw [if_pos missing, if_pos missing, asks]
    cases known : answers.presence plan.groupEmail 0 with
    | gone => exact absurd known here
    | unknown => rw [if_pos ⟨missing, by decide⟩]; rfl
    | present => rw [if_neg (fun h => h.2 rfl), missing]; rfl
  · rw [if_neg missing, if_neg missing, if_neg (fun h => missing h.1)]
    rfl

/-- What one more add leaves of the loop, whatever it answers but the end of the group. -/
theorem offered_step (offered : Offering answers plan start l met)
    (alive : answers.insert plan.groupEmail a.address = .addressNotFound →
      answers.presence plan.groupEmail 0 ≠ .gone) :
    ∃ next, applyAdd answers.ports plan l a = .ok next ∧
      Offering answers plan start next (met ++ [a]) := by
  refine ⟨_, applyAdd_alive offered alive, ?_⟩
  have singleton : ∀ p : PlannedAdd → Bool, (met ++ [a]).filter p = met.filter p ++ if p a then [a]
      else [] := by
    intro p
    rw [List.filter_append, List.filter_singleton]
    cases p a <;> rfl
  refine ⟨⟨?_, ?_, ?_, ?_, ?_, ?_, ?_⟩, ?_, ?_⟩
  · rw [settleAdd_tally, heard_tally, offered.tally, List.append_assoc, List.map_append]
    rfl
  · rw [settleAdd_found, heard_found, reading_unmirrorable, offered.found, singleton,
      List.map_append, ← List.append_assoc]
    by_cases refused : answers.refuses plan.groupEmail a.address = true
    · rw [if_pos refused, if_pos refused]; rfl
    · rw [if_neg refused, if_neg refused, List.map_nil, List.append_nil]
  · intro u
    rw [settleAdd_unmirrorable, heard_unmirrorable, reading_unmirrorable]
    by_cases refused : answers.refuses plan.groupEmail a.address = true
    · rw [if_pos refused, List.mem_insert_iff, offered.unmirrorable]
      simp only [List.mem_append, List.mem_singleton, or_and_right, exists_or, exists_eq_left,
        refused, true_and]
      rw [eq_comm, or_comm, or_assoc]
    · rw [if_neg refused, offered.unmirrorable]
      simp [or_and_right, exists_or, refused]
  · intro x
    rw [settleAdd_accepted, heard_accepted, reading_accepted]
    by_cases took : (answers.insert plan.groupEmail a.address).accepted = true
    · rw [if_pos took, List.mem_insert_iff, offered.accepted]
      simp only [List.mem_append, List.mem_singleton, or_and_right, exists_or, exists_eq_left,
        took, true_and]
      rw [eq_comm, or_comm, or_assoc]
    · rw [if_neg took, offered.accepted]
      simp [or_and_right, exists_or, took]
  · rw [settleAdd_port, ite_self_audit, heard_inserts, offered.inserts, List.append_assoc,
      List.map_append]
    rfl
  · rw [settleAdd_port, ite_self_audit, heard_contents, offered.contents, singleton,
      List.map_append]
    by_cases took : (answers.insert plan.groupEmail a.address).accepted = true
    · rw [if_pos took, if_pos took, Function.update_self, Function.update_idem, List.append_assoc];
        rfl
    · rw [if_neg took, if_neg took, List.map_nil, List.append_nil]
  · rw [settleAdd_port, ite_self_audit, heard_current, offered.current]
  · rw [settleAdd_presence, heard_presence, offered.presence, List.any_append]
    by_cases missing : answers.insert plan.groupEmail a.address = .addressNotFound
    · simp [missing]
    · simp [missing]
  · rw [settleAdd_port, ite_self_audit, heard_asked, offered.asked, List.any_append]
    by_cases missing : answers.insert plan.groupEmail a.address = .addressNotFound
    · simp [missing]
    · simp [missing]

theorem offered_adds {adds : List PlannedAdd} (offered : Offering answers plan start l met)
    (alive : ∀ a ∈ adds, answers.insert plan.groupEmail a.address = .addressNotFound →
      answers.presence plan.groupEmail 0 ≠ .gone) :
    ∃ next, applyAdds answers.ports plan adds l = .ok next ∧
      Offering answers plan start next (met ++ adds) := by
  induction adds generalizing l met with
  | nil => exact ⟨l, rfl, by rw [List.append_nil]; exact offered⟩
  | cons a adds ih =>
    obtain ⟨next, here, stepped⟩ := offered_step offered (alive a List.mem_cons_self)
    obtain ⟨last, rest, done⟩ :=
      ih stepped (fun b member => alive b (List.mem_cons_of_mem _ member))
    refine ⟨last, ?_, by rw [List.append_cons]; exact done⟩
    unfold applyAdds at rest ⊢
    rw [List.foldlM_cons, here]
    exact rest

/-- The first 404 of a group that is gone ends the loop where it stands. -/
theorem applyAdds_gone {before : List PlannedAdd} (after : List PlannedAdd) (fresh : Fresh start)
    (readable : ∀ b ∈ before, answers.insert plan.groupEmail b.address ≠ .addressNotFound)
    (missing : answers.insert plan.groupEmail a.address = .addressNotFound)
    (gone : answers.presence plan.groupEmail 0 = .gone) :
    ∃ l, Offering answers plan start l before ∧
      applyAdds answers.ports plan (before ++ a :: after) start =
        .error (heard answers plan a l) := by
  obtain ⟨l, early, offered⟩ := offered_adds (offered_nil answers plan fresh)
    (fun b member h => absurd h (readable b member))
  refine ⟨l, offered, ?_⟩
  have asks := askOnce_offered offered (w := (l.port.add answers plan.groupEmail a.address).2) rfl
  have ends : applyAdd answers.ports plan l a = .error (heard answers plan a l) := by
    show (if answers.insert plan.groupEmail a.address = .addressNotFound then
      readMissing answers.ports plan l a
        (askOnce answers.ports plan l.presence (l.port.add answers plan.groupEmail a.address).2)
          else _) = _
    unfold heard
    rw [if_pos missing, if_pos missing, asks, gone]
    rfl
  unfold applyAdds at early ⊢
  rw [List.foldlM_append, early]
  show (a :: after).foldlM (applyAdd answers.ports plan) l = _
  rw [List.foldlM_cons, ends]
  rfl

/-! ### What the removes of one group leave -/

def survivors (answers : Answers) (group : Email) (removed : List Email)
    (entries : List GroupMemberEntry) : List GroupMemberEntry :=
  entries.filter (fun e => ¬(e.email ∈ removed ∧ answers.delete group e.email = .applied))

theorem applyRemove_port (r : RemoveLoop Workspace) (address : Email) :
    (applyRemove answers.ports plan r address).port =
      (r.port.remove answers plan.groupEmail address).2 := by
  unfold applyRemove
  show RemoveLoop.port (if answers.delete plan.groupEmail address = .applied then _ else _) = _
  split
  · rfl
  · dsimp only
    split <;> rfl

theorem removes_port (answers : Answers) (plan : GroupPlan) (removed : List Email)
    (r : RemoveLoop Workspace) : (removed.foldl (applyRemove answers.ports plan) r).port =
      { r.port with
        contents := Function.update r.port.contents plan.groupEmail
          (survivors answers plan.groupEmail removed (r.port.contents plan.groupEmail)) } := by
  induction removed generalizing r with
  | nil => simp [survivors]
  | cons address removed ih =>
    rw [List.foldl_cons, ih, applyRemove_port]
    unfold Workspace.remove survivors
    by_cases deleted : answers.delete plan.groupEmail address = .applied
    · simp only [deleted, if_true, Function.update_self, Function.update_idem, List.filter_filter]
      congr 2
      apply List.filter_congr
      intro e _
      by_cases here : e.email = address <;> simp [here, deleted]
    · simp only [deleted, if_false]
      congr 2
      apply List.filter_congr
      intro e _
      by_cases here : e.email = address <;> simp [here, deleted]

/-- Google denies, or will not confirm at the end, a group that answered a 404. -/
def Answers.disowns (answers : Answers) (group : Email) (adds : List PlannedAdd) : Bool :=
  adds.any (fun a => answers.insert group a.address = .addressNotFound) &&
    (answers.presence group 0 = .gone ||
      (answers.presence group 0 = .present && answers.presence group 1 ≠ .present))

structure Done (answers : Answers) (plan : GroupPlan) (unmirrorable : List Str)
    (refusals : List Refusal) (accepted : List Email) (w : Workspace) (done : Applied Workspace)
    (issued : List PlannedAdd) :
    Prop where
  early : issued <+: plan.adds
  complete : answers.disowns plan.groupEmail plan.adds = false → issued = plan.adds
  missing : issued.any (fun a => answers.insert plan.groupEmail a.address = .addressNotFound) =
    plan.adds.any (fun a => answers.insert plan.groupEmail a.address = .addressNotFound)
  unmirrorable : ∀ u, u ∈ done.unmirrorable ↔ u ∈ unmirrorable ∨
    ∃ a ∈ issued, answers.refuses plan.groupEmail a.address = true ∧ casefold a.address = u
  accepted : ∀ x, x ∈ done.accepted ↔ x ∈ accepted ∨
    ∃ a ∈ issued, (answers.insert plan.groupEmail a.address).accepted = true ∧ a.address = x
  refusals : done.refusals = refusals ++ if answers.disowns plan.groupEmail plan.adds then []
    else (issued.filter (fun a => answers.refuses plan.groupEmail a.address)).map (fun a =>
      ⟨a.address, a.memberId, plan.groupEmail, answers.reading plan.groupEmail a.address⟩)
  inserts : done.port.inserts = w.inserts ++
    issued.map (fun a => ⟨plan.groupEmail, a.address, answers.insert plan.groupEmail a.address⟩)
  contents : done.port.contents = Function.update w.contents plan.groupEmail
    (let filled := w.contents plan.groupEmail ++
        (issued.filter (fun a => (answers.insert plan.groupEmail a.address).accepted)).map
          (insertedEntry ·.address)
      if answers.disowns plan.groupEmail plan.adds then filled
      else survivors answers plan.groupEmail plan.removes filled)

/-- A refusal of a 404 is on the list only when Google vouched for the group. -/
theorem found_missing {adds : List PlannedAdd} (offered : Offered answers plan start l adds)
    (none : start.found = []) :
    l.found.any (·.outcome = .addressNotFound) =
      (adds.any (fun a => answers.insert plan.groupEmail a.address = .addressNotFound) &&
        answers.presence plan.groupEmail 0 = .present) := by
  rw [offered.found, none, List.nil_append, List.any_map, List.any_filter]
  by_cases vouched : answers.presence plan.groupEmail 0 = .present
  · rw [decide_eq_true vouched, Bool.and_true]
    congr 1
    funext a
    have plain : answers.reading plan.groupEmail a.address =
        answers.insert plan.groupEmail a.address :=
      if_neg (fun h => h.2 vouched)
    simp only [Function.comp_apply, Answers.refuses, plain]
    cases answers.insert plan.groupEmail a.address <;> rfl
  · rw [decide_eq_false vouched, Bool.and_false, List.any_eq_false]
    intro a _
    have unread : answers.reading plan.groupEmail a.address ≠ .addressNotFound := by
      unfold Answers.reading
      split
      · exact SyncOutcome.noConfusion
      · rename_i readable
        exact fun same => readable ⟨same, vouched⟩
    simp [unread]

/-- A loop that ran to its end is believed unless Google disowns the group. -/
theorem adds_settled {adds : List PlannedAdd} (fresh : Fresh start) (none : start.found = [])
    (alive : ∀ a ∈ adds, answers.insert plan.groupEmail a.address = .addressNotFound →
      answers.presence plan.groupEmail 0 ≠ .gone) :
    ∃ l, Offered answers plan start l adds ∧
      applyAdds answers.ports plan adds start >>= confirmAdds answers.ports plan =
        if answers.disowns plan.groupEmail adds then .error l else .ok l := by
  obtain ⟨l, ran, offered⟩ := offered_adds (offered_nil answers plan fresh) alive
  rw [List.nil_append] at offered
  rw [ran]
  show ∃ l', _ ∧ confirmAdds answers.ports plan l = _
  unfold confirmAdds
  rw [found_missing offered.toOffered none]
  by_cases missed : adds.any (fun a => answers.insert plan.groupEmail a.address =
    .addressNotFound) = true
  · obtain ⟨a, member, missing⟩ := List.any_eq_true.mp missed
    have notGone : answers.presence plan.groupEmail 0 ≠ .gone :=
      alive a member (of_decide_eq_true missing)
    have once : l.port.asked = 1 := by rw [offered.asked, if_pos missed]
    by_cases vouched : answers.presence plan.groupEmail 0 = .present
    · -- the closing question is the second one
      have second : presenceOf answers.ports.lister plan.groupEmail l.port =
          (answers.presence plan.groupEmail 1, { l.port with asked := 2 }) := by
        rw [presenceOf_ports, once]
        rfl
      refine ⟨{ l with
        presence := some (answers.presence plan.groupEmail 1), port := { l.port with asked := 2 } },
        { offered with }, ?_⟩
      rw [missed, decide_eq_true vouched, Bool.and_true, if_pos rfl, second]
      unfold Answers.disowns
      rw [missed, vouched]
      by_cases still : answers.presence plan.groupEmail 1 = .present
      · simp [still]
      · simp [still]
    · refine ⟨l, offered.toOffered, ?_⟩
      have known : Answers.disowns answers plan.groupEmail adds = false := by
        simp [Answers.disowns, notGone, vouched]
      rw [decide_eq_false vouched, Bool.and_false, known]
      rfl
  · refine ⟨l, offered.toOffered, ?_⟩
    have known : Answers.disowns answers plan.groupEmail adds = false := by
      rw [Answers.disowns, eq_false_of_ne_true missed, Bool.false_and]
    rw [eq_false_of_ne_true missed, Bool.false_and, known]
    rfl

theorem applyRemoves_port (answers : Answers) (plan : GroupPlan) (tally : List SyncOutcome)
    (w : Workspace) : ∃ asked, (applyRemoves answers.ports plan tally w).2 =
      { w with
        asked
        contents := Function.update w.contents plan.groupEmail
          (survivors answers plan.groupEmail plan.removes (w.contents plan.groupEmail)) } := by
  have port := removes_port answers plan plan.removes ⟨tally, 0, w⟩
  unfold applyRemoves
  dsimp only
  split
  · exact ⟨w.asked + 1, by rw [presenceOf_ports, port]⟩
  · exact ⟨w.asked, by rw [port]⟩

theorem split_at_missing {adds : List PlannedAdd}
    (missed :
      adds.any (fun a => answers.insert plan.groupEmail a.address = .addressNotFound) = true) :
    ∃ before a after, adds = before ++ a :: after ∧
      answers.insert plan.groupEmail a.address = .addressNotFound ∧
      ∀ b ∈ before, answers.insert plan.groupEmail b.address ≠ .addressNotFound := by
  induction adds with
  | nil => cases missed
  | cons b adds ih =>
    by_cases here : answers.insert plan.groupEmail b.address = .addressNotFound
    · exact ⟨[], b, adds, rfl, here, fun c member => (nomatch member)⟩
    · have later : adds.any (fun a => answers.insert plan.groupEmail a.address = .addressNotFound) =
          true := by
        simpa [here] using missed
      obtain ⟨before, a, after, rfl, missing, readable⟩ := ih later
      refine ⟨b :: before, a, after, rfl, missing, fun c member => ?_⟩
      rcases List.mem_cons.mp member with rfl | member
      · exact here
      · exact readable c member

section
variable {unmirrorable : List Str} {refusals : List Refusal} {accepted : List Email} {w : Workspace}

theorem apply_gone (listed : w.asked = 0) (gone : answers.presence plan.groupEmail 0 = .gone)
    (missed :
      plan.adds.any (fun a => answers.insert plan.groupEmail a.address = .addressNotFound) = true) :
    ∃ issued, Done answers plan unmirrorable refusals accepted w
      (apply answers.ports plan unmirrorable refusals accepted w) issued := by
  obtain ⟨before, a, after, split, missing, readable⟩ := split_at_missing missed
  have fresh : Fresh (loopStart unmirrorable accepted w) := ⟨rfl, listed⟩
  obtain ⟨l, offered, ends⟩ := applyAdds_gone after fresh readable missing gone
  have disowned : answers.disowns plan.groupEmail plan.adds = true := by
    rw [Answers.disowns, missed, gone]; rfl
  have unread : answers.refuses plan.groupEmail a.address = false := by
    simp [Answers.refuses, Answers.reading, missing, gone, SyncOutcome.unmirrorable]
  have untaken : (answers.insert plan.groupEmail a.address).accepted = false := by rw [missing]; rfl
  have ran : apply answers.ports plan unmirrorable refusals accepted w =
      ⟨abandoned plan (heard answers plan a l).tally,
        (heard answers plan a l).unmirrorable, refusals,
        (heard answers plan a l).accepted, (heard answers plan a l).port⟩ := by
    unfold apply
    rw [split, ends]
    rfl
  refine ⟨before ++ [a], ?_⟩
  rw [ran]
  constructor
  · exact ⟨after, by rw [split, List.append_assoc]; rfl⟩
  · intro kept
    rw [disowned] at kept
    cases kept
  · rw [missed]
    simp [missing]
  · intro u
    rw [heard_unmirrorable, offered.unmirrorable]
    simp [or_and_right, exists_or, unread, loopStart]
  · intro x
    rw [heard_accepted, offered.accepted]
    simp [or_and_right, exists_or, untaken, loopStart]
  · rw [disowned, if_pos rfl, List.append_nil]
  · rw [heard_inserts, offered.inserts, List.append_assoc, List.map_append]
    rfl
  · rw [heard_contents, if_neg (by rw [untaken]; exact Bool.false_ne_true),
      offered.contents, disowned, List.filter_append, List.filter_singleton, untaken]
    simp [loopStart]

/-- Applying a plan issues a first part of its adds, all of them unless Google disowns the group. -/
theorem apply_done (answers : Answers) (plan : GroupPlan) (unmirrorable : List Str)
    (refusals : List Refusal) (accepted : List Str) (w : Workspace) (listed : w.asked = 0) :
    ∃ issued, Done answers plan unmirrorable refusals accepted w
      (apply answers.ports plan unmirrorable refusals accepted w) issued := by
  by_cases gone : answers.presence plan.groupEmail 0 = .gone ∧
      plan.adds.any (fun a => answers.insert plan.groupEmail a.address = .addressNotFound) = true
  · exact apply_gone listed gone.1 gone.2
  have alive : ∀ a ∈ plan.adds, answers.insert plan.groupEmail a.address = .addressNotFound →
      answers.presence plan.groupEmail 0 ≠ .gone :=
    fun a member missing here => gone ⟨here, List.any_eq_true.mpr ⟨a, member, by simp [missing]⟩⟩
  have fresh : Fresh (loopStart unmirrorable accepted w) := ⟨rfl, listed⟩
  obtain ⟨l, offered, ran⟩ := adds_settled fresh rfl alive
  refine ⟨plan.adds, ?_⟩
  unfold apply
  rw [ran]
  by_cases disowned : answers.disowns plan.groupEmail plan.adds = true
  · rw [if_pos disowned]
    exact {
      early := List.prefix_refl _
      complete := fun _ => rfl
      missing := rfl
      unmirrorable := offered.unmirrorable
      accepted := offered.accepted
      refusals := by rw [if_pos disowned, List.append_nil]; rfl
      inserts := offered.inserts
      contents := by rw [if_pos disowned]; exact offered.contents }
  · rw [if_neg disowned]
    obtain ⟨asked, port⟩ := applyRemoves_port answers plan l.tally l.port
    exact {
      early := List.prefix_refl _
      complete := fun _ => rfl
      missing := rfl
      unmirrorable := offered.unmirrorable
      accepted := offered.accepted
      refusals := by rw [if_neg disowned, finish, offered.found]; rfl
      inserts := by rw [finish, port]; exact offered.inserts
      contents := by
        rw [if_neg disowned, finish, port, offered.contents, Function.update_self,
          Function.update_idem]
        rfl }

end

end

end Rosadmin
