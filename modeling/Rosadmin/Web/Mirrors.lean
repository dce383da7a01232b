import Mathlib.Data.List.Find
import Rosadmin.Db.EmailStatus
import Rosadmin.Foundation.Runs
import Rosadmin.GoogleSync
import Rosadmin.Web.Records

/-!
# The background mirrors

A request commits and spawns a task; the task resolves the member's address,
calls Google and remembers an accepted address. Nothing orders the tasks, so
what Google is left with is what the last call to reach it said.
-/

namespace Rosadmin
open Foundation

/-- What `email_statuses(addresses)` selects. -/
def StatusStore.only (store : StatusStore) (addresses : List Email) : StatusStore :=
  { store with googleEmailStatus :=
      ⟨store.googleEmailStatus.items.filter (fun e => e.1 ∈ addresses.map lower),
        store.googleEmailStatus.nodup.sublist (List.filter_sublist.map _)⟩ }

theorem get?_only {store : StatusStore} {addresses : List Email} {key : Str} :
    (store.only addresses).googleEmailStatus.get? key =
      if key ∈ addresses.map lower then store.googleEmailStatus.get? key else none := by
  show ((store.googleEmailStatus.items.filter (fun e => e.1 ∈ addresses.map lower)).find?
    (fun e => e.1 = key)).map _ = _
  rw [List.find?_filter]
  split
  · rename_i asked
    refine congrArg (Option.map _) (List.find?_congr fun e _ => ?_)
    by_cases here : e.1 = key <;> simp [here, asked]
  · rename_i unasked
    rw [List.find?_eq_none.mpr, Option.map_none]
    intro e _ both
    simp only [decide_eq_true_eq] at both
    exact unasked (both.2 ▸ both.1)

theorem statusOf_only {store : StatusStore} {addresses : List Email} {key : Str} :
    (store.only addresses).statusOf key = if key ∈ addresses.map lower then store.statusOf key
      else none := by
  rw [StatusStore.statusOf, get?_only]
  split <;> rfl

/-- Since `store`, one address has been recorded as accepted, or nothing has been recorded. -/
def Remembered (address : Email) (store later : StatusStore) : Prop :=
  later = store ∨ (later.statusOf (lower address) = some acceptedStatus ∧
    ∀ key ≠ lower address, later.statusOf key = store.statusOf key)

theorem candidates_distinct (primary : Email) (alternate : Option Email) :
    ((candidates primary alternate).map lower).Nodup := by
  unfold candidates
  split
  · simp
  · rename_i a
    by_cases same : lower a = lower primary
    · simp [same]
    · split_ifs <;> simp [same, Ne.symm same]

theorem oldestRefusal_now (store : StatusStore) (now moment : Time) (best : Email)
    (rest : List Email) :
    oldestRefusal (emailStatuses store now) best rest =
      oldestRefusal (emailStatuses store moment) best rest := by
  induction rest generalizing best with
  | nil => rfl
  | cons a rest ih =>
    rw [oldestRefusal, oldestRefusal, ih, ih]
    rfl

theorem syncTarget_now (row : SyncAddresses) (store : StatusStore) (now moment : Time) :
    syncTarget row (emailStatuses store now) = syncTarget row (emailStatuses store moment) := by
  rw [syncTarget, syncTarget]
  simp only [oldestRefusal_now store now moment]
  rfl

/-- The first candidate that Google has accepted is the target. -/
theorem syncTarget_accepted {row : SyncAddresses} {statuses : EmailStatuses} {a : Email}
    (real : isExample row.email = false)
    (found : (candidates row.email row.alternateEmail).find?
      (fun c => lower c ∈ statuses.accepted) = some a) :
    syncTarget row statuses = a := by
  rw [syncTarget, if_neg (by simp [real])]
  dsimp only
  rw [found]

namespace Web

/-- `_target_address` -/
def targetAddress (target : MemberRow) (store : StatusStore) (now : Time) : Email :=
  syncTarget ⟨target.email, target.alternateEmail⟩
    (emailStatuses (store.only (target.email :: target.alternateEmail.toList)) now)

theorem lower_asked {target : MemberRow} {a : Email}
    (offered : a ∈ candidates target.email target.alternateEmail) :
    lower a ∈ (target.email :: target.alternateEmail.toList).map lower := by
  rcases candidates_subset offered with rfl | same
  · simp
  · simp [same]

theorem offered_accepted {target : MemberRow} {store : StatusStore} {now : Time} {a : Email}
    (offered : a ∈ candidates target.email target.alternateEmail) :
    lower a ∈ (emailStatuses (store.only (target.email :: target.alternateEmail.toList))
      now).accepted ↔ store.statusOf (lower a) = some acceptedStatus := by
  rw [mem_accepted, statusOf_only, if_pos (lower_asked offered)]

section
variable {target : MemberRow} {store later : StatusStore} {now moment : Time} {address : Email}

theorem accepted_recorded (recorded : later.statusOf (lower address) = some acceptedStatus)
    (others : ∀ key ≠ lower address, later.statusOf key = store.statusOf key) {c : Email}
    (candidate : c ∈ candidates target.email target.alternateEmail) :
    lower c ∈ (emailStatuses (later.only (target.email :: target.alternateEmail.toList))
      moment).accepted ↔
      lower c = lower address ∨ store.statusOf (lower c) = some acceptedStatus := by
  rw [offered_accepted candidate]
  by_cases same : lower c = lower address
  · simp [same, recorded]
  · simp [same, others _ same]

variable (offered : address ∈ candidates target.email target.alternateEmail)
  (recorded : later.statusOf (lower address) = some acceptedStatus)
  (others : ∀ key ≠ lower address, later.statusOf key = store.statusOf key)
include offered recorded others

theorem firstAccepted_again (first : (candidates target.email target.alternateEmail).find? (fun c =>
      lower c ∈ (emailStatuses (store.only (target.email :: target.alternateEmail.toList))
        now).accepted) = some address) :
    (candidates target.email target.alternateEmail).find? (fun c =>
      lower c ∈ (emailStatuses (later.only (target.email :: target.alternateEmail.toList))
        moment).accepted) = some address := by
  have before : store.statusOf (lower address) = some acceptedStatus :=
    (offered_accepted offered).mp (by simpa using List.find?_some first)
  rw [← first]
  refine List.find?_congr fun c candidate => decide_eq_decide.mpr ?_
  rw [accepted_recorded recorded others candidate, offered_accepted candidate]
  constructor
  · rintro (same | accepted)
    · rw [same]
      exact before
    · exact accepted
  · exact Or.inr

theorem firstAccepted_new
    (unaccepted : (candidates target.email target.alternateEmail).find? (fun c =>
      lower c ∈ (emailStatuses (store.only (target.email :: target.alternateEmail.toList))
        now).accepted) = none) :
    (candidates target.email target.alternateEmail).find? (fun c =>
      lower c ∈ (emailStatuses (later.only (target.email :: target.alternateEmail.toList))
        moment).accepted) = some address := by
  cases search : (candidates target.email target.alternateEmail).find? (fun c =>
      lower c ∈ (emailStatuses (later.only (target.email :: target.alternateEmail.toList))
        moment).accepted) with
  | none =>
    exact absurd (decide_eq_true ((accepted_recorded recorded others offered).mpr (Or.inl rfl)))
      (List.find?_eq_none.mp search address offered)
  | some c =>
    have candidate := List.mem_of_find?_eq_some search
    have accepted : lower c = lower address ∨ store.statusOf (lower c) = some acceptedStatus :=
      (accepted_recorded recorded others candidate).mp (by simpa using List.find?_some search)
    rcases accepted with same | before
    · rw [List.inj_on_of_nodup_map (candidates_distinct target.email target.alternateEmail)
        candidate offered same]
    · exact absurd (decide_eq_true ((offered_accepted candidate).mpr before))
        (List.find?_eq_none.mp unaccepted c candidate)

end

/-- Recording the address a member is targeted under as accepted leaves it the target. -/
theorem targetAddress_remembered {target : MemberRow} {store later : StatusStore}
    {now moment : Time} (remembered : Remembered (targetAddress target store now) store later) :
    targetAddress target later moment = targetAddress target store now := by
  rcases remembered with rfl | ⟨recorded, others⟩
  · exact syncTarget_now _ _ moment now
  cases real : isExample target.email with
  | true => simp [targetAddress, syncTarget, real]
  | false =>
    have offered : targetAddress target store now ∈ candidates target.email target.alternateEmail :=
      syncTarget_candidate real _
    apply syncTarget_accepted real
    cases found : (candidates target.email target.alternateEmail).find?
        (fun c => lower c ∈
          (emailStatuses (store.only (target.email :: target.alternateEmail.toList))
          now).accepted) with
    | some b =>
      have first : targetAddress target store now = b := syncTarget_accepted real found
      exact firstAccepted_again offered recorded others (first ▸ found)
    | none => exact firstAccepted_new offered recorded others found

/-! ### The tasks -/

/-- A task between its awaits: spawned, with its address, with Google's answer, and done. -/
inductive MirrorStage where
  | spawned
  | addressed (address : Email)
  | called (address : Email) (outcome : SyncOutcome)
  | finished
  deriving DecidableEq

structure World (σ : Type) extends Panel where
  statuses : StatusStore
  google : σ
  stages : Nat → MirrorStage
  /-- The tasks whose calls Google has performed, in the order it did. -/
  calls : List Nat

inductive MirrorEvent where
  | add (now : Time) (principal : Principal)
  | remove (principal : Principal)
  | resolve (task : Nat) (now : Time)
  /-- A retried call is one each time that Google performs it. -/
  | call (task : Nat)
  /-- An accepted address is written down, if the write lands. -/
  | remember (task : Nat) (landed : Option Time)

section
variable {σ : Type} (directory : Directory σ) (groupId memberId : UUID)

def Mirror.call (task : Mirror) (address : Email) (google : σ) : SyncOutcome × σ :=
  match task.operation with
  | .add => (googleGroupSync directory).add task.groupEmail address google
  | .remove => (googleGroupSync directory).remove task.groupEmail address google

def World.put (w : World σ) (i : Nat) (stage : MirrorStage) : World σ :=
  { w with stages := fun j => if j = i then stage else w.stages j }

/-- One event; one that cannot happen changes nothing. -/
def World.step (w : World σ) : MirrorEvent → World σ
  | .add now principal =>
      { w with toPanel := (addMember now principal groupId memberId w.toPanel).2 }
  | .remove principal => { w with toPanel := (removeMember principal groupId memberId w.toPanel).2 }
  | .resolve i now => match w.mirrorTasks[i]?, w.stages i with
    | some task, .spawned => w.put i (.addressed (targetAddress task.target w.statuses now))
    | _, _ => w
  | .call i => match w.mirrorTasks[i]?, w.stages i with
    | some task, .addressed address | some task, .called address _ =>
      let (outcome, google) := task.call directory address w.google
      { w with google, calls := w.calls ++ [i] }.put i (.called address outcome)
    | _, _ => w
  | .remember i landed => match w.mirrorTasks[i]?, w.stages i with
    | some task, .called address outcome =>
      let writer : StatusWriter (Option Time) := ⟨fun _ _ landed => (landed, landed)⟩
      let statuses := if task.operation = .add ∧ outcome.accepted
        then (rememberAccepted writer [address] w.statuses landed).1 else w.statuses
      { w with statuses }.put i .finished
    | _, _ => w

/-- Google takes every insert and every delete, or answers that it holds already; `holds` is whom
its groups hold. -/
structure Faithful (holds : σ → Email → Email → Prop) : Prop where
  inserts : ∀ group address google, (directory.insertMember group address google).1 = .ok () ∨
    ∃ error, (directory.insertMember group address google).1 = .error error ∧
      addOutcome error = .alreadyConverged
  holding : ∀ group address google,
    holds (directory.insertMember group address google).2 group address
  deletes : ∀ group address google, (directory.deleteMember group address google).1 = .ok () ∨
    ∃ error, (directory.deleteMember group address google).1 = .error error ∧
      removeOutcome error = .alreadyConverged
  rid : ∀ group address google, ¬holds (directory.deleteMember group address google).2 group address

/-- Before the first request: no task, and the member's target address and the linked member
group. -/
structure Before (w : World σ) (group address : Email) : Prop where
  idle : w.mirrorTasks = [] ∧ w.calls = [] ∧ w.stages = fun _ => .spawned
  linked : memberGroupEmail w.db groupId = some group
  target : ∃ target now, w.db.memberRowById memberId = some target ∧
    targetAddress target w.statuses now = address
  real : isExample address = false

variable {directory groupId memberId}

def World.lastRequest (w : World σ) : Option MirrorOperation :=
  w.mirrorTasks.getLast?.map (·.operation)

/-- What the last call that Google performed did. -/
def World.lastCall (w : World σ) : Option MirrorOperation :=
  w.calls.getLast?.bind fun i => w.mirrorTasks[i]?.map (·.operation)

def World.Drained (w : World σ) : Prop := ∀ i < w.mirrorTasks.length, w.stages i = .finished

instance (w : World σ) : Decidable w.Drained :=
  inferInstanceAs (Decidable (∀ i < w.mirrorTasks.length, w.stages i = .finished))

/-- What is left after an operation, of what was there before any. -/
def leaves (before : Prop) : Option MirrorOperation → Prop
  | none => before
  | some operation => operation = .add

/-- A request that committed: the row it left, and the task it spawned. -/
structure Committed (groupId memberId : UUID) (operation : MirrorOperation) (s t : Panel) :
    Prop where
  frame : t.db = { s.db with bodyMemberships := t.db.bodyMemberships }
  row : t.db.hasMemberRow groupId memberId = true ↔ operation = .add
  spawned : ∃ actorId target, s.db.memberRowById memberId = some target ∧
    t.mirrorTasks = s.mirrorTasks ++
    [⟨operation, actorId, groupId, memberId, target, memberGroupEmail t.db groupId⟩]

theorem eligibleAdd_target {db : Database} {principal : Principal} {actor target : MemberRow}
    (eligible : eligibleAdd db principal groupId memberId = .ok (actor, target)) :
    db.memberRowById memberId = some target := by
  obtain ⟨leader, -, eligible⟩ := bind_ok.mp eligible
  cases found : db.memberRowById memberId with
  | none =>
    rw [found] at eligible
    cases eligible
  | some row =>
    simp only [found] at eligible
    split at eligible
    · cases eligible
    · cases eligible
      rfl

theorem eligibleRemove_target {db : Database} {principal : Principal} {actor target : MemberRow}
    (eligible : eligibleRemove db principal groupId memberId = .ok (actor, target)) :
    db.memberRowById memberId = some target := by
  obtain ⟨leader, -, eligible⟩ := bind_ok.mp eligible
  cases found : db.memberRowById memberId with
  | none =>
    rw [found] at eligible
    cases eligible
  | some row =>
    simp only [found] at eligible
    cases eligible
    rfl

theorem addMember_commits (now : Time) (principal : Principal) (s : Panel) :
    (addMember now principal groupId memberId s).2 = s ∨
      Committed groupId memberId .add s (addMember now principal groupId memberId s).2 := by
  cases eligible : eligibleAdd s.db principal groupId memberId with
  | error fault =>
    rw [addMember, eligible]
    exact Or.inl rfl
  | ok pair =>
    obtain ⟨actor, target⟩ := pair
    cases claim : s.db.claimAndAddMember groupId memberId now actor.id with
    | mk claimed after =>
      rcases Database.claimAndAddMember_cases claim with ⟨rfl, -, rows⟩ | ⟨refused, rfl⟩
      · rw [addMember, eligible]
        simp only [claim]
        refine Or.inr ⟨by rw [rows], iff_of_true ?_ rfl, actor.id, target,
        eligibleAdd_target eligible, rfl⟩
        simp [rows, Database.hasMemberRow, Database.atKey]
      · rw [addMember, eligible]
        simp only [claim]
        cases claimed with
        | none => exact Or.inl rfl
        | some outcome =>
          cases outcome with
          | inserted => exact absurd rfl refused
          | alreadyPresent => exact Or.inl rfl
          | isLeader => exact Or.inl rfl

theorem removeMember_commits (principal : Principal) (s : Panel) :
    (removeMember principal groupId memberId s).2 = s ∨
      Committed groupId memberId .remove s (removeMember principal groupId memberId s).2 := by
  cases eligible : eligibleRemove s.db principal groupId memberId with
  | error fault =>
    rw [removeMember, eligible]
    exact Or.inl rfl
  | ok pair =>
    obtain ⟨actor, target⟩ := pair
    cases claim : s.db.claimAndRemoveMember groupId memberId with
    | mk removed after =>
      rcases Database.claimAndRemoveMember_cases claim with ⟨rfl, -, rows⟩ | ⟨refused, rfl⟩
      · rw [removeMember, eligible]
        simp only [claim]
        refine Or.inr ⟨by rw [rows], iff_of_false ?_ nofun, actor.id, target,
        eligibleRemove_target eligible, rfl⟩
        simp only [rows, Database.hasMemberRow, List.any_filter]
        grind
      · rw [removeMember, eligible]
        simp only [claim]
        cases removed with
        | none => exact Or.inl rfl
        | some outcome =>
          cases outcome with
          | removed => exact absurd rfl refused
          | notAMember => exact Or.inl rfl
          | isLeader => exact Or.inl rfl

theorem call_holds {holds : σ → Email → Email → Prop} (faithful : Faithful directory holds)
    {task : Mirror} {group address : Email} (linked : task.groupEmail = some group)
    (real : isExample address = false) (google : σ) :
    holds (task.call directory address google).2 group address ↔ task.operation = .add := by
  have gate : skipGate task.groupEmail address = .ok group := by simp [skipGate, linked, real]
  cases operation : task.operation with
  | add =>
    rw [Mirror.call, operation]
    refine iff_of_true ?_ rfl
    have held := faithful.holding group address google
    simp only [googleGroupSync, mirrored, gate]
    split <;> simp_all
  | remove =>
    rw [Mirror.call, operation]
    refine iff_of_false ?_ nofun
    have rid := faithful.rid group address google
    simp only [googleGroupSync, mirrored, gate]
    split <;> simp_all

theorem remembered_again {address : Email} {store later : StatusStore}
    (remembered : Remembered address store later) (landed : Option Time) :
    Remembered address store (rememberAccepted ⟨fun _ _ landed => (landed, landed)⟩
      [address] later landed).1 := by
  cases landed with
  | none => exact remembered
  | some now =>
    have written : ∀ key,
      (rememberAccepted ⟨fun _ _ landed => (landed, landed)⟩ [address] later (some now)).1.statusOf
      key = if key = lower address then some acceptedStatus else later.statusOf key := by
      intro key
      simp only [rememberAccepted, List.foldl_cons, List.foldl_nil, recordStatus,
        StatusStore.statusOf, Dict.get?_set]
      split <;> rfl
    refine Or.inr ⟨by rw [written, if_pos rfl], fun key other => ?_⟩
    rw [written, if_neg other]
    rcases remembered with rfl | ⟨-, others⟩
    · rfl
    · exact others key other

/-- What holds in any world the requests and their tasks come to. -/
structure Tracked (holds : σ → Email → Email → Prop) (groupId memberId : UUID)
    (group address : Email) (start w : World σ) : Prop where
  frame : w.db = { start.db with bodyMemberships := w.db.bodyMemberships }
  tasks : ∀ task ∈ w.mirrorTasks, task.groupEmail = some group ∧
    start.db.memberRowById memberId = some task.target
  statuses : Remembered address start.statuses w.statuses
  aimed : ∀ i a, (w.stages i = .addressed a ∨ ∃ outcome, w.stages i = .called a outcome) →
    a = address
  reached : ∀ i, (w.stages i = .finished ∨ ∃ a outcome, w.stages i = .called a outcome) →
    i ∈ w.calls
  ranged : ∀ i ∈ w.calls, i < w.mirrorTasks.length
  row : w.db.hasMemberRow groupId memberId = true ↔
    leaves (start.db.hasMemberRow groupId memberId = true) w.lastRequest
  held : holds w.google group address ↔ leaves (holds start.google group address) w.lastCall

theorem World.lastCall_append {w : World σ} (ranged : ∀ i ∈ w.calls, i < w.mirrorTasks.length)
    (task : Mirror) (db : Database) :
    World.lastCall { w with db, mirrorTasks := w.mirrorTasks ++ [task] } = w.lastCall := by
  unfold World.lastCall
  cases last : w.calls.getLast? with
  | none => rfl
  | some i =>
    simp only [Option.bind_some]
    rw [List.getElem?_append_left (ranged i (List.mem_of_getLast? last))]

section
variable {holds : σ → Email → Email → Prop} {group address : Email} {start w : World σ}

theorem Tracked.request (tracked : Tracked holds groupId memberId group address start w)
    (linked : memberGroupEmail start.db groupId = some group) {operation : MirrorOperation}
    {panel : Panel}
    (committed : panel = w.toPanel ∨ Committed groupId memberId operation w.toPanel panel) :
    Tracked holds groupId memberId group address start { w with toPanel := panel } := by
  rcases committed with rfl | ⟨frame, row, actorId, target, found, spawned⟩
  · exact tracked
  obtain ⟨db, mirrorTasks⟩ := panel
  simp only at frame row spawned
  have whole : db = { start.db with bodyMemberships := db.bodyMemberships } :=
    by rw [frame, tracked.frame]
  have last := World.lastCall_append tracked.ranged ⟨operation, actorId, groupId, memberId, target,
    memberGroupEmail db groupId⟩ db
  subst spawned
  exact
    { frame := whole
      tasks := by
        intro task there
        rcases List.mem_append.mp there with old | new
        · exact tracked.tasks task old
        · cases List.mem_singleton.mp new
          refine ⟨?_, ?_⟩
          · rw [whole]
            exact linked
          · rw [← found, tracked.frame]
            rfl
      statuses := tracked.statuses
      aimed := tracked.aimed
      reached := tracked.reached
      ranged := by
        intro i called
        rw [List.length_append]
        exact Nat.lt_add_right _ (tracked.ranged i called)
      row := by simp [World.lastRequest, leaves, row]
      held := by
        rw [last]
        exact tracked.held }

theorem Tracked.call (tracked : Tracked holds groupId memberId group address start w)
    (faithful : Faithful directory holds) (real : isExample address = false) {i : Nat}
    {task : Mirror} (there : w.mirrorTasks[i]? = some task) :
    Tracked holds groupId memberId group address start
      (World.put { w with
          google := (task.call directory address w.google).2, calls := w.calls ++ [i] } i
        (.called address (task.call directory address w.google).1)) where
  frame := tracked.frame
  tasks := tracked.tasks
  statuses := tracked.statuses
  aimed := by
    intro j a stage
    by_cases here : j = i
    · simp only [World.put, if_pos here] at stage
      rcases stage with resolved | ⟨outcome, called⟩
      · cases resolved
      · cases called
        rfl
    · exact tracked.aimed j a (by simpa [World.put, here] using stage)
  reached := by
    intro j stage
    by_cases here : j = i
    · exact List.mem_append.mpr (Or.inr (List.mem_singleton.mpr here))
    · exact List.mem_append_left _ (tracked.reached j (by simpa [World.put, here] using stage))
  ranged := by
    intro j called
    rcases List.mem_append.mp called with old | new
    · exact tracked.ranged j old
    · rw [List.mem_singleton.mp new]
      exact (List.getElem?_eq_some_iff.mp there).1
  row := tracked.row
  held := by
    have last : World.lastCall (World.put { w with
        google := (task.call directory address w.google).2, calls := w.calls ++ [i] } i
        (.called address (task.call directory address w.google).1)) = some task.operation := by
      simp [World.lastCall, World.put, there]
    rw [last]
    exact call_holds faithful (tracked.tasks task (List.mem_of_getElem? there)).1 real w.google

theorem Tracked.resolve (tracked : Tracked holds groupId memberId group address start w) {i : Nat} :
    Tracked holds groupId memberId group address start (w.put i (.addressed address)) where
  frame := tracked.frame
  tasks := tracked.tasks
  statuses := tracked.statuses
  aimed := by
    intro j a stage
    by_cases here : j = i
    · simp only [World.put, if_pos here] at stage
      rcases stage with resolved | ⟨outcome, called⟩
      · cases resolved
        rfl
      · cases called
    · exact tracked.aimed j a (by simpa [World.put, here] using stage)
  reached := by
    intro j stage
    by_cases here : j = i
    · simp [World.put, here] at stage
    · exact tracked.reached j (by simpa [World.put, here] using stage)
  ranged := tracked.ranged
  row := tracked.row
  held := tracked.held

theorem Tracked.finish (tracked : Tracked holds groupId memberId group address start w) {i : Nat}
    (called : ∃ a outcome, w.stages i = .called a outcome) {statuses : StatusStore}
    (remembered : Remembered address start.statuses statuses) :
    Tracked holds groupId memberId group address start
      (World.put { w with statuses } i .finished) where
  frame := tracked.frame
  tasks := tracked.tasks
  statuses := remembered
  aimed := by
    intro j a stage
    by_cases here : j = i
    · simp [World.put, here] at stage
    · exact tracked.aimed j a (by simpa [World.put, here] using stage)
  reached := by
    intro j stage
    by_cases here : j = i
    · rw [here]
      exact tracked.reached i (Or.inr called)
    · exact tracked.reached j (by simpa [World.put, here] using stage)
  ranged := tracked.ranged
  row := tracked.row
  held := tracked.held

theorem step_tracked (faithful : Faithful directory holds)
    (before : Before groupId memberId start group address) (e : MirrorEvent)
    (tracked : Tracked holds groupId memberId group address start w) :
    Tracked holds groupId memberId group address start (w.step directory groupId memberId e) := by
  cases e with
  | add now principal =>
    exact tracked.request before.linked (addMember_commits now principal w.toPanel)
  | remove principal =>
    exact tracked.request before.linked (removeMember_commits principal w.toPanel)
  | resolve i now =>
    simp only [World.step]
    split
    · rename_i task there spawned
      obtain ⟨target, moment, found, aim⟩ := before.target
      have mine : task.target = target :=
        Option.some.inj ((tracked.tasks task (List.mem_of_getElem? there)).2.symm.trans found)
      have aimed : targetAddress task.target w.statuses now = address := by
        rw [mine, ← aim]
        exact targetAddress_remembered (aim ▸ tracked.statuses)
      rw [aimed]
      exact tracked.resolve
    · exact tracked
  | call i =>
    simp only [World.step]
    split
    · rename_i task a there resolved
      cases tracked.aimed i a (Or.inl resolved)
      exact tracked.call faithful before.real there
    · rename_i task a outcome there called
      cases tracked.aimed i a (Or.inr ⟨outcome, called⟩)
      exact tracked.call faithful before.real there
    · exact tracked
  | remember i landed =>
    simp only [World.step]
    split
    · rename_i task a outcome there called
      cases tracked.aimed i a (Or.inr ⟨outcome, called⟩)
      refine tracked.finish ⟨_, outcome, called⟩ ?_
      split
      · exact remembered_again tracked.statuses landed
      · exact tracked.statuses
    · exact tracked

theorem initial_tracked (before : Before groupId memberId start group address) :
    Tracked holds groupId memberId group address start start := by
  obtain ⟨tasks, calls, stages⟩ := before.idle
  exact
    { frame := rfl
      tasks := by simp [tasks]
      statuses := Or.inl rfl
      aimed := by simp [stages]
      reached := by simp [stages]
      ranged := by simp [calls]
      row := by simp [World.lastRequest, tasks, leaves]
      held := by simp [World.lastCall, calls, leaves] }

/-! ### Drained tasks -/

/-- A call is performed after no call of a later request of the other operation. -/
def Unovertaken (w : World σ) : MirrorEvent → Prop
  | .call i => ∀ j ∈ w.calls, i < j → w.mirrorTasks[j]?.map (·.operation) = w.mirrorTasks[i]?.map
      (·.operation)
  | _ => True

/-- No later request than the last one called has been called for the other operation. -/
def World.InOrder (w : World σ) : Prop :=
  ∀ i, w.calls.getLast? = some i → ∀ j ∈ w.calls, i < j →
    w.mirrorTasks[j]?.map (·.operation) = w.mirrorTasks[i]?.map (·.operation)

theorem World.InOrder.request (ordered : w.InOrder)
    (ranged : ∀ i ∈ w.calls, i < w.mirrorTasks.length) {operation : MirrorOperation} {panel : Panel}
    (committed : panel = w.toPanel ∨ Committed groupId memberId operation w.toPanel panel) :
    World.InOrder { w with toPanel := panel } := by
  rcases committed with rfl | ⟨-, -, actorId, target, -, spawned⟩
  · exact ordered
  intro i last j called later
  show panel.mirrorTasks[j]?.map _ = panel.mirrorTasks[i]?.map _
  rw [spawned, List.getElem?_append_left (ranged j called),
    List.getElem?_append_left (ranged i (List.mem_of_getLast? last))]
  exact ordered i last j called later

theorem step_inOrder (e : MirrorEvent)
    (tracked : Tracked holds groupId memberId group address start w) (ordered : w.InOrder)
    (unovertaken : Unovertaken w e) :
    (w.step directory groupId memberId e).InOrder := by
  cases e with
  | add now principal =>
    exact ordered.request tracked.ranged (addMember_commits now principal w.toPanel)
  | remove principal =>
    exact ordered.request tracked.ranged (removeMember_commits principal w.toPanel)
  | resolve i now =>
    simp only [World.step]
    split <;> exact ordered
  | call i =>
    have called : ∀ k, (w.calls ++ [i]).getLast? = some k → ∀ j ∈ w.calls ++ [i], k < j →
        w.mirrorTasks[j]?.map (·.operation) = w.mirrorTasks[k]?.map (·.operation) := by
      intro k last j there later
      rw [List.getLast?_concat] at last
      cases last
      rcases List.mem_append.mp there with old | new
      · exact unovertaken j old later
      · rw [List.mem_singleton.mp new]
    simp only [World.step]
    split
    · exact called
    · exact called
    · exact ordered
  | remember i landed =>
    simp only [World.step]
    split <;> exact ordered

theorem Tracked.called (tracked : Tracked holds groupId memberId group address start w)
    (drained : w.Drained) {n : Nat} (within : n < w.mirrorTasks.length) : n ∈ w.calls :=
      tracked.reached n (Or.inl (drained n within))

theorem Tracked.lastCall_some (tracked : Tracked holds groupId memberId group address start w)
    {i : Nat} (last : w.calls.getLast? = some i) :
    ∃ task, w.mirrorTasks[i]? = some task ∧ w.lastCall = some task.operation := by
  have within := tracked.ranged i (List.mem_of_getLast? last)
  refine ⟨w.mirrorTasks[i], List.getElem?_eq_getElem within, ?_⟩
  rw [World.lastCall, last, Option.bind_some, List.getElem?_eq_getElem within, Option.map_some]

theorem Tracked.lastRequest_some (tracked : Tracked holds groupId memberId group address start w)
    (drained : w.Drained) {operation : MirrorOperation}
    (requested : w.lastRequest = some operation) :
    ∃ i task, w.calls.getLast? = some i ∧ w.mirrorTasks[w.mirrorTasks.length - 1]? = some task ∧
      task.operation = operation ∧ w.mirrorTasks.length - 1 ∈ w.calls := by
  obtain ⟨task, last, operated⟩ := Option.map_eq_some_iff.mp requested
  have some_ : w.mirrorTasks ≠ [] := by
    intro none_
    simp [none_] at last
  have within : w.mirrorTasks.length - 1 < w.mirrorTasks.length := by
    have := List.length_pos_iff.mpr some_
    omega
  have called := tracked.called drained within
  have calls : w.calls ≠ [] := List.ne_nil_of_mem called
  rw [List.getLast?_eq_getElem?] at last
  exact ⟨w.calls.getLast calls, task, List.getLast?_eq_some_getLast calls, last, operated, called⟩

theorem Tracked.agrees_iff (tracked : Tracked holds groupId memberId group address start w)
    (agreed : holds start.google group address ↔ start.db.hasMemberRow groupId memberId = true)
    (drained : w.Drained) :
    (holds w.google group address ↔ w.db.hasMemberRow groupId memberId = true) ↔
      w.lastCall = w.lastRequest := by
  rw [tracked.held, tracked.row]
  cases requested : w.lastRequest with
  | none =>
    have idle : w.mirrorTasks = [] := by simpa [World.lastRequest] using requested
    have uncalled : w.lastCall = none := by simp [World.lastCall, idle]
    simp [uncalled, leaves, agreed]
  | some operation =>
    obtain ⟨i, -, last, -⟩ := tracked.lastRequest_some drained requested
    obtain ⟨task, -, called⟩ := tracked.lastCall_some last
    rw [called]
    simp only [leaves, Option.some.injEq]
    cases task.operation <;> cases operation <;> simp

theorem Tracked.ordered_last (tracked : Tracked holds groupId memberId group address start w)
    (ordered : w.InOrder) (drained : w.Drained) : w.lastCall = w.lastRequest := by
  cases requested : w.lastRequest with
  | none =>
    have idle : w.mirrorTasks = [] := by simpa [World.lastRequest] using requested
    simp [World.lastCall, idle]
  | some operation =>
    obtain ⟨i, newest, last, there, operated, called⟩ := tracked.lastRequest_some drained requested
    obtain ⟨task, mine, lastCall⟩ := tracked.lastCall_some last
    have within := (List.getElem?_eq_some_iff.mp mine).1
    rw [lastCall, ← operated]
    by_cases same : i = w.mirrorTasks.length - 1
    · rw [same, there] at mine
      rw [Option.some.inj mine]
    · have agree := ordered i last _ called (by omega)
      rw [there, mine] at agree
      exact agree.symm

/-- Drained mirrors leave Google as the records are when, and only when, the last call it performed
did what the last request did; so whenever no call is overtaken by a later request's of the other
operation. -/
theorem drained_mirrors_agree (faithful : Faithful directory holds)
    (before : Before groupId memberId start group address)
    (agreed : holds start.google group address ↔ start.db.hasMemberRow groupId memberId = true)
    (events : List MirrorEvent)
    (drained : (events.foldl (World.step directory groupId memberId) start).Drained) :
    let w := events.foldl (World.step directory groupId memberId) start
    ((holds w.google group address ↔ w.db.hasMemberRow groupId memberId = true) ↔
      w.lastCall = w.lastRequest) ∧
      (Guarded (World.step directory groupId memberId) Unovertaken start events →
        (holds w.google group address ↔ w.db.hasMemberRow groupId memberId = true)) := by
  intro w
  have run : Guarded (World.step directory groupId memberId) (fun _ _ => True) start events :=
    guarded_of_forall (fun _ _ => trivial) start events
  have tracked : Tracked holds groupId memberId group address start w :=
    run_invariant (fun _ e kept _ => step_tracked faithful before e kept)
      (initial_tracked before) run
  refine ⟨tracked.agrees_iff agreed drained, fun unovertaken =>
    (tracked.agrees_iff agreed drained).mpr ?_⟩
  have fresh : start.InOrder := by simp [World.InOrder, before.idle.2.1]
  have preserved : ∀ (v : World σ) e,
    (Tracked holds groupId memberId group address start v ∧ v.InOrder) → Unovertaken v e →
      Tracked holds groupId memberId group address start (v.step directory groupId memberId e) ∧
        (v.step directory groupId memberId e).InOrder := fun v e kept guard =>
    ⟨step_tracked faithful before e kept.1, step_inOrder e kept.1 kept.2 guard⟩
  exact tracked.ordered_last (run_invariant preserved ⟨initial_tracked before, fresh⟩ unovertaken).2
    drained

end

end

/-! ### A remove that overtakes an add -/

/-- Google's groups as pairs of a group and an address. -/
def pairDirectory : Directory (List (Email × Email)) where
  insertMember := fun group address pairs =>
    if (group, address) ∈ pairs then (.error ⟨409, []⟩, pairs)
      else (.ok (), pairs ++ [(group, address)])
  deleteMember := fun group address pairs =>
    if (group, address) ∈ pairs then (.ok (), pairs.filter (· ≠ (group, address)))
      else (.error ⟨404, []⟩, pairs)
  listMembers := fun group pairs =>
    (.ok ((pairs.filter (·.1 = group)).map (fun pair => ⟨pair.2, .member, none, none⟩)), pairs)
  getGroup := fun _ pairs => (.ok (), pairs)

theorem pairDirectory_faithful :
    Faithful pairDirectory (fun pairs group address => (group, address) ∈ pairs) where
  inserts := by
    intro group address pairs
    rw [pairDirectory]
    dsimp only
    split
    · exact Or.inr ⟨_, rfl, rfl⟩
    · exact Or.inl rfl
  holding := by
    intro group address pairs
    rw [pairDirectory]
    dsimp only
    split
    · assumption
    · simp
  deletes := by
    intro group address pairs
    rw [pairDirectory]
    dsimp only
    split
    · exact Or.inl rfl
    · exact Or.inr ⟨_, rfl, rfl⟩
  rid := by
    intro group address pairs
    rw [pairDirectory]
    dsimp only
    split
    · simp
    · assumption

def mirrorWorld : World (List (Email × Email)) where
  db := { Database.empty with
    members := [{ plainMember 0 (str "ana@pdx.org") with discordUserId := some 42 },
      plainMember 1 (str "kris@pdx.org")]
    leadershipBodies :=
      [⟨2, str "Steering", str "committee", some (str "sl@pdx.org"), some (str "sm@pdx.org")⟩]
    bodyMemberships := [⟨0, 2, .leader, none, none⟩]
    nextId := 3 }
  mirrorTasks := []
  statuses := ⟨Dict.empty, true⟩
  google := []
  stages := fun _ => .spawned
  calls := []

def requests : List MirrorEvent := [.add 5 ⟨str "42"⟩, .remove ⟨str "42"⟩]

/-- The calls of an add and of the remove after it, in the other order. -/
def overtakenRun : List MirrorEvent :=
  requests ++ [.resolve 0 6, .resolve 1 6, .call 1, .call 0, .remember 0 none, .remember 1 none]

theorem mirrorWorld_before : Before 2 1 mirrorWorld (str "sm@pdx.org") (str "kris@pdx.org") where
  idle := ⟨rfl, rfl, rfl⟩
  linked := by decide +kernel
  target := ⟨mirrorWorld.db.memberRow (plainMember 1 (str "kris@pdx.org")), 0,
    by decide +kernel, by decide +kernel⟩
  real := by decide +kernel

theorem overtaken_add_stays : Faithful pairDirectory (fun pairs group address =>
    (group, address) ∈ pairs) ∧ Before 2 1 mirrorWorld (str "sm@pdx.org") (str "kris@pdx.org") ∧
    ((str "sm@pdx.org", str "kris@pdx.org") ∈ mirrorWorld.google ↔
      mirrorWorld.db.hasMemberRow 2 1 = true) ∧
    (overtakenRun.foldl (World.step pairDirectory 2 1) mirrorWorld).Drained ∧
    (overtakenRun.foldl (World.step pairDirectory 2 1) mirrorWorld).db.hasMemberRow 2 1 = false ∧
    (str "sm@pdx.org", str "kris@pdx.org") ∈
      (overtakenRun.foldl (World.step pairDirectory 2 1) mirrorWorld).google := by
  refine ⟨pairDirectory_faithful, mirrorWorld_before, ?_⟩
  decide +kernel

def orderedRun : List MirrorEvent :=
  requests ++ [.resolve 0 6, .resolve 1 6, .call 0, .call 0, .remember 0 (some 7), .call 1,
    .remember 1 none]

theorem drained_mirrors_agree_ordered :
    ((str "sm@pdx.org", str "kris@pdx.org") ∈
      (orderedRun.foldl (World.step pairDirectory 2 1) mirrorWorld).google ↔
      (orderedRun.foldl (World.step pairDirectory 2 1) mirrorWorld).db.hasMemberRow 2 1 =
        true) := by
  have agreed : (str "sm@pdx.org", str "kris@pdx.org") ∈ mirrorWorld.google ↔
      mirrorWorld.db.hasMemberRow 2 1 = true := by
    decide +kernel
  have agrees := drained_mirrors_agree pairDirectory_faithful mirrorWorld_before agreed orderedRun
    (by decide +kernel)
  exact agrees.1.mpr (by decide +kernel)

end Web

end Rosadmin
