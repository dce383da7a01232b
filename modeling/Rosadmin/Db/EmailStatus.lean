import Rosadmin.GroupSync

/-!
# What Google last said about each address

The `google_email_status` table, under its primary key, and the two writes that
close a sweep.
-/

namespace Rosadmin
open Foundation

def retryAfter : Time := 90 * 24 * 3600 * 1000000

def retriesPerRun : Nat := 25

def refusalFuseCeiling : Nat := 25

def acceptedStatus : Str := str "accepted"

structure StatusRow where
  status : Str
  observedAt : Time
  deriving DecidableEq

structure StatusStore where
  googleEmailStatus : Dict Str StatusRow
  bootstrappedRefusalLearning : Bool

def emailStatuses (store : StatusStore) (now : Time) : EmailStatuses :=
  let rows := store.googleEmailStatus.items
  let refused := rows.filter (fun e => e.2.status ≠ acceptedStatus)
  { accepted := (rows.filter (fun e => e.2.status = acceptedStatus)).map (·.1)
    refusedAt := refused.foldl (fun d e => d.set e.1 e.2.observedAt) Dict.empty
    live := (refused.filter (fun e => now - retryAfter < e.2.observedAt)).map (·.1) }

/-- The connection a status is written through: the time of a write that lands, or none. -/
structure StatusWriter (σ : Type) where
  write : Str → Str → σ → Option Time × σ

structure Refusal where
  address : Email
  memberId : UUID
  groupEmail : Email
  outcome : SyncOutcome
  deriving DecidableEq

structure RefusalReport where
  received : Nat
  retries : Nat
  recorded : Nat
  refused : Nat
  deriving DecidableEq

section
variable {σ : Type} (writer : StatusWriter σ)

def recordStatus (address : Email) (status : Str) (store : StatusStore) (port : σ) :
    Bool × StatusStore × σ :=
  match writer.write (lower address) status port with
  | (some now, port) =>
    (true, { store with googleEmailStatus := store.googleEmailStatus.set (lower address) ⟨status,
      now⟩ }, port)
  | (none, port) => (false, store, port)

/-- Best effort: a write that fails is passed over. -/
def rememberAccepted (addresses : List Email) (store : StatusStore) (port : σ) : StatusStore × σ :=
  addresses.foldl (fun (store, port) address =>
    (recordStatus writer address acceptedStatus store port).2) (store, port)

/-- One refusal of the batch: how many have landed, and the store. -/
def recordRefusal (acc : Nat × StatusStore × σ) (refusal : Refusal) : Nat × StatusStore × σ :=
  let (landed, rest) := recordStatus writer refusal.address refusal.outcome.value acc.2.1 acc.2.2
  (if landed then acc.1 + 1 else acc.1, rest)

/-- The refusals of addresses that were not lapsed refusals already. -/
def refusalNews (known : List Str) (refusals : List Refusal) : Nat :=
  refusals.countP (fun refusal => lower refusal.address ∉ known)

def refusalFuseTrips (store : StatusStore) (known : List Str) (refusals : List Refusal) : Bool :=
  store.bootstrappedRefusalLearning && refusalFuseCeiling < refusalNews known refusals

/-- Write down what Google refused this run. -/
def commitRefusals (refusals : List Refusal) (known : List Str) (dryRun : Bool)
    (store : StatusStore) (port : σ) : RefusalReport × StatusStore × σ :=
  let received := refusals.length
  let retries := received - refusalNews known refusals
  if dryRun then (⟨received, retries, 0, 0⟩, store, port)
  else if refusalFuseTrips store known refusals then (⟨received, retries, 0, received⟩, store, port)
  else
    let (recorded, store, port) := refusals.foldl (recordRefusal writer) (0, store, port)
    let store := if ¬store.bootstrappedRefusalLearning ∧ 0 < recorded
      then { store with bootstrappedRefusalLearning := true } else store
    (⟨received, retries, recorded, 0⟩, store, port)

end

/-! ### Reading the writes back -/

def StatusStore.statusOf (store : StatusStore) (key : Str) : Option Str :=
  (store.googleEmailStatus.get? key).map (·.status)

def StatusWriter.landing {σ : Type} (clock : σ → Time × σ) : StatusWriter σ :=
  ⟨fun _ _ port => (some (clock port).1, (clock port).2)⟩

theorem refused_not_accepted {outcome : SyncOutcome} (refused : outcome.unmirrorable = true) :
    outcome.value ≠ acceptedStatus := by
  cases outcome with
  | noGoogleAccount => decide
  | addressNotFound => decide
  | _ => cases refused

theorem mem_accepted {store : StatusStore} {now : Time} {key : Str} :
    key ∈ (emailStatuses store now).accepted ↔ store.statusOf key = some acceptedStatus := by
  unfold emailStatuses StatusStore.statusOf
  rw [Option.map_eq_some_iff]
  simp only [List.mem_map, List.mem_filter, decide_eq_true_eq, Dict.get?_eq_some_iff]
  constructor
  · rintro ⟨⟨k, row⟩, ⟨item, status⟩, rfl⟩
    exact ⟨row, item, status⟩
  · rintro ⟨row, item, status⟩
    exact ⟨(key, row), ⟨item, status⟩, rfl⟩

section
variable {σ : Type} {clock : σ → Time × σ}

theorem statusOf_recordStatus (address : Email) (status : Str) (store : StatusStore) (port : σ)
    (key : Str) : (recordStatus (.landing clock) address status store port).2.1.statusOf key =
      if key = lower address then some status else store.statusOf key := by
  unfold StatusStore.statusOf recordStatus StatusWriter.landing
  simp only [Dict.get?_set]
  split <;> rfl

theorem statusOf_rememberAccepted (addresses : List Email) (store : StatusStore) (port : σ)
    (key : Str) : (rememberAccepted (.landing clock) addresses store port).1.statusOf key =
      if key ∈ addresses.map lower then some acceptedStatus else store.statusOf key := by
  unfold rememberAccepted
  induction addresses generalizing store port with
  | nil => rfl
  | cons address addresses ih =>
    rw [List.foldl_cons, ih, statusOf_recordStatus, List.map_cons]
    by_cases here : key = lower address
    · simp [here]
    · simp [here]

theorem statusOf_refusals_other {refusals : List Refusal} {key : Str}
    (other : ∀ r ∈ refusals, lower r.address ≠ key) (acc : Nat × StatusStore × σ) :
    (refusals.foldl (recordRefusal (.landing clock)) acc).2.1.statusOf key =
      acc.2.1.statusOf key := by
  induction refusals generalizing acc with
  | nil => rfl
  | cons r refusals ih =>
    rw [List.foldl_cons, ih (fun d member => other d (List.mem_cons_of_mem _ member))]
    exact (statusOf_recordStatus _ _ _ _ _).trans (if_neg (other r List.mem_cons_self).symm)

theorem statusOf_refusals_some (clock : σ → Time × σ) {refusals : List Refusal} {key : Str}
    (refused : ∃ r ∈ refusals, lower r.address = key) (acc : Nat × StatusStore × σ) :
    ∃ r ∈ refusals, lower r.address = key ∧
      (refusals.foldl (recordRefusal (.landing clock)) acc).2.1.statusOf key =
        some r.outcome.value := by
  induction refusals generalizing acc with
  | nil => obtain ⟨r, member, -⟩ := refused; cases member
  | cons r refusals ih =>
    rw [List.foldl_cons]
    by_cases later : ∃ d ∈ refusals, lower d.address = key
    · obtain ⟨d, member, same, status⟩ := ih later (recordRefusal (.landing clock) acc r)
      exact ⟨d, List.mem_cons_of_mem _ member, same, status⟩
    · have here : lower r.address = key := by
        obtain ⟨d, member, same⟩ := refused
        rcases List.mem_cons.mp member with rfl | member
        · exact same
        · exact absurd ⟨d, member, same⟩ later
      refine ⟨r, List.mem_cons_self, here, ?_⟩
      rw [statusOf_refusals_other (fun d member same => later ⟨d, member, same⟩)]
      exact (statusOf_recordStatus _ _ _ _ _).trans (if_pos here.symm)

/-- What the batch leaves of a status: nothing is written past the fuse. -/
theorem statusOf_commitRefusals (refusals : List Refusal) (known : List Str) (store : StatusStore)
    (port : σ) (key : Str) :
    (commitRefusals (.landing clock) refusals known false store port).2.1.statusOf key =
      if refusalFuseTrips store known refusals then store.statusOf key
      else (refusals.foldl (recordRefusal (.landing clock)) (0, store, port)).2.1.statusOf key := by
  unfold commitRefusals
  rw [if_neg Bool.false_ne_true]
  split
  · rfl
  · dsimp only
    split <;> rfl

end

/-! ### Live and lapsed refusals -/

theorem mem_refused (store : StatusStore) (key : Str) (holds : StatusRow → Bool) :
    key ∈ ((store.googleEmailStatus.items.filter (fun e => e.2.status ≠ acceptedStatus)).filter
        (fun e => holds e.2)).map (·.1) ↔
      ∃ row, store.googleEmailStatus.get? key = some row ∧ row.status ≠ acceptedStatus ∧
        holds row = true := by
  simp only [List.mem_map, List.mem_filter, decide_eq_true_eq, Dict.get?_eq_some_iff]
  constructor
  · rintro ⟨⟨k, row⟩, ⟨⟨item, status⟩, here⟩, rfl⟩
    exact ⟨row, item, status, here⟩
  · rintro ⟨row, item, status, here⟩
    exact ⟨(key, row), ⟨⟨item, status⟩, here⟩, rfl⟩

theorem mem_live {store : StatusStore} {now : Time} {key : Str} :
    key ∈ (emailStatuses store now).live ↔ ∃ row, store.googleEmailStatus.get? key = some row ∧
      row.status ≠ acceptedStatus ∧ now - retryAfter < row.observedAt := by
  have refused : key ∈ (emailStatuses store now).live ↔ _ :=
    mem_refused store key fun row => now - retryAfter < row.observedAt
  simpa using refused

theorem mem_lapsed {store : StatusStore} {now : Time} {key : Str} :
    key ∈ (emailStatuses store now).lapsed ↔ ∃ row, store.googleEmailStatus.get? key = some row ∧
      row.status ≠ acceptedStatus ∧ ¬now - retryAfter < row.observedAt := by
  have folded : ∀ (es : List (Str × StatusRow)) (d : Dict Str Time),
      key ∈ es.foldl (fun d e => d.set e.1 e.2.observedAt) d ↔ key ∈ d ∨ key ∈ es.map (·.1) := by
    intro es
    induction es with
    | nil => simp
    | cons e es ih =>
      intro d
      rw [List.foldl_cons, ih, Dict.mem_set, List.map_cons, List.mem_cons]
      tauto
  have refused : key ∈ (emailStatuses store now).refusedAt ↔
      ∃ row, store.googleEmailStatus.get? key = some row ∧ row.status ≠ acceptedStatus := by
    have all := mem_refused store key fun _ => true
    unfold emailStatuses
    dsimp only
    rw [folded]
    simpa using all
  rw [EmailStatuses.lapsed, List.mem_filter, decide_eq_true_eq, mem_live]
  constructor
  · rintro ⟨listed, old⟩
    obtain ⟨row, here, status⟩ := refused.mp listed
    exact ⟨row, here, status, fun young => old ⟨row, here, status, young⟩⟩
  · rintro ⟨row, here, status, old⟩
    refine ⟨refused.mpr ⟨row, here, status⟩, ?_⟩
    rintro ⟨other, there, -, young⟩
    obtain rfl := Option.some.inj (here.symm.trans there)
    exact old young

/-- Every key of `keys` was written at `since` or later, and no other. -/
structure Rewritten (since : Time) (keys : List Str) (before after : StatusStore) : Prop where
  fresh : ∀ key ∈ keys, ∃ row, after.googleEmailStatus.get? key = some row ∧ since ≤ row.observedAt
  kept : ∀ key, key ∉ keys → after.googleEmailStatus.get? key = before.googleEmailStatus.get? key

/-- What was written since then has not lapsed, and the rest is as it was. -/
theorem Rewritten.lapsed {since : Time} {keys : List Str} {before after : StatusStore}
    (rewritten : Rewritten since keys before after) (key : Str) :
    key ∈ (emailStatuses after since).lapsed ↔ key ∈ (emailStatuses before since).lapsed ∧
      key ∉ keys := by
  rw [mem_lapsed, mem_lapsed]
  by_cases written : key ∈ keys
  · obtain ⟨row, here, young⟩ := rewritten.fresh key written
    refine iff_of_false ?_ fun both => both.2 written
    intro lapsed
    obtain ⟨other, there, -, old⟩ := lapsed
    obtain rfl := Option.some.inj (here.symm.trans there)
    have period : since - retryAfter < since := Int.sub_lt_self since (by decide)
    exact old (lt_of_lt_of_le period young)
  · rw [rewritten.kept key written]
    exact (and_iff_left written).symm

theorem rewritten_nil {since : Time} {store : StatusStore} : Rewritten since [] store store where
  fresh key member := by cases member
  kept _ _ := rfl

theorem Rewritten.append {since : Time} {first second : List Str} {a b c : StatusStore}
    (one : Rewritten since first a b) (two : Rewritten since second b c) :
    Rewritten since (first ++ second) a c where
  fresh key member := by
    by_cases again : key ∈ second
    · exact two.fresh key again
    · rw [two.kept key again]
      exact one.fresh key ((List.mem_append.mp member).resolve_right again)
  kept key outside := by
    rw [List.mem_append, not_or] at outside
    rw [two.kept key outside.2, one.kept key outside.1]

section
variable {σ : Type} {clock : σ → Time × σ} {since : Time}

theorem rewritten_recordStatus (timely : ∀ port, since ≤ (clock port).1) (address : Email)
    (status : Str) (store : StatusStore) (port : σ) :
    Rewritten since [lower address] store
      (recordStatus (.landing clock) address status store port).2.1 where
  fresh key member := by
    rw [List.mem_singleton.mp member]
    unfold recordStatus StatusWriter.landing
    exact ⟨⟨status, (clock port).1⟩, by simp, timely port⟩
  kept key outside := by
    have other : key ≠ lower address := fun here => outside (List.mem_singleton.mpr here)
    unfold recordStatus StatusWriter.landing
    simp [other]

theorem rewritten_refusals (timely : ∀ port, since ≤ (clock port).1) (refusals : List Refusal)
    (acc : Nat × StatusStore × σ) :
    Rewritten since (refusals.map (fun r => lower r.address)) acc.2.1
      (refusals.foldl (recordRefusal (.landing clock)) acc).2.1 := by
  induction refusals generalizing acc with
  | nil => exact rewritten_nil
  | cons r refusals ih =>
    exact (rewritten_recordStatus timely r.address r.outcome.value acc.2.1 acc.2.2).append
      (ih (recordRefusal (.landing clock) acc r))

theorem rewritten_rememberAccepted (timely : ∀ port, since ≤ (clock port).1)
    (addresses : List Email) (store : StatusStore) (port : σ) :
    Rewritten since (addresses.map lower) store
      (rememberAccepted (.landing clock) addresses store port).1 := by
  unfold rememberAccepted
  induction addresses generalizing store port with
  | nil => exact rewritten_nil
  | cons a addresses ih =>
    exact (rewritten_recordStatus timely a acceptedStatus store port).append (ih _ _)

theorem rewritten_commitRefusals (timely : ∀ port, since ≤ (clock port).1) (refusals : List Refusal)
    (known : List Str) (store : StatusStore) (port : σ) :
    Rewritten since (if refusalFuseTrips store known refusals then []
      else refusals.map (fun r => lower r.address))
      store (commitRefusals (.landing clock) refusals known false store port).2.1 := by
  unfold commitRefusals
  rw [if_neg Bool.false_ne_true]
  split
  · exact rewritten_nil
  · have written := rewritten_refusals timely refusals (0, store, port)
    dsimp only
    split
    · exact ⟨written.fresh, written.kept⟩
    · exact written

end

end Rosadmin
