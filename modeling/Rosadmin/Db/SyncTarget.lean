import Rosadmin.Db.EmailStatus
import Rosadmin.Foundation.Fallible

/-!
# Choosing a member's address

`sync_target` as it runs, each lookup able to fail, and what it may choose: it
falls back on a refused address only when every candidate is refused, and on a
live refusal only when every refusal is live.
-/

namespace Rosadmin
open Foundation

/-- What `min` raises: there is nothing to choose from, or the key function finds no refusal. -/
inductive MinFault where
  | valueError
  | keyError (key : Str)
  deriving DecidableEq

section
variable (statuses : EmailStatuses)

/-- `statuses.refused_at[address.lower()]` -/
def refusedTime (address : Email) : Except MinFault Time :=
  match statuses.refusedAt.get? (lower address) with
  | some time => .ok time
  | none => .error (.keyError (lower address))

def minFrom (best : Email) (time : Time) : List Email → Except MinFault Email
  | [] => .ok best
  | a :: rest => do
    let next ← refusedTime statuses a
    if next < time then minFrom a next rest else minFrom best time rest

/-- `min(candidates, key=lambda address: statuses.refused_at[address.lower()])` -/
def minRefused : List Email → Except MinFault Email
  | [] => .error .valueError
  | a :: rest => do minFrom statuses a (← refusedTime statuses a) rest

def chooseTarget (row : SyncAddresses) : Except MinFault Email :=
  if isExample row.email then .ok row.email
  else
    let offered := candidates row.email row.alternateEmail
    match offered.find? (fun a => lower a ∈ statuses.accepted) with
    | some a => .ok a
    | none => match offered.find? (fun a => lower a ∉ statuses.refusedAt) with
      | some a => .ok a
      | none => minRefused statuses offered

end

/-! ### Nothing is raised -/

section
variable {statuses : EmailStatuses}

theorem refusedTime_ok {a : Email} {time : Time} :
    refusedTime statuses a = .ok time ↔ statuses.refusedAt.get? (lower a) = some time := by
  unfold refusedTime
  split
  · rename_i found
    rw [found, Except.ok.injEq, Option.some.injEq]
  · rename_i missing
    simp [missing]

theorem refusedTime_of_refused {a : Email} (refused : lower a ∈ statuses.refusedAt) :
    ∃ time, refusedTime statuses a = .ok time := by
  obtain ⟨time, item⟩ := Dict.mem_iff_item.mp refused
  exact ⟨time, refusedTime_ok.mpr (Dict.get?_eq_some_iff.mpr item)⟩

/-- Over refused addresses the minimum is found, and no address was refused before it. -/
theorem minFrom_least {rest : List Email} (refused : ∀ a ∈ rest, lower a ∈ statuses.refusedAt)
    {best : Email} {time : Time} (here : refusedTime statuses best = .ok time) :
    minFrom statuses best time rest = .ok (oldestRefusal statuses best rest) ∧
      ∃ least, refusedTime statuses (oldestRefusal statuses best rest) = .ok least ∧ least ≤ time ∧
        ∀ a ∈ rest, ∀ t, refusedTime statuses a = .ok t → least ≤ t := by
  induction rest generalizing best time with
  | nil => exact ⟨rfl, time, here, le_refl _, fun a none => absurd none List.not_mem_nil⟩
  | cons a rest ih =>
    obtain ⟨next, read⟩ := refusedTime_of_refused (refused a List.mem_cons_self)
    have later : ∀ b ∈ rest, lower b ∈ statuses.refusedAt :=
      fun b member => refused b (List.mem_cons_of_mem _ member)
    have heads : (statuses.refusedAt.get? (lower a)).getD 0 = next :=
      by rw [refusedTime_ok.mp read]; rfl
    have bests : (statuses.refusedAt.get? (lower best)).getD 0 = time :=
      by rw [refusedTime_ok.mp here]; rfl
    unfold minFrom oldestRefusal
    rw [read, ok_bind, heads, bests]
    by_cases older : next < time
    · rw [if_pos older, if_pos older]
      obtain ⟨run, least, found, below, each⟩ := ih later read
      refine ⟨run, least, found, below.trans older.le, ?_⟩
      intro b member t at_
      rcases List.mem_cons.mp member with rfl | member
      · cases read.symm.trans at_
        exact below
      · exact each b member t at_
    · rw [if_neg older, if_neg older]
      obtain ⟨run, least, found, below, each⟩ := ih later here
      refine ⟨run, least, found, below, ?_⟩
      intro b member t at_
      rcases List.mem_cons.mp member with rfl | member
      · cases read.symm.trans at_
        exact below.trans (not_lt.mp older)
      · exact each b member t at_

/-- The three searches of a real record: what the first that succeeds says of the candidates. -/
inductive Chosen (statuses : EmailStatuses) (offered : List Email) (a : Email) : Prop where
  | accepted (holds : lower a ∈ statuses.accepted)
  | fresh (none : ∀ c ∈ offered, lower c ∉ statuses.accepted)
      (unrefused : lower a ∉ statuses.refusedAt)
  | oldest (none : ∀ c ∈ offered, lower c ∉ statuses.accepted) (all : ∀ c ∈ offered,
      lower c ∈ statuses.refusedAt)
      (least : Time) (time : refusedTime statuses a = .ok least)
      (first : ∀ c ∈ offered, ∀ t, refusedTime statuses c = .ok t → least ≤ t)

theorem chooseTarget_chosen {row : SyncAddresses} (real : isExample row.email = false) :
    chooseTarget statuses row = .ok (syncTarget row statuses) ∧
      Chosen statuses (candidates row.email row.alternateEmail) (syncTarget row statuses) := by
  have some_ := candidates_ne_nil row.email row.alternateEmail
  unfold chooseTarget syncTarget
  rw [if_neg (by simp [real]), if_neg (by simp [real])]
  dsimp only
  generalize candidates row.email row.alternateEmail = offered at *
  cases taken : offered.find? (fun a => lower a ∈ statuses.accepted) with
  | some a => exact ⟨rfl, .accepted (by simpa using List.find?_some taken)⟩
  | none =>
    have none : ∀ c ∈ offered, lower c ∉ statuses.accepted := by simpa using taken
    cases untried : offered.find? (fun a => lower a ∉ statuses.refusedAt) with
    | some a => exact ⟨rfl, .fresh none (by simpa using List.find?_some untried)⟩
    | none =>
      have all : ∀ c ∈ offered, lower c ∈ statuses.refusedAt := by simpa using untried
      cases offered with
      | nil => exact absurd rfl some_
      | cons a rest =>
        obtain ⟨time, read⟩ := refusedTime_of_refused (all a List.mem_cons_self)
        have later : ∀ c ∈ rest, lower c ∈ statuses.refusedAt :=
          fun c member => all c (List.mem_cons_of_mem _ member)
        obtain ⟨run, least, found, below, each⟩ := minFrom_least later read
        refine ⟨?_, .oldest none all least found ?_⟩
        · show minRefused statuses (a :: rest) = _
          rw [minRefused, read, ok_bind, run]
        · intro c member t at_
          rcases List.mem_cons.mp member with rfl | member
          · cases read.symm.trans at_
            exact below
          · exact each c member t at_

theorem chooseTarget_ok (row : SyncAddresses) :
    chooseTarget statuses row = .ok (syncTarget row statuses) := by
  by_cases real : isExample row.email = true
  · rw [chooseTarget, syncTarget, if_pos real, if_pos real]
  · exact (chooseTarget_chosen (eq_false_of_ne_true real)).1

end

/-! ### What is chosen -/

/-- No address is both accepted and refused, and the live refusals are those after some cutoff. -/
structure EmailStatuses.Orderly (statuses : EmailStatuses) : Prop where
  disjoint : ∀ key ∈ statuses.accepted, key ∉ statuses.refusedAt
  cutoff : ∃ since, ∀ key, key ∈ statuses.live ↔ ∃ time, statuses.refusedAt.get? key = some time ∧
    since < time

theorem refusedAt_get? {store : StatusStore} {now : Time} {key : Str} {time : Time} :
    (emailStatuses store now).refusedAt.get? key = some time ↔
      ∃ row, store.googleEmailStatus.get? key = some row ∧
      row.status ≠ acceptedStatus ∧ row.observedAt = time := by
  let refused : Dict Str StatusRow :=
    ⟨store.googleEmailStatus.items.filter (fun e => e.2.status ≠ acceptedStatus),
    store.googleEmailStatus.nodup.sublist (List.filter_sublist.map _)⟩
  have read : (emailStatuses store now).refusedAt.get? key = (refused.get? key).map
      (·.observedAt) :=
    Dict.get?_foldl_set refused (·.observedAt) key
  rw [read, Option.map_eq_some_iff]
  simp only [Dict.get?_eq_some_iff, refused, List.mem_filter, decide_eq_true_eq, and_assoc]

theorem mem_refusedAt {store : StatusStore} {now : Time} {key : Str} :
    key ∈ (emailStatuses store now).refusedAt ↔
      ∃ status, store.statusOf key = some status ∧ status ≠ acceptedStatus := by
  rw [Dict.mem_iff_item]
  simp only [← Dict.get?_eq_some_iff, refusedAt_get?, StatusStore.statusOf, Option.map_eq_some_iff]
  constructor
  · rintro ⟨time, row, stored, other, -⟩
    exact ⟨row.status, ⟨row, stored, rfl⟩, other⟩
  · rintro ⟨_, ⟨row, stored, rfl⟩, other⟩
    exact ⟨row.observedAt, row, stored, other, rfl⟩

/-- The statuses read back from the table are orderly, whatever has been recorded there. -/
theorem emailStatuses_orderly (store : StatusStore) (now : Time) :
    (emailStatuses store now).Orderly where
  disjoint := by
    intro key accepted refused
    obtain ⟨status, stored, other⟩ := mem_refusedAt.mp refused
    exact other (Option.some.inj (stored.symm.trans (mem_accepted.mp accepted)))
  cutoff := by
    refine ⟨now - retryAfter, fun key => mem_live.trans ?_⟩
    constructor
    · rintro ⟨row, stored, other, recent⟩
      exact ⟨row.observedAt, refusedAt_get?.mpr ⟨row, stored, other, rfl⟩, recent⟩
    · rintro ⟨time, refused, recent⟩
      obtain ⟨row, stored, other, rfl⟩ := refusedAt_get?.mp refused
      exact ⟨row, stored, other, recent⟩

/-- A member is withheld only when no candidate is left to offer. -/
structure WithheldOnlyWhenForced (row : SyncAddresses) (statuses : EmailStatuses) (a : Email) :
    Prop where
  own : a = row.email ∨ row.alternateEmail = some a
  fabricated : isExample a = true ↔ isExample row.email = true
  accepted : isExample row.email = false →
    (∃ c ∈ candidates row.email row.alternateEmail, lower c ∈ statuses.accepted) →
      lower a ∈ statuses.accepted
  fresh : isExample row.email = false →
    (∃ c ∈ candidates row.email row.alternateEmail, lower c ∉ statuses.refusedAt) →
      lower a ∉ statuses.refusedAt
  live : isExample row.email = false → lower a ∈ statuses.live →
    ∀ c ∈ candidates row.email row.alternateEmail, lower c ∈ statuses.live

theorem candidates_real {primary : Email} {alternate : Option Email}
    (real : isExample primary = false) {a : Email} (offered : a ∈ candidates primary alternate) :
    isExample a = false := by
  unfold candidates at offered
  split at offered
  · rw [List.mem_singleton.mp offered]
    exact real
  split at offered
  · rw [List.mem_singleton.mp offered]
    exact real
  split at offered
  · rw [List.mem_singleton.mp offered]
    exact real
  rename_i deliverable
  split at offered
  all_goals
    simp only [List.mem_cons, List.not_mem_nil, or_false] at offered
    rcases offered with rfl | rfl
    · first | exact real | exact eq_false_of_ne_true deliverable
    · first | exact real | exact eq_false_of_ne_true deliverable

theorem isExample_syncTarget (row : SyncAddresses) (statuses : EmailStatuses) :
    isExample (syncTarget row statuses) = isExample row.email := by
  cases real : isExample row.email with
  | true =>
    have same : syncTarget row statuses = row.email := if_pos real
    rw [same, real]
  | false => exact candidates_real real (syncTarget_candidate real statuses)

theorem chosen_live {statuses : EmailStatuses} (orderly : statuses.Orderly) {offered : List Email}
    {a : Email} (chosen : Chosen statuses offered a) (live : lower a ∈ statuses.live) :
    ∀ c ∈ offered, lower c ∈ statuses.live := by
  obtain ⟨since, after⟩ := orderly.cutoff
  obtain ⟨time, refused, recent⟩ := (after _).mp live
  cases chosen with
  | accepted holds => exact absurd (Dict.mem_of_get? refused) (orderly.disjoint _ holds)
  | fresh none unrefused => exact absurd (Dict.mem_of_get? refused) unrefused
  | oldest none all least read first =>
    intro c member
    cases read.symm.trans (refusedTime_ok.mpr refused)
    obtain ⟨t, at_⟩ := refusedTime_of_refused (all c member)
    exact (after _).mpr ⟨t, refusedTime_ok.mp at_, recent.trans_le (first c member t at_)⟩

/-- `sync_target` raises nothing and withholds a member only when it must. -/
theorem chooseTarget_withholds {statuses : EmailStatuses} (orderly : statuses.Orderly)
    (row : SyncAddresses) :
    ∃ a, chooseTarget statuses row = .ok a ∧ WithheldOnlyWhenForced row statuses a := by
  refine ⟨syncTarget row statuses, chooseTarget_ok row, ?_⟩
  have alike := isExample_syncTarget row statuses
  by_cases fabricated : isExample row.email = true
  · refine ⟨syncTarget_mem row statuses, by rw [alike], ?_, ?_, ?_⟩ <;>
    · intro real
      cases real.symm.trans fabricated
  · have real : isExample row.email = false := eq_false_of_ne_true fabricated
    have chosen : Chosen statuses _ (syncTarget row statuses) := (chooseTarget_chosen real).2
    refine ⟨syncTarget_mem row statuses,
      by rw [alike], fun _ => ?_, fun _ => ?_, fun _ => chosen_live orderly chosen⟩
    · rintro ⟨c, member, taken⟩
      cases chosen with
      | accepted holds => exact holds
      | fresh none _ => exact absurd taken (none c member)
      | oldest none _ _ _ _ => exact absurd taken (none c member)
    · rintro ⟨c, member, untried⟩
      cases chosen with
      | accepted holds => exact orderly.disjoint _ holds
      | fresh _ unrefused => exact unrefused
      | oldest _ all _ _ _ => exact absurd (all c member) untried

/-- The gmail alternate was refused after the primary, and only its refusal is still live. -/
def twiceRefused : StatusStore :=
  { googleEmailStatus := (Dict.empty.set (str "ada@pdx.org")
    ⟨SyncOutcome.noGoogleAccount.value, 5⟩).set
      (str "ada@gmail.com") ⟨SyncOutcome.addressNotFound.value, retryAfter⟩
    bootstrappedRefusalLearning := false }

theorem chooseTarget_withholds_refused :
    ∃ a, chooseTarget (emailStatuses twiceRefused (retryAfter + 10)) ⟨str "ada@pdx.org",
      some (str "ada@gmail.com")⟩ = .ok a ∧
      WithheldOnlyWhenForced ⟨str "ada@pdx.org", some (str "ada@gmail.com")⟩
        (emailStatuses twiceRefused (retryAfter + 10)) a :=
  chooseTarget_withholds (emailStatuses_orderly twiceRefused (retryAfter + 10)) _

end Rosadmin
