import Rosadmin.Foundation.Runs

/-!
# Transactions over snapshots, retried

A call takes its snapshot and then waits for its turn, so others may commit in
between. Its body sees the snapshot, and what was written since it was taken;
it commits, is refused and tried again, or fails. Where nothing written since
is committed over, the calls that return leave what they leave one by one.
-/

namespace Foundation

/-- What becomes of one attempt: the state it leaves, and what it has written. -/
inductive Attempt (σ φ : Type) where
  | commit (after : σ) (written : φ)
  | refuse
  | fail

/-- Calls that may run at the same time, one of them a turn. -/
structure Transactions (ι σ φ : Type) where
  /-- A call over its snapshot, what has been written since, and the state now. -/
  body : ι → σ → List φ → σ → Attempt σ φ
  attempts : Nat

inductive CallStage (σ : Type) where
  | ready (tries : Nat)
  /-- with its snapshot, and how many commits that has seen -/
  | waiting (tries : Nat) (snapshot : σ) (seen : Nat)
  | returned
  | failed

structure Concurrent (ι σ φ : Type) where
  state : σ
  log : List φ
  calls : ι → CallStage σ

inductive TurnEvent (ι : Type) where
  | take (i : ι)
  | finish (i : ι)
  /-- An attempt over an old snapshot is refused before its end. -/
  | refuse (i : ι)

variable {ι σ φ : Type}

def Concurrent.start (state : σ) : Concurrent ι σ φ := ⟨state, [], fun _ => .ready 0⟩

namespace Transactions

def again (t : Transactions ι σ φ) (tries : Nat) : CallStage σ :=
  if tries + 1 < t.attempts then .ready (tries + 1) else .failed

variable {t : Transactions ι σ φ}

theorem again_ne_returned (tries : Nat) : t.again tries ≠ (CallStage.returned : CallStage σ) := by
  rw [again]
  split <;> exact nofun

theorem again_ne_waiting (tries n : Nat) (snapshot : σ) (seen : Nat) :
    t.again tries ≠ .waiting n snapshot seen := by
  rw [again]
  split <;> exact nofun

/-- Calls one after another, each over the state it finds: what they leave, and have written. -/
inductive Replays (t : Transactions ι σ φ) (start : σ) : List ι → List φ → σ → Prop
  | nil : Replays t start [] [] start
  | commit {order : List ι} {log : List φ} {state after : σ} {i : ι} {written : φ}
      (before : Replays t start order log state)
      (commits : t.body i state [] state = .commit after written) :
      Replays t start (order ++ [i]) (log ++ [written]) after

section
variable {start state : σ} {order : List ι} {log : List φ}

theorem Replays.length (replays : t.Replays start order log state) : order.length = log.length := by
  induction replays with
  | nil => rfl
  | commit _ _ ih => simp [ih]

theorem Replays.none_missed (replays : t.Replays start order [] state) :
    order = [] ∧ state = start := by
  generalize none : ([] : List φ) = log at replays
  cases replays with
  | nil => exact ⟨rfl, rfl⟩
  | commit => simp at none

theorem Replays.one_missed {i : ι} (replays : t.Replays start [i] log state) :
    ∃ written, log = [written] ∧ t.body i start [] start = .commit state written := by
  generalize one : [i] = order at replays
  cases replays with
  | nil => cases one
  | commit before commits =>
    obtain ⟨none, same⟩ := List.append_inj' (show [] ++ [i] = _ from one) rfl
    subst none
    cases same
    cases List.length_eq_zero_iff.mp before.length.symm
    obtain ⟨-, rfl⟩ := before.none_missed
    exact ⟨_, rfl, commits⟩

end

/-- What a waiting call has not seen is what calls that have returned left, one by one; and all
along `held` holds of the state. -/
structure Trails (t : Transactions ι σ φ) (held : σ → Prop) (s : Concurrent ι σ φ) : Prop where
  state : held s.state
  missed : ∀ i tries snapshot seen, s.calls i = .waiting tries snapshot seen →
    seen ≤ s.log.length ∧ held snapshot ∧ ∃ order : List ι, order.Nodup ∧
      (∀ j ∈ order, s.calls j = .returned) ∧ t.Replays snapshot order (s.log.drop seen) s.state

theorem trails_start {held : σ → Prop} {start : σ} (begun : held start) :
    t.Trails held (.start start) := by
  refine ⟨begun, fun i tries snapshot seen waiting => ?_⟩
  cases waiting

end Transactions

variable [DecidableEq ι]

namespace Concurrent

def put (s : Concurrent ι σ φ) (i : ι) (stage : CallStage σ) : Concurrent ι σ φ :=
  { s with calls := fun j => if j = i then stage else s.calls j }

@[simp] theorem put_calls (s : Concurrent ι σ φ) (i : ι) (stage : CallStage σ) (j : ι) :
    (s.put i stage).calls j = if j = i then stage else s.calls j := rfl

@[simp] theorem put_state (s : Concurrent ι σ φ) (i : ι) (stage : CallStage σ) :
    (s.put i stage).state = s.state := rfl

@[simp] theorem put_log (s : Concurrent ι σ φ) (i : ι) (stage : CallStage σ) :
    (s.put i stage).log = s.log := rfl

end Concurrent

namespace Transactions
variable (t : Transactions ι σ φ)

/-- One event; one that cannot happen changes nothing. -/
def step (s : Concurrent ι σ φ) : TurnEvent ι → Concurrent ι σ φ
  | .take i => match s.calls i with
    | .ready tries => s.put i (.waiting tries s.state s.log.length)
    | _ => s
  | .finish i => match s.calls i with
    | .waiting tries snapshot seen => match t.body i snapshot (s.log.drop seen) s.state with
      | .commit after written =>
          { s with state := after, log := s.log ++ [written] }.put i .returned
      | .refuse => s.put i (t.again tries)
      | .fail => s.put i .failed
    | _ => s
  | .refuse i => match s.calls i with
    | .waiting tries _ seen => if seen < s.log.length then s.put i (t.again tries) else s
    | _ => s

/-- What a call leaves by itself. -/
def alone (i : ι) (state : σ) : σ :=
  match t.body i state [] state with
  | .commit after _ => after
  | _ => state

/-- An attempt over an old snapshot does not commit. -/
def FreshCommits (s : Concurrent ι σ φ) : TurnEvent ι → Prop
  | .finish i => ∀ tries snapshot seen, s.calls i = .waiting tries snapshot seen →
      seen < s.log.length →
      ∀ after written, t.body i snapshot (s.log.drop seen) s.state ≠ .commit after written
  | _ => True

/-- The calls that have returned, in the order they committed, and a snapshot of all commits being
the state. -/
structure Serial (start : σ) (s : Concurrent ι σ φ) (order : List ι) : Prop where
  once : order.Nodup
  returned : ∀ i, i ∈ order ↔ s.calls i = .returned
  state : s.state = order.foldl (fun state i => t.alone i state) start
  seen : ∀ i tries snapshot seen, s.calls i = .waiting tries snapshot seen →
    seen ≤ s.log.length ∧ (seen = s.log.length → snapshot = s.state)

variable {t} {start : σ} {s : Concurrent ι σ φ} {order : List ι}

theorem Serial.put (serial : t.Serial start s order) {i : ι} {stage : CallStage σ}
    (waiting : s.calls i ≠ .returned)
    (unreturned : stage ≠ .returned)
    (taken : ∀ tries snapshot seen, stage = .waiting tries snapshot seen →
      snapshot = s.state ∧ seen = s.log.length) :
    t.Serial start (s.put i stage) order where
  once := serial.once
  returned := by
    intro j
    rw [serial.returned j, Concurrent.put_calls]
    by_cases here : j = i
    · subst here
      simp [waiting, unreturned]
    · simp [here]
  state := serial.state
  seen := by
    intro j tries snapshot seen stage_
    rw [Concurrent.put_calls] at stage_
    split at stage_
    · obtain ⟨rfl, rfl⟩ := taken tries snapshot seen stage_
      exact ⟨le_refl _, fun _ => rfl⟩
    · exact serial.seen j tries snapshot seen stage_

theorem Serial.commit (serial : t.Serial start s order) {i : ι} {tries : Nat} {snapshot : σ}
    {seen : Nat} (waiting : s.calls i = .waiting tries snapshot seen) (fresh : ¬seen < s.log.length)
    {after : σ} {written : φ}
    (commits : t.body i snapshot (s.log.drop seen) s.state = .commit after written) :
    t.Serial start (Concurrent.put { s with state := after, log := s.log ++ [written] } i .returned)
      (order ++ [i]) := by
  obtain ⟨within, current⟩ := serial.seen i tries snapshot seen waiting
  have all : seen = s.log.length := by omega
  have unreturned : i ∉ order := fun there => by
    have returned := (serial.returned i).mp there
    rw [waiting] at returned
    cases returned
  have leaves : t.alone i s.state = after := by
    rw [current all, all, List.drop_length] at commits
    rw [alone, commits]
  exact
    { once := by
        rw [List.nodup_append]
        refine ⟨serial.once, by simp, ?_⟩
        intro j there k single same
        rw [List.mem_singleton.mp single] at same
        exact unreturned (same ▸ there)
      returned := by
        intro j
        rw [List.mem_append, List.mem_singleton, Concurrent.put_calls, serial.returned j]
        by_cases here : j = i
        · simp [here]
        · simp [here]
      state := by
        rw [List.foldl_append, ← serial.state]
        exact leaves.symm
      seen := by
        intro j tries' snapshot' seen' stage
        rw [Concurrent.put_calls] at stage
        split at stage
        · cases stage
        · have before := (serial.seen j tries' snapshot' seen' stage).1
          simp only [Concurrent.put_log, List.length_append, List.length_singleton]
          exact ⟨by omega, fun same => by omega⟩ }

theorem step_serial (e : TurnEvent ι) (serial : ∃ order, t.Serial start s order)
    (fresh : t.FreshCommits s e) : ∃ order, t.Serial start (t.step s e) order := by
  obtain ⟨order, serial⟩ := serial
  cases e with
  | take i =>
    simp only [step]
    split
    · rename_i tries ready
      refine ⟨order, serial.put (by simp [ready]) nofun ?_⟩
      rintro _ _ _ ⟨⟩
      exact ⟨rfl, rfl⟩
    · exact ⟨order, serial⟩
  | finish i =>
    simp only [step]
    split
    · rename_i tries snapshot seen waiting
      split
      · rename_i after written commits
        exact ⟨order ++ [i], serial.commit waiting (fun old =>
          fresh tries snapshot seen waiting old after written commits) commits⟩
      · exact ⟨order, serial.put (by simp [waiting]) (again_ne_returned tries)
          fun n snapshot seen stage => absurd stage (again_ne_waiting tries n snapshot seen)⟩
      · exact ⟨order, serial.put (by simp [waiting]) nofun nofun⟩
    · exact ⟨order, serial⟩
  | refuse i =>
    simp only [step]
    split
    · rename_i tries snapshot seen waiting
      split
      · exact ⟨order, serial.put (by simp [waiting]) (again_ne_returned tries)
          fun n snapshot seen stage => absurd stage (again_ne_waiting tries n snapshot seen)⟩
      · exact ⟨order, serial⟩
    · exact ⟨order, serial⟩

/-- Where no old snapshot commits, the calls that return leave what they leave one after another, in
some order. -/
theorem serial_of_fresh (start : σ) {events : List (TurnEvent ι)}
    (fresh : Guarded t.step t.FreshCommits (.start start) events) :
    ∃ order : List ι, order.Nodup ∧ (∀ i, i ∈ order ↔
      (events.foldl t.step (.start start)).calls i = .returned) ∧
      (events.foldl t.step (.start start)).state = order.foldl
        (fun state i => t.alone i state) start := by
  have begun : ∃ order, t.Serial start (.start start : Concurrent ι σ φ) order :=
    ⟨[], List.nodup_nil, by simp [Concurrent.start], rfl, by simp [Concurrent.start]⟩
  have preserved : ∀ (s : Concurrent ι σ φ) e, (∃ order, t.Serial start s order) →
    t.FreshCommits s e → ∃ order, t.Serial start (t.step s e) order := fun _ e => step_serial e
  obtain ⟨order, serial⟩ := run_invariant preserved begun fresh
  exact ⟨order, serial.once, serial.returned, serial.state⟩

/-! ### What an old snapshot has missed -/

section
variable {held : σ → Prop} {i : ι}

theorem Trails.put (trails : t.Trails held s) {stage : CallStage σ}
    (unreturned : s.calls i ≠ .returned)
    (taken : ∀ tries snapshot seen, stage = .waiting tries snapshot seen →
      snapshot = s.state ∧ seen = s.log.length) :
    t.Trails held (s.put i stage) := by
  refine ⟨trails.state, fun j tries snapshot seen waiting => ?_⟩
  rw [Concurrent.put_calls] at waiting
  split at waiting
  · obtain ⟨rfl, rfl⟩ := taken tries snapshot seen waiting
    exact ⟨le_refl _, trails.state, [], List.nodup_nil, List.forall_mem_nil _, by simpa using .nil⟩
  · obtain ⟨within, here, order, once, returned, replays⟩ :=
      trails.missed j tries snapshot seen waiting
    refine ⟨within, here, order, once, fun k earlier => ?_, replays⟩
    rw [Concurrent.put_calls, if_neg]
    · exact returned k earlier
    · rintro rfl
      exact unreturned (returned k earlier)

variable (kept : ∀ i state after written, held state →
  t.body i state [] state = .commit after written → held after)
include kept

theorem Trails.commit (trails : t.Trails held s) {tries : Nat} {snapshot : σ} {seen : Nat}
    (waiting : s.calls i = .waiting tries snapshot seen) (fresh : ¬seen < s.log.length) {after : σ}
    {written : φ} (commits : t.body i snapshot (s.log.drop seen) s.state = .commit after written) :
    t.Trails held
      (Concurrent.put { s with state := after, log := s.log ++ [written] } i .returned) := by
  have now : t.body i s.state [] s.state = .commit after written := by
    obtain ⟨-, -, order, -, -, replays⟩ := trails.missed i tries snapshot seen waiting
    rw [List.drop_eq_nil_of_le (Nat.le_of_not_lt fresh)] at replays commits
    obtain ⟨-, rfl⟩ := replays.none_missed
    exact commits
  refine ⟨kept i s.state after written trails.state now, fun j tries' snapshot' seen' stage => ?_⟩
  rw [Concurrent.put_calls] at stage
  split at stage
  · cases stage
  obtain ⟨within, here, order, once, returned, replays⟩ :=
    trails.missed j tries' snapshot' seen' stage
  have later : i ∉ order := fun there => by
    have done := returned i there
    rw [waiting] at done
    cases done
  refine ⟨?_, here, order ++ [i], ?_, fun k earlier => ?_, ?_⟩
  · simp only [Concurrent.put_log, List.length_append, List.length_singleton]
    omega
  · rw [List.nodup_append]
    refine ⟨once, by simp, fun k there l single same => ?_⟩
    rw [List.mem_singleton.mp single] at same
    exact later (same ▸ there)
  · rw [Concurrent.put_calls]
    split
    · rfl
    · rename_i different
      exact returned k ((List.mem_append.mp earlier).resolve_right fun single =>
        different (List.mem_singleton.mp single))
  · rw [Concurrent.put_log, List.drop_append_of_le_length within]
    exact .commit replays now

theorem step_trails (e : TurnEvent ι) (trails : t.Trails held s) (fresh : t.FreshCommits s e) :
    t.Trails held (t.step s e) := by
  cases e with
  | take i =>
    simp only [step]
    split
    · rename_i tries ready
      refine trails.put (by simp [ready]) ?_
      rintro _ _ _ ⟨⟩
      exact ⟨rfl, rfl⟩
    · exact trails
  | finish i =>
    simp only [step]
    split
    · rename_i tries snapshot seen waiting
      split
      · rename_i after written commits
        have current : ¬seen < s.log.length := fun old =>
          fresh tries snapshot seen waiting old after written commits
        exact trails.commit kept waiting current commits
      · exact trails.put (by simp [waiting]) fun n snapshot seen stage =>
          absurd stage (again_ne_waiting tries n snapshot seen)
      · refine trails.put (by simp [waiting]) ?_
        rintro _ _ _ ⟨⟩
    · exact trails
  | refuse i =>
    simp only [step]
    split
    · rename_i tries snapshot seen waiting
      split
      · exact trails.put (by simp [waiting]) fun n snapshot seen stage =>
          absurd stage (again_ne_waiting tries n snapshot seen)
      · exact trails
    · exact trails

end

end Transactions

end Foundation
