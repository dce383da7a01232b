import Mathlib.Data.List.Basic

/-!
# Processes under a session lock

A process that finds the lock taken gives up; one that takes it works on the
shared state step by step, and gives the lock back when it ends or dies. However
the steps of many come in between one another, what they leave is what those that
took the lock leave one after another.
-/

namespace Foundation

/-- A step of a process goes on, or ends with a result. -/
structure Process (lam σ ρ : Type) where
  start : lam
  step : lam → σ → (lam ⊕ ρ) × σ

section
variable {lam σ ρ : Type}

/-- So many steps with nobody else there; one that has ended stays as it is. -/
def Process.alone (p : Process lam σ ρ) : Nat → (lam ⊕ ρ) × σ → (lam ⊕ ρ) × σ
  | 0, s => s
  | n + 1, (.inl l, s) => p.alone n (p.step l s)
  | _ + 1, (.inr r, s) => (.inr r, s)

@[simp] theorem Process.alone_ended (p : Process lam σ ρ) (n : Nat) (r : ρ) (s : σ) :
    p.alone n (.inr r, s) = (.inr r, s) := by
  cases n <;> rfl

theorem Process.alone_add (p : Process lam σ ρ) (m n : Nat) (s : (lam ⊕ ρ) × σ) :
    p.alone (m + n) s = p.alone n (p.alone m s) := by
  induction m generalizing s with
  | zero => rw [Nat.zero_add, alone]
  | succ m ih =>
    obtain ⟨stage, s⟩ := s
    cases stage with
    | inl l => rw [Nat.add_right_comm, alone, alone, ih]
    | inr r => rw [alone_ended, alone_ended, alone_ended]

theorem Process.alone_succ (p : Process lam σ ρ) {n : Nat} {s t : (lam ⊕ ρ) × σ} {l : lam}
    {shared : σ} (reached : p.alone n s = (.inl l, shared)) (stepped : p.step l shared = t) :
    p.alone (n + 1) s = t := by
  rw [alone_add, reached, alone, stepped, alone]

theorem Process.alone_unique (p : Process lam σ ρ) {m n : Nat} {s : (lam ⊕ ρ) × σ} {r r' : ρ}
    {t t' : σ} (one : p.alone m s = (.inr r, t)) (two : p.alone n s = (.inr r', t')) :
    r = r' ∧ t = t' := by
  have both := p.alone_add m n s
  have swapped := p.alone_add n m s
  rw [one, alone_ended] at both
  rw [two, alone_ended, Nat.add_comm, both] at swapped
  obtain ⟨same, state⟩ := Prod.mk.inj swapped
  exact ⟨Sum.inr.inj same, state⟩

end

inductive Turn (lam ρ : Type) where
  | waiting
  | refused
  | running (l : lam)
  | ended (r : ρ)
  | killed

/-- Whether the process ever took the lock. -/
def Turn.took {lam ρ : Type} : Turn lam ρ → Bool
  | waiting | refused => false
  | running _ | ended _ | killed => true

/-- The shared state, who holds the lock, and where each process is. -/
structure LockWorld (ι lam σ ρ : Type) where
  shared : σ
  holder : Option ι
  turns : ι → Turn lam ρ

inductive LockEvent (ι : Type) where
  | tryLock (i : ι)
  | step (i : ι)
  /-- the process dies, and its connection with it -/
  | kill (i : ι)

namespace LockWorld
variable {ι lam σ ρ : Type}

section
variable [DecidableEq ι]

def turn (w : LockWorld ι lam σ ρ) (i : ι) (turn : Turn lam ρ) : LockWorld ι lam σ ρ :=
  { w with turns := Function.update w.turns i turn }

def step (processes : ι → Process lam σ ρ) (w : LockWorld ι lam σ ρ) :
    LockEvent ι → LockWorld ι lam σ ρ
  | .tryLock i => match w.turns i with
    | .waiting => match w.holder with
      | none => { w.turn i (.running (processes i).start) with holder := some i }
      | some _ => w.turn i .refused
    | _ => w
  | .step i => match w.turns i with
    | .running l => match (processes i).step l w.shared with
      | (.inl l, shared) => { w.turn i (.running l) with shared }
      | (.inr r, shared) => { w.turn i (.ended r) with shared, holder := none }
    | _ => w
  | .kill i => match w.turns i with
    | .running _ => { w.turn i .killed with holder := none }
    | _ => w

end

def start (shared : σ) : LockWorld ι lam σ ρ := ⟨shared, none, fun _ => .waiting⟩

/-! ### One after another -/

section
variable (processes : ι → Process lam σ ρ)

/-- What processes leave that run alone, each so many steps; the latest comes first. -/
def replay (initial : σ) : List (ι × Nat) → σ
  | [] => initial
  | (i, n) :: earlier =>
      ((processes i).alone n (.inl (processes i).start, replay initial earlier)).2

/-- How far a process gets alone. -/
def reached (initial : σ) (earlier : List (ι × Nat)) (i : ι) (n : Nat) : lam ⊕ ρ :=
  ((processes i).alone n (.inl (processes i).start, replay processes initial earlier)).1

/-- A process is where it gets alone. -/
def Stands (stage : lam ⊕ ρ) : Turn lam ρ → Prop
  | .running l => stage = .inl l
  | .ended r => stage = .inr r
  | .killed => ∃ l, stage = .inl l
  | .waiting | .refused => False

structure Serial (initial : σ) (order : List (ι × Nat)) (w : LockWorld ι lam σ ρ) : Prop where
  once : (order.map (·.1)).Nodup
  took : ∀ i, (w.turns i).took = true ↔ i ∈ order.map (·.1)
  shared : w.shared = replay processes initial order
  accounted : ∀ i n earlier, (i, n) :: earlier <:+ order →
    Stands (reached processes initial earlier i n) (w.turns i)
  holder : ∀ i, w.holder = some i ↔ ∃ l, w.turns i = .running l
  last : ∀ i, w.holder = some i → ∃ n earlier, order = (i, n) :: earlier

end

variable {processes : ι → Process lam σ ρ} {initial : σ} {order earlier : List (ι × Nat)} {n : Nat}
    {w : LockWorld ι lam σ ρ} {i : ι}

theorem mem_of_suffix {j : ι} {n : Nat} {earlier : List (ι × Nat)}
    (suffix : (j, n) :: earlier <:+ order) : j ∈ order.map (·.1) :=
  List.mem_map.mpr ⟨(j, n), suffix.subset List.mem_cons_self, rfl⟩

theorem Serial.start : Serial processes initial [] (start initial) where
  once := List.nodup_nil
  took i := by simp [LockWorld.start, Turn.took]
  shared := rfl
  accounted i n earlier suffix := absurd (List.suffix_nil.mp suffix) (List.cons_ne_nil _ _)
  holder i := by simp [LockWorld.start]
  last i := nofun

variable [DecidableEq ι]

theorem Serial.take (serial : Serial processes initial order w) (waits : w.turns i = .waiting)
    (free : w.holder = none) :
    Serial processes initial ((i, 0) :: order)
      { w.turn i (.running (processes i).start) with holder := some i } := by
  have absent : i ∉ order.map (·.1) := by
    rw [← serial.took, waits]
    exact Bool.false_ne_true
  have idle : ∀ j l, w.turns j ≠ .running l := by
    intro j l running
    have held := (serial.holder j).mpr ⟨l, running⟩
    rw [free] at held
    cases held
  refine ⟨List.nodup_cons.mpr ⟨absent, serial.once⟩, ?_, serial.shared, ?_, ?_, ?_⟩
  · intro j
    by_cases same : j = i
    · subst same
      simp [turn, Turn.took]
    · simp only [turn, Function.update_of_ne same, List.map_cons, List.mem_cons, same, false_or]
      exact serial.took j
  · intro j n earlier suffix
    rcases List.suffix_cons_iff.mp suffix with whole | later
    · obtain ⟨⟨rfl, rfl⟩, rfl⟩ : (j = i ∧ n = 0) ∧ earlier = order := by simpa using whole
      simp only [turn, Function.update_self]
      rfl
    · have other : j ≠ i := fun same => absent (same ▸ mem_of_suffix later)
      simp only [turn, Function.update_of_ne other]
      exact serial.accounted j n earlier later
  · intro j
    by_cases same : j = i
    · subst same
      simp [turn]
    · simp only [turn, Function.update_of_ne same]
      constructor
      · rintro ⟨⟩
        exact absurd rfl same
      · rintro ⟨l, running⟩
        exact absurd running (idle j l)
  · rintro j ⟨⟩
    exact ⟨0, order, rfl⟩

theorem Serial.refuse (serial : Serial processes initial order w) (waits : w.turns i = .waiting) :
    Serial processes initial order (w.turn i .refused) := by
  have absent : i ∉ order.map (·.1) := by
    rw [← serial.took, waits]
    exact Bool.false_ne_true
  refine ⟨serial.once, ?_, serial.shared, ?_, ?_, serial.last⟩
  · intro j
    by_cases same : j = i
    · subst same
      simpa [turn, Turn.took] using absent
    · simp only [turn, Function.update_of_ne same]
      exact serial.took j
  · intro j n earlier suffix
    have other : j ≠ i := fun same => absent (same ▸ mem_of_suffix suffix)
    simp only [turn, Function.update_of_ne other]
    exact serial.accounted j n earlier suffix
  · intro j
    have before := serial.holder j
    by_cases same : j = i
    · subst same
      rw [waits] at before
      simpa [turn] using before
    · simp only [turn, Function.update_of_ne same]
      exact before

theorem Serial.move (serial : Serial processes initial ((i, n) :: earlier) w)
    (held : w.holder = some i) {m : Nat} {turn : Turn lam ρ} {shared : σ} {holder : Option ι}
    (took : turn.took = true) (stands : Stands (reached processes initial earlier i m) turn)
    (same : shared = replay processes initial ((i, m) :: earlier))
    (still : holder = some i ↔ ∃ l, turn = .running l) (only : ∀ j, holder = some j → j = i) :
    Serial processes initial ((i, m) :: earlier) { w.turn i turn with shared, holder } := by
  obtain ⟨absent, once⟩ := List.nodup_cons.mp serial.once
  have unheld : ∀ j, j ≠ i → ∀ l, w.turns j ≠ .running l := by
    intro j other l running
    have both := (serial.holder j).mpr ⟨l, running⟩
    rw [held] at both
    exact other (Option.some.inj both).symm
  refine ⟨List.nodup_cons.mpr ⟨absent, once⟩, ?_, same, ?_, ?_, ?_⟩
  · intro j
    by_cases own : j = i
    · subst own
      simpa [LockWorld.turn] using took
    · simp only [LockWorld.turn, Function.update_of_ne own]
      exact serial.took j
  · intro j k before suffix
    rcases List.suffix_cons_iff.mp suffix with whole | later
    · obtain ⟨⟨rfl, rfl⟩, rfl⟩ : (j = i ∧ k = m) ∧ before = earlier := by simpa using whole
      simp only [LockWorld.turn, Function.update_self]
      exact stands
    · have other : j ≠ i := fun same => absent (same ▸ mem_of_suffix later)
      simp only [LockWorld.turn, Function.update_of_ne other]
      exact serial.accounted j k before (List.suffix_cons_iff.mpr (.inr later))
  · intro j
    by_cases own : j = i
    · subst own
      simpa [LockWorld.turn] using still
    · simp only [LockWorld.turn, Function.update_of_ne own]
      exact iff_of_false (fun takes => own (only j takes)) (fun ⟨l, running⟩ =>
        unheld j own l running)
  · intro j takes
    obtain rfl := only j takes
    exact ⟨m, earlier, rfl⟩

theorem Serial.step (serial : Serial processes initial order w) (e : LockEvent ι) :
    ∃ order, Serial processes initial order (LockWorld.step processes w e) := by
  cases e with
  | tryLock i =>
    cases waits : w.turns i with
    | waiting =>
      cases free : w.holder with
      | none =>
        refine ⟨(i, 0) :: order, ?_⟩
        simp only [LockWorld.step, waits, free]
        exact serial.take waits free
      | some j =>
        refine ⟨order, ?_⟩
        simp only [LockWorld.step, waits, free]
        exact serial.refuse waits
    | _ => exact ⟨order, by simpa only [LockWorld.step, waits] using serial⟩
  | step i =>
    cases running : w.turns i with
    | running l =>
      have held := (serial.holder i).mpr ⟨l, running⟩
      obtain ⟨n, earlier, rfl⟩ := serial.last i held
      have here := serial.accounted i n earlier (List.suffix_refl _)
      rw [running] at here
      -- the holder is where it gets alone in as many steps, so its next step is the next one alone
      have whole : (processes i).alone n (.inl (processes i).start,
          replay processes initial earlier) = (.inl l, w.shared) := by
        rw [serial.shared]
        exact Prod.ext here rfl
      cases stepped : (processes i).step l w.shared with
      | mk stage shared =>
        have next := (processes i).alone_succ whole stepped
        have there : shared = replay processes initial ((i, n + 1) :: earlier) :=
          by rw [replay, next]
        have stands : reached processes initial earlier i (n + 1) = stage := by rw [reached, next]
        cases stage with
        | inl l =>
          refine ⟨(i, n + 1) :: earlier, ?_⟩
          simp only [LockWorld.step, running, stepped]
          exact serial.move held rfl stands there (iff_of_true held ⟨l, rfl⟩)
            (fun j takes => (Option.some.inj (held.symm.trans takes)).symm)
        | inr r =>
          refine ⟨(i, n + 1) :: earlier, ?_⟩
          simp only [LockWorld.step, running, stepped]
          exact serial.move held rfl stands there (by simp) nofun
    | _ => exact ⟨order, by simpa only [LockWorld.step, running] using serial⟩
  | kill i =>
    cases running : w.turns i with
    | running l =>
      have held := (serial.holder i).mpr ⟨l, running⟩
      obtain ⟨n, earlier, rfl⟩ := serial.last i held
      have here := serial.accounted i n earlier (List.suffix_refl _)
      rw [running] at here
      refine ⟨(i, n) :: earlier, ?_⟩
      simp only [LockWorld.step, running]
      exact serial.move held rfl ⟨l, here⟩ serial.shared (by simp) nofun
    | _ => exact ⟨order, by simpa only [LockWorld.step, running] using serial⟩

/-- Any run is a run one after another. -/
theorem run_serial (processes : ι → Process lam σ ρ) (initial : σ) (events : List (LockEvent ι)) :
    ∃ order, Serial processes initial order
      (events.foldl (LockWorld.step processes) (.start initial)) := by
  have all : ∀ (events : List (LockEvent ι)) (w : LockWorld ι lam σ ρ),
      (∃ order, Serial processes initial order w) →
        ∃ order, Serial processes initial order (events.foldl (LockWorld.step processes) w) := by
    intro events
    induction events with
    | nil => exact fun w serial => serial
    | cons e events ih =>
      rintro w ⟨order, serial⟩
      exact ih _ (serial.step e)
  exact all events _ ⟨[], .start⟩

end LockWorld

end Foundation
