import Mathlib.Data.List.Range

/-!
# Calls tried again

A call may lose its answer, before or after it was performed. One that is tried
again while its error is transient, and whose second performance changes
nothing, ends where a single performance ends, or leaves its state alone.
-/

namespace Foundation

variable {σ ε α : Type}

/-- A call tried again after a transient error, up to `more` times; the last error stands. -/
def retrying (transient : ε → Bool) (call : σ → Except ε α × σ) : Nat → σ → Except ε α × σ
  | 0, s => call s
  | more + 1, s => match call s with
    | (.ok a, s) => (.ok a, s)
    | (.error e, s) => if transient e then retrying transient call more s else (.error e, s)

/-- What becomes of one try. -/
inductive Delivery (ε : Type) where
  | answered
  | struck (performed : Bool) (error : ε)
  deriving DecidableEq

def Delivery.answers : Delivery ε → Bool
  | answered => true
  | struck _ _ => false

def Delivery.performs : Delivery ε → Bool
  | answered => true
  | struck performed _ => performed

/-- A state behind a transport, and how many tries were made. -/
structure Tried (σ : Type) where
  world : σ
  tries : Nat

def delivered (fates : Nat → Delivery ε) (call : σ → Except ε α × σ) (t : Tried σ) :
    Except ε α × Tried σ :=
  match fates t.tries with
  | .answered => ((call t.world).1, ⟨(call t.world).2, t.tries + 1⟩)
  | .struck performed error =>
      (.error error, ⟨if performed then (call t.world).2 else t.world, t.tries + 1⟩)

section
variable (transient : ε → Bool) (fates : Nat → Delivery ε) (call : σ → Except ε α × σ)

/-- Only transient errors strike a try. -/
def Weather : Prop := ∀ n performed error, fates n = .struck performed error →
    transient error = true

/-- What a call answers is never transient, and a second performance changes nothing. -/
structure Settling : Prop where
  verdict : ∀ s error, (call s).1 = .error error → transient error = false
  again : ∀ s, (call (call s).2).2 = (call s).2

/-- A struck try among the `k` from the `n`th on performed the call. -/
def performedAmong (n k : Nat) : Bool := (List.range k).any fun j => (fates (n + j)).performs

def worldAfter (n k : Nat) (s : σ) : σ := if performedAmong fates n k then (call s).2 else s

end

section
variable {transient : ε → Bool} {fates : Nat → Delivery ε} {call : σ → Except ε α × σ}

theorem worldAfter_zero (n : Nat) (s : σ) : worldAfter fates call n 0 s = s := rfl

/-- The first of the struck tries is the next step of the state. -/
theorem worldAfter_succ (settling : Settling transient call) (n k : Nat) (s : σ) :
    worldAfter fates call (n + 1) k (if (fates n).performs then (call s).2 else s) =
      worldAfter fates call n (k + 1) s := by
  have first : performedAmong fates n (k + 1) = ((fates n).performs ||
      performedAmong fates (n + 1) k) := by
    simp only [performedAmong, List.range_succ_eq_map, List.any_cons, List.any_map, Nat.add_zero]
    congr 2
    funext j
    simp only [Function.comp_apply, Nat.succ_eq_add_one, Nat.add_right_comm n 1 j, Nat.add_assoc]
  rw [worldAfter, worldAfter, first]
  cases (fates n).performs with
  | false => rfl
  | true => simp [settling.again]

/-- Either a try is answered, after none but struck ones, or every try is struck. -/
theorem retrying_delivered (weather : Weather transient fates) (settling : Settling transient call)
    (more : Nat) (t : Tried σ) :
    (∃ k ≤ more, (∀ j < k, (fates (t.tries + j)).answers = false) ∧
      (fates (t.tries + k)).answers = true ∧ retrying transient (delivered fates call) more t =
        ((call (worldAfter fates call t.tries k t.world)).1,
          ⟨(call (worldAfter fates call t.tries k t.world)).2, t.tries + k + 1⟩)) ∨
    ((∀ j ≤ more, (fates (t.tries + j)).answers = false) ∧ ∃ error, transient error = true ∧
      retrying transient (delivered fates call) more t =
        (.error error, ⟨worldAfter fates call t.tries (more + 1) t.world,
          t.tries + more + 1⟩)) := by
  induction more generalizing t with
  | zero =>
    cases fate : fates t.tries with
    | answered =>
      refine Or.inl ⟨0, Nat.le_refl 0, fun j within => absurd within (Nat.not_lt_zero j), ?_, ?_⟩
      · rw [Nat.add_zero, fate]
        rfl
      · simp only [retrying, delivered, fate, worldAfter_zero, Nat.add_zero]
    | struck performed error =>
      refine Or.inr ⟨?_, error, weather _ _ _ fate, ?_⟩
      · intro j within
        rw [Nat.le_zero.mp within, Nat.add_zero, fate]
        rfl
      · rw [← worldAfter_succ settling, worldAfter_zero, fate, retrying, delivered, fate]
        rfl
  | succ more ih =>
    cases fate : fates t.tries with
    | answered =>
      refine Or.inl ⟨0, Nat.zero_le _, fun j within => absurd within (Nat.not_lt_zero j), ?_, ?_⟩
      · rw [Nat.add_zero, fate]
        rfl
      · cases answer : call t.world with
        | mk result world =>
          cases result with
          | ok a => simp only [retrying, delivered, fate, worldAfter_zero, Nat.add_zero, answer]
          | error e =>
            have final : transient e = false := settling.verdict t.world e (by rw [answer])
            simp [retrying, delivered, fate, worldAfter_zero, answer, final]
    | struck performed error =>
      have next : retrying transient (delivered fates call) (more + 1) t =
          retrying transient (delivered fates call) more
            ⟨if performed then (call t.world).2 else t.world, t.tries + 1⟩ := by
        simp only [retrying, delivered, fate, weather _ _ _ fate, if_true]
      have here : ∀ k, worldAfter fates call (t.tries + 1) k (if performed then (call t.world).2
          else t.world) = worldAfter fates call t.tries (k + 1) t.world := by
        intro k
        rw [← worldAfter_succ settling, fate]
        rfl
      have struck : (fates t.tries).answers = false := by
        rw [fate]
        rfl
      -- the tries from the second on
      have shifted : ∀ {k}, (∀ j < k, (fates (t.tries + 1 + j)).answers = false) →
          ∀ j < k + 1, (fates (t.tries + j)).answers = false := by
        intro k rest j within
        cases j with
        | zero => exact struck
        | succ j => simpa only [Nat.add_assoc, Nat.add_comm 1 j]
            using rest j (Nat.lt_of_succ_lt_succ within)
      rcases ih ⟨if performed then (call t.world).2 else t.world, t.tries + 1⟩ with
        ⟨k, within, before, answered, result⟩ | ⟨all, last, isTransient, result⟩
      · refine Or.inl ⟨k + 1, Nat.succ_le_succ within, shifted before, ?_, ?_⟩
        · simpa only [Nat.add_assoc, Nat.add_comm 1 k] using answered
        · rw [next, result]
          dsimp only
          rw [here, Nat.add_assoc t.tries 1 k, Nat.add_comm 1 k]
      · refine Or.inr ⟨?_, last, isTransient, ?_⟩
        · exact fun j within => shifted (fun i below => all i (Nat.le_of_lt_succ below)) j
            (Nat.lt_succ_of_le within)
        · rw [next, result]
          dsimp only
          rw [here, Nat.add_assoc t.tries 1 more, Nat.add_comm 1 more]

end

end Foundation
