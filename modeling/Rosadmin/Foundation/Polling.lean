import Mathlib.Data.Nat.Basic
import Mathlib.Order.Basic

/-!
# Polling until something shows

A predicate is asked over and over, with a pause in between, until it holds, an
error that is no weather comes up, or too much time has passed. Nothing but the
clock bounds the loop, so that it ends is a fact about the pause.
-/

namespace Foundation

inductive PollError (ε : Type) where
  | raised (error : ε)
  | timedOut

/-- What is polled: `clock` is the time of a state, in the unit of the pause and the ceiling. -/
structure Polling (σ ε : Type) where
  visible : σ → Except ε Bool × σ
  transient : ε → Bool
  clock : σ → Nat
  sleep : Nat → σ → σ
  interval : Nat
  ceiling : Nat

namespace Polling
variable {σ ε : Type} (p : Polling σ ε)

/-- Whether an answer is asked for again. -/
def again : Except ε Bool → Bool
  | .ok done => !done
  | .error error => p.transient error

def verdict : Except ε Bool → Except (PollError ε) Unit
  | .ok _ => .ok ()
  | .error error => .error (.raised error)

/-- `started` is when the loop began; the first argument bounds the attempts. -/
def attempts (started : Nat) : Nat → σ → Except (PollError ε) Unit × σ
  | 0, s => (.error .timedOut, s)
  | more + 1, s =>
    let asked := p.visible s
    if p.again asked.1 then
      if p.ceiling ≤ p.clock asked.2 - started then (.error .timedOut, asked.2)
      else attempts started more (p.sleep p.interval asked.2)
    else (verdict asked.1, asked.2)

/-- So many attempts always do. -/
def enough : Nat := p.ceiling / p.interval + 2

def pollUntil (s : σ) : Except (PollError ε) Unit × σ := p.attempts (p.clock s) p.enough s

/-- Time does not run backwards, and a pause lasts. -/
structure Timed : Prop where
  asking : ∀ s, p.clock s ≤ p.clock (p.visible s).2
  sleeping : ∀ t s, p.clock (p.sleep t s) = p.clock s + t
  pauses : 0 < p.interval

section
variable {p} {started more : Nat} {s : σ}

/-- What asking and sleeping keep, the loop keeps. -/
theorem attempts_keeps (inv : σ → Prop) (asking : ∀ s, inv s → inv (p.visible s).2)
    (sleeping : ∀ t s, inv s → inv (p.sleep t s)) (here : inv s) :
    inv (p.attempts started more s).2 := by
  induction more generalizing s with
  | zero => exact here
  | succ more ih =>
    have asked := asking s here
    unfold attempts
    dsimp only
    split
    · split
      · exact asked
      · exact ih (sleeping _ _ asked)
    · exact asked

/-- How a loop ends: on an answer that is not asked for again, or out of time. -/
inductive Ends (p : Polling σ ε) (inv : σ → Prop) (started : Nat) :
    Except (PollError ε) Unit × σ → Prop where
  | shown {s : σ} (there : inv s) (done : (p.visible s).1 = .ok true) : Ends p inv started (.ok (),
      (p.visible s).2)
  | raised {s : σ} {error : ε} (there : inv s) (failed : (p.visible s).1 = .error error)
      (final : p.transient error = false) :
    Ends p inv started (.error (.raised error), (p.visible s).2)
  | timedOut {s : σ} (there : inv s) (again : p.again (p.visible s).1 = true)
    (late : started + p.ceiling ≤ p.clock (p.visible s).2) :
    Ends p inv started (.error .timedOut, (p.visible s).2)

theorem elapsed_sleep (timed : p.Timed) {s : σ} (since : started ≤ p.clock s) (t : Nat) :
    p.clock (p.sleep t s) - started = p.clock s - started + t := by
  rw [timed.sleeping]
  omega

/-- With attempts enough for the time that is left, the loop ends on its own. -/
theorem attempts_ends (timed : p.Timed) {inv : σ → Prop} (asking : ∀ s, inv s → inv (p.visible s).2)
    (sleeping : ∀ t s, inv s → inv (p.sleep t s)) (here : inv s) (since : started ≤ p.clock s)
    (early : p.clock s - started < p.ceiling + p.interval)
    (left : p.ceiling + p.interval ≤ p.clock s - started + more * p.interval) :
    Ends p inv started (p.attempts started more s) := by
  induction more generalizing s with
  | zero => omega
  | succ more ih =>
    have later := timed.asking s
    unfold attempts
    dsimp only
    by_cases again : p.again (p.visible s).1 = true
    · rw [if_pos again]
      by_cases late : p.ceiling ≤ p.clock (p.visible s).2 - started
      · rw [if_pos late]
        exact .timedOut here again (by omega)
      · rw [if_neg late]
        have slept := elapsed_sleep timed (Nat.le_trans since later) p.interval
        refine ih (sleeping _ _ (asking s here)) ?_ ?_ ?_
        · rw [timed.sleeping]
          omega
        · omega
        · rw [slept]
          rw [Nat.succ_mul] at left
          omega
    · rw [if_neg again]
      cases answer : (p.visible s).1 with
      | ok done =>
        rw [answer] at again
        have shown : done = true := by simpa [Polling.again] using again
        exact .shown here (by rw [answer, shown])
      | error error =>
        rw [answer] at again
        exact .raised here answer (by simpa [Polling.again] using again)

/-- The loop ends on an answer, or once its time is up. -/
theorem pollUntil_ends (timed : p.Timed) (inv : σ → Prop)
    (asking : ∀ s, inv s → inv (p.visible s).2) (sleeping : ∀ t s, inv s → inv (p.sleep t s))
    (here : inv s) :
    Ends p inv (p.clock s) (p.pollUntil s) := by
  have positive := timed.pauses
  have whole := Nat.div_add_mod p.ceiling p.interval
  have part := Nat.mod_lt p.ceiling positive
  have count : p.enough * p.interval = p.interval * (p.ceiling / p.interval) + 2 * p.interval := by
    rw [enough, Nat.add_mul, Nat.mul_comm (p.ceiling / p.interval)]
  refine attempts_ends timed asking sleeping here (Nat.le_refl _) ?_ ?_
  · omega
  · rw [count]
    omega

/-- Where what is polled holds from some time on, is only waited for before, and an attempt ends in
time, it shows. -/
theorem pollUntil_shows (timed : p.Timed) (inv : σ → Prop)
    (asking : ∀ s, inv s → inv (p.visible s).2)
    (sleeping : ∀ t s, inv s → inv (p.sleep t s)) (here : inv s) (ready spent : Nat)
    (brief : ∀ s, inv s → p.clock (p.visible s).2 ≤ p.clock s + spent)
    (inTime : ready + spent < p.clock s + p.ceiling)
    (waited : ∀ s, inv s → (p.visible s).1 = .ok true ∨
      p.clock s < ready ∧ p.again (p.visible s).1 = true) :
    (p.pollUntil s).1 = .ok () := by
  have ends := pollUntil_ends timed inv asking sleeping here
  revert ends
  generalize p.pollUntil s = result
  intro ends
  cases ends with
  | shown there done => rfl
  | @raised t error there failed final =>
    rcases waited t there with shown | ⟨-, again⟩
    · cases shown.symm.trans failed
    · rw [failed] at again
      simp [Polling.again, final] at again
  | @timedOut t there again late =>
    rcases waited t there with shown | ⟨before, -⟩
    · rw [shown] at again
      simp [Polling.again] at again
    · have := brief t there
      omega

end

end Polling

end Foundation
