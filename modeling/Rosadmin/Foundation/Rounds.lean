import Mathlib.Data.Finset.Card
import Rosadmin.Foundation.Runs

/-!
# Serving in rounds

Each round serves all that is pending or at least a fixed number of it. Where
what a round serves leaves the pending set, nothing waits for longer than the
rounds its number takes.
-/

namespace Foundation

variable {σ ε α : Type} [DecidableEq α] {step : σ → ε → σ} {reach settle : σ → ε → Prop}
    {inv : σ → Prop} {pending : σ → Finset α} {served : σ → ε → Finset α} {k : Nat}

/-- The last round need not settle what it serves. -/
theorem served_of_rounds
    (progress : ∀ s e, inv s → reach s e → ¬pending s ⊆ served s e →
      k ≤ (pending s ∩ served s e).card)
    (settles : ∀ s e, inv s → reach s e → settle s e →
      inv (step s e) ∧ pending (step s e) = pending s \ served s e)
    {s : σ} {es : List ε} (start : inv s) (reached : Guarded step reach s es)
    (settled : Guarded step settle s es.dropLast) (enough : (pending s).card ≤ k * es.length) :
    ∀ a ∈ pending s, ∃ pre e post, es = pre ++ e :: post ∧ a ∈ served (pre.foldl step s) e := by
  intro a waits
  induction es generalizing s with
  | nil =>
    have none : pending s = ∅ := Finset.card_eq_zero.mp (Nat.le_zero.mp enough)
    rw [none] at waits
    exact absurd waits (Finset.notMem_empty a)
  | cons e es ih =>
    by_cases here : a ∈ served s e
    · exact ⟨[], e, es, rfl, here⟩
    have full : k ≤ (pending s ∩ served s e).card := progress s e start reached.1 fun all =>
      here (all waits)
    have split := Finset.card_sdiff_add_card_inter (pending s) (served s e)
    cases es with
    | nil =>
      -- a round that is full and the last one leaves nothing
      have none : (pending s \ served s e).card = 0 := by
        rw [List.length_singleton, Nat.mul_one] at enough
        omega
      have left : a ∈ pending s \ served s e := Finset.mem_sdiff.mpr ⟨waits, here⟩
      rw [Finset.card_eq_zero.mp none] at left
      exact absurd left (Finset.notMem_empty a)
    | cons e' es =>
      obtain ⟨kept, left⟩ := settles s e start reached.1 settled.1
      have fewer : (pending (step s e)).card ≤ k * (e' :: es).length := by
        rw [left]
        rw [List.length_cons, Nat.mul_succ] at enough
        omega
      have still : a ∈ pending (step s e) := left ▸ Finset.mem_sdiff.mpr ⟨waits, here⟩
      obtain ⟨pre, last, post, whole, found⟩ := ih kept reached.2 settled.2 fewer still
      exact ⟨e :: pre, last, post, by rw [whole]; rfl, found⟩

/-! ### Rounds that let somebody go -/

/-- Where nobody starts to wait, and a round lets somebody go while anybody waits, nobody waits
after as many rounds as there were to wait. -/
theorem none_waits_of_rounds {α : Type} {items : List α} {waits : Nat → α → Prop} {n : Nat}
    (falls : ∀ k, ∀ a ∈ items, waits (k + 1) a → waits k a)
    (moves : ∀ k < n, (∀ a ∈ items, waits k a → waits (k + 1) a) → ∀ a ∈ items, ¬waits k a)
    (enough : items.length ≤ n) : ∀ a ∈ items, ¬waits n a := by
  -- `left` holds whoever may still wait, and loses one each round
  suffices rounds : ∀ n (waits : Nat → α → Prop) (left : List α),
      (∀ k, ∀ a ∈ items, waits (k + 1) a → waits k a) →
      (∀ k < n, (∀ a ∈ items, waits k a → waits (k + 1) a) → ∀ a ∈ items, ¬waits k a) →
      (∀ a ∈ items, waits 0 a → a ∈ left) → left.length ≤ n → ∀ a ∈ items, ¬waits n a from
    rounds n waits items falls moves (fun _ listed _ => listed) enough
  classical
  intro n
  induction n with
  | zero =>
    intro waits left _ _ covers enough a listed waiting
    rw [List.length_eq_zero_iff.mp (Nat.le_zero.mp enough)] at covers
    exact List.not_mem_nil (covers a listed waiting)
  | succ n ih =>
    intro waits left falls moves covers enough
    by_cases idle : ∀ a ∈ items, waits 0 a → waits 1 a
    · have none := moves 0 (Nat.succ_pos n) idle
      have never : ∀ k, ∀ a ∈ items, ¬waits k a := by
        intro k
        induction k with
        | zero => exact none
        | succ k before => exact fun a listed waiting => before a listed (falls k a listed waiting)
      exact never (n + 1)
    · push Not at idle
      obtain ⟨a, listed, waiting, gone⟩ := idle
      refine ih (fun k => waits (k + 1)) (left.filter (· ≠ a)) (fun k => falls (k + 1)) ?_ ?_ ?_
      · exact fun k within => moves (k + 1) (Nat.succ_lt_succ within)
      · intro b member still
        have other : b ≠ a := fun same => gone (same ▸ still)
        exact List.mem_filter.mpr ⟨covers b member (falls 0 b member still), decide_eq_true other⟩
      · have fewer : (left.filter (· ≠ a)).length < left.length :=
          List.length_filter_lt_length_iff_exists.mpr ⟨a, covers a listed waiting, by simp⟩
        omega

end Foundation
