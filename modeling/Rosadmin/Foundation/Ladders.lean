import Mathlib.Data.List.Basic

/-!
# Ladders

Forms of one thing, each no longer than the one before it, of which the first
under a cap is taken.
-/

namespace Foundation

section
variable {α : Type*} (size : α → Nat) (cap : Nat) (rungs : List α)

/-- No rung is longer than the one before it. -/
def Descending : Prop := rungs.Pairwise fun before after => size after ≤ size before

/-- The longest rung that fits. -/
structure Longest (rung : α) : Prop where
  mem : rung ∈ rungs
  fits : size rung ≤ cap
  longest : ∀ other ∈ rungs, size other ≤ cap → size other ≤ size rung

end

section
variable {α : Type*} {size : α → Nat} {cap : Nat} {rungs : List α}

theorem Descending.longest {rung : α} (descending : Descending size rungs)
    (found : rungs.find? (fun rung => size rung ≤ cap) = some rung) :
    Longest size cap rungs rung := by
  induction rungs with
  | nil => cases found
  | cons first rest ih =>
    obtain ⟨below, descending⟩ := List.pairwise_cons.mp descending
    by_cases fits : size first ≤ cap
    · rw [List.find?_cons_of_pos (by simpa using fits)] at found
      cases found
      exact ⟨List.mem_cons_self, fits,
        List.forall_mem_cons.mpr ⟨fun _ => Nat.le_refl _, fun other member _ => below other member⟩⟩
    · rw [List.find?_cons_of_neg (by simpa using fits)] at found
      have later := ih descending found
      exact ⟨List.mem_cons_of_mem first later.mem, later.fits,
        List.forall_mem_cons.mpr ⟨fun under => absurd under fits, later.longest⟩⟩

/-- Nothing is taken exactly when the last rung is too long. -/
theorem Descending.none_iff {last : α} (descending : Descending size (rungs ++ [last])) :
    (rungs ++ [last]).find? (fun rung => size rung ≤ cap) = none ↔ cap < size last := by
  have above : ∀ rung ∈ rungs ++ [last], size last ≤ size rung := by
    intro rung member
    rcases List.mem_append.mp member with earlier | same
    · exact (List.pairwise_append.mp descending).2.2 rung earlier last
        (List.mem_singleton_self last)
    · exact Nat.le_of_eq (congrArg size (List.mem_singleton.mp same).symm)
  simp only [List.find?_eq_none, decide_eq_true_eq, Nat.not_le]
  constructor
  · intro long
    exact long last (by simp)
  · intro long rung member
    exact Nat.lt_of_lt_of_le long (above rung member)

end

end Foundation
