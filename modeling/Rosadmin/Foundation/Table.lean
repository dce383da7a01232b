import Mathlib.Data.List.Nodup
import Mathlib.Data.List.Pairwise

/-!
# Tables

A table is a list of rows. A unique column is one whose values are distinct
along it; a nullable one leaves the nulls out. An update of the row under a
unique key leaves at most one row changed.
-/

namespace Foundation

variable {ρ κ : Type}

/-- `UPDATE .. SET .. WHERE ..` -/
def update (holds : ρ → Bool) (set : ρ → ρ) (rows : List ρ) :
    List ρ := rows.map (fun row => if holds row then set row else row)

section
variable {holds : ρ → Bool} {set : ρ → ρ} {rows : List ρ}

theorem mem_update {row : ρ} :
    row ∈ update holds set rows ↔ (∃ old ∈ rows, holds old = true ∧ set old = row) ∨
      (row ∈ rows ∧ holds row = false) := by
  simp only [update, List.mem_map]
  constructor
  · rintro ⟨old, member, rfl⟩
    by_cases here : holds old = true
    · exact Or.inl ⟨old, member, here, (if_pos here).symm⟩
    · rw [if_neg here]
      exact Or.inr ⟨member, eq_false_of_ne_true here⟩
  · rintro (⟨old, member, here, rfl⟩ | ⟨member, other⟩)
    · exact ⟨old, member, if_pos here⟩
    · exact ⟨row, member, if_neg (by rw [other]; exact Bool.false_ne_true)⟩

theorem update_self (same : ∀ row ∈ rows, holds row = true → set row = row) :
    update holds set rows = rows := by
  refine (List.map_congr_left fun row member => ?_).trans (List.map_id rows)
  split
  · rename_i here
    exact same row member here
  · rfl

/-- What holds between any two rows still does once the row under a unique key is set, if it does
for the new row. -/
theorem pairwise_update {key : ρ → κ} {k : κ} [DecidableEq κ] {related : ρ → ρ → Prop}
    (symmetric : ∀ a b, related a b → related b a) (unique : (rows.map key).Nodup)
    (pairwise : rows.Pairwise related)
    (apart : ∀ a ∈ rows, ∀ b ∈ rows, key a = k → key b ≠ k → related (set a) b) :
    (update (fun row => key row = k) set rows).Pairwise related := by
  induction rows with
  | nil => exact List.Pairwise.nil
  | cons row rows ih =>
    obtain ⟨first, rest⟩ := List.pairwise_cons.mp pairwise
    obtain ⟨other, unique⟩ := List.nodup_cons.mp unique
    have tail := ih unique rest fun a ma b mb =>
      apart a (List.mem_cons_of_mem _ ma) b (List.mem_cons_of_mem _ mb)
    refine List.pairwise_cons.mpr ⟨fun b member => ?_, tail⟩
    have distinct : ∀ b ∈ rows, key b ≠ key row :=
      fun b mb same => other (same ▸ List.mem_map_of_mem mb)
    by_cases here : key row = k
    · have changed : (if decide (key row = k) = true then set row else row) = set row :=
        if_pos (decide_eq_true here)
      show related (if decide (key row = k) = true then set row else row) b
      rw [changed]
      rcases mem_update.mp member with ⟨old, present, held, rfl⟩ | ⟨present, unheld⟩
      · exact absurd ((of_decide_eq_true held).trans here.symm) (distinct old present)
      · exact apart row List.mem_cons_self b (List.mem_cons_of_mem _ present) here
          (of_decide_eq_false unheld)
    · have kept : (if decide (key row = k) = true then set row else row) = row :=
        if_neg (mt of_decide_eq_true here)
      show related (if decide (key row = k) = true then set row else row) b
      rw [kept]
      rcases mem_update.mp member with ⟨old, present, held, rfl⟩ | ⟨present, -⟩
      · exact symmetric _ _ (apart old (List.mem_cons_of_mem _ present) row List.mem_cons_self
          (of_decide_eq_true held) here)
      · exact first b present

end

theorem find?_key {rows : List ρ} {key : ρ → κ} [DecidableEq κ] (unique : (rows.map key).Nodup)
    {row : ρ} (present : row ∈ rows) : rows.find? (fun r => key r = key row) = some row := by
  cases found : rows.find? (fun r => key r = key row) with
  | none => exact absurd (decide_eq_true rfl) (List.find?_eq_none.mp found row present)
  | some other =>
    have same : key other = key row := by simpa using List.find?_some found
    rw [List.inj_on_of_nodup_map unique (List.mem_of_find?_eq_some found) present same]

/-- Where a key is unique, the order of the rows does not matter to a lookup under it. -/
theorem find?_perm {rows others : List ρ} {key : ρ → κ} [DecidableEq κ] (perm : others.Perm rows)
    (unique : (rows.map key).Nodup) (k : κ) :
    others.find? (fun r => key r = k) = rows.find? (fun r => key r = k) := by
  have unique' : (others.map key).Nodup := (perm.map key).nodup_iff.mpr unique
  cases found : rows.find? (fun r => key r = k) with
  | none => exact List.find?_eq_none.mpr fun row member =>
      List.find?_eq_none.mp found row (perm.subset member)
  | some row =>
    have same : key row = k := by simpa using List.find?_some found
    rw [← same]
    exact find?_key unique' (perm.symm.subset (List.mem_of_find?_eq_some found))

theorem filter_key_length {rows : List ρ} {key : ρ → κ} [DecidableEq κ]
    (unique : (rows.map key).Nodup) (k : κ) : (rows.filter fun r => key r = k).length ≤ 1 := by
  have once := List.nodup_iff_count_le_one.mp unique k
  rw [List.count, List.countP_map, List.countP_eq_length_filter] at once
  have same : (fun x => x == k) ∘ key = fun r => decide (key r = k) := by
    funext r
    exact beq_eq_decide (key r) k
  rw [same] at once
  exact once

theorem row_of_nullable {rows : List ρ} {column : ρ → Option κ}
    (unique : (rows.filterMap column).Nodup) {a b : ρ} {k : κ} (first : a ∈ rows)
    (second : b ∈ rows) (ka : column a = some k) (kb : column b = some k) :
    a = b := by
  by_contra apart
  have symmetric : Std.Symm fun a b : ρ => ∀ x, column a = some x →
      ∀ y, column b = some y → x ≠ y :=
    ⟨fun _ _ distinct x here y there => (distinct y there x here).symm⟩
  exact (List.pairwise_filterMap.mp unique).forall first second apart k ka k kb rfl

/-- A list splits in one way only at the row that has a given value in a unique nullable column. -/
theorem split_of_nullable {column : ρ → Option κ} {before before' after after' : List ρ} {a b : ρ}
    {k : κ} (same : before ++ a :: after = before' ++ b :: after')
    (unique : ((before ++ a :: after).filterMap column).Nodup) (ka : column a = some k)
    (kb : column b = some k) :
    before = before' ∧ a = b ∧ after = after' := by
  have once : ∀ {x y : List ρ} {c d : ρ} {z : List ρ},
      ((x ++ c :: (y ++ d :: z)).filterMap column).Nodup →
        column c = some k → column d = some k → False := by
    intro x y c d z nodup kc kd
    simp only [List.filterMap_append, List.filterMap_cons, kc, kd] at nodup
    have apart := (List.nodup_cons.mp (List.nodup_append.mp nodup).2.1).1
    exact apart (List.mem_append_right _ List.mem_cons_self)
  rcases List.append_eq_append_iff.mp same with ⟨mid, whole, rest⟩ | ⟨mid, whole, rest⟩
  · cases mid with
    | nil =>
      obtain ⟨rfl, rfl⟩ := List.cons_eq_cons.mp rest
      exact ⟨by simpa using whole.symm, rfl, rfl⟩
    | cons c mid =>
      obtain ⟨rfl, rfl⟩ := List.cons_eq_cons.mp rest
      exact (once unique ka kb).elim
  · cases mid with
    | nil =>
      obtain ⟨rfl, rfl⟩ := List.cons_eq_cons.mp rest
      exact ⟨by simpa using whole, rfl, rfl⟩
    | cons c mid =>
      obtain ⟨rfl, rfl⟩ := List.cons_eq_cons.mp rest
      rw [same] at unique
      exact (once unique kb ka).elim

end Foundation
