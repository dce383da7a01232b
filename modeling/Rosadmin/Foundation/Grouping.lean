import Rosadmin.Foundation.Dict

/-!
# Grouping rows

A loop that files each row under its key, where the first row of a key opens the
entry. An entry is then what the rows of its key alone make of it, and the keys
stand in the order of their first rows.
-/

namespace Foundation

section
variable {ρ κ ν : Type} [DecidableEq κ] (key : ρ → κ) (file : Option ν → ρ → ν)

def fileRow (entries : Dict κ ν) (row : ρ) : Dict κ ν :=
  entries.update (key row) fun found => file found row

/-- What the rows make of one entry, from what is there. -/
def entryOf (found : Option ν) (rows : List ρ) : Option ν :=
  rows.foldl (fun found row => some (file found row)) found

variable {key} {file}

@[simp] theorem keys_fileRow (entries : Dict κ ν) (row : ρ) : (fileRow key file entries row).keys =
    if key row ∈ entries.keys then entries.keys else entries.keys ++ [key row] :=
      updateItems_keys _ _ _

@[simp] theorem get?_fileRow (entries : Dict κ ν) (row : ρ) (k : κ) :
    (fileRow key file entries row).get? k =
    if k = key row then some (file (entries.get? (key row)) row) else entries.get? k :=
      Dict.get?_update _ _ _ _

theorem get?_fileRows (rows : List ρ) (entries : Dict κ ν) (k : κ) :
    (rows.foldl (fileRow key file) entries).get? k = entryOf file (entries.get? k)
      (rows.filter (key · = k)) := by
  induction rows generalizing entries with
  | nil => rfl
  | cons row rows ih =>
    rw [List.foldl_cons, ih, get?_fileRow]
    by_cases here : k = key row
    · rw [if_pos here, List.filter_cons_of_pos (by simp [here]), ← here]
      rfl
    · rw [if_neg here, List.filter_cons_of_neg (by simpa using Ne.symm here)]

theorem mem_keys_fileRows (rows : List ρ) (entries : Dict κ ν) (k : κ) :
    k ∈ (rows.foldl (fileRow key file) entries).keys ↔ k ∈ entries.keys ∨ k ∈ rows.map key := by
  induction rows generalizing entries with
  | nil => simp
  | cons row rows ih =>
    rw [List.foldl_cons, ih, keys_fileRow, List.map_cons, List.mem_cons]
    split
    · rename_i there
      exact ⟨Or.imp_right Or.inr, fun known => known.elim Or.inl fun later =>
        later.elim (fun same => Or.inl (same ▸ there)) Or.inr⟩
    · rw [List.mem_append, List.mem_singleton, or_assoc]

theorem keys_fileRows (rows : List ρ) (entries : Dict κ ν) : ∃ firsts :
    List ρ, firsts.Sublist rows ∧
    (rows.foldl (fileRow key file) entries).keys = entries.keys ++ firsts.map key := by
  induction rows generalizing entries with
  | nil => exact ⟨[], List.Sublist.refl _, (List.append_nil _).symm⟩
  | cons row rows ih =>
    obtain ⟨firsts, among, keys⟩ := ih (fileRow key file entries row)
    rw [List.foldl_cons, keys, keys_fileRow]
    split
    · exact ⟨firsts, among.cons row, rfl⟩
    · exact ⟨row :: firsts, among.cons_cons row, by rw [List.append_assoc]; rfl⟩

/-- Rows in some order give their keys in that order, if the order only looks at the keys. -/
theorem ordered_fileRows {le : κ → κ → Prop} {rows : List ρ}
    (ordered : rows.Pairwise fun a b => le (key a) (key b)) :
    (rows.foldl (fileRow key file) Dict.empty).keys.Pairwise le := by
  obtain ⟨firsts, among, keys⟩ := @keys_fileRows ρ κ ν _ key file rows Dict.empty
  rw [keys]
  exact List.pairwise_map.mpr (ordered.sublist among)

theorem item_fileRows {rows : List ρ} {e : κ × ν}
    (listed : e ∈ (rows.foldl (fileRow key file) Dict.empty).items) :
    e.1 ∈ rows.map key ∧ entryOf file none (rows.filter (key · = e.1)) = some e.2 := by
  have found : (rows.foldl (fileRow key file) Dict.empty).get? e.1 = some e.2 :=
    Dict.get?_eq_some_iff.mpr listed
  rw [get?_fileRows] at found
  refine ⟨?_, found⟩
  exact ((mem_keys_fileRows rows Dict.empty e.1).mp (List.mem_map_of_mem listed)).resolve_left
    (Dict.not_mem_empty e.1)

end

end Foundation
