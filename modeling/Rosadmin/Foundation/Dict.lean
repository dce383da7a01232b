import Mathlib.Data.List.Nodup
import Mathlib.Data.List.Sort

/-!
# Insertion-ordered dictionaries

A Python `dict`: each key once, in the order the keys first came. Every write
is an `update`, and `get?_update` is all that reading one back needs.
-/

namespace Foundation

variable {κ ν : Type}

def updateItems [DecidableEq κ] (k : κ) (f : Option ν → ν) : List (κ × ν) → List (κ × ν)
  | [] => [(k, f none)]
  | e :: es => if e.1 = k then (k, f (some e.2)) :: es else e :: updateItems k f es

theorem updateItems_keys [DecidableEq κ] (k : κ) (f : Option ν → ν) (items : List (κ × ν)) :
    (updateItems k f items).map (·.1) =
      if k ∈ items.map (·.1) then items.map (·.1) else items.map (·.1) ++ [k] := by
  induction items with
  | nil => rfl
  | cons e es ih =>
    by_cases same : e.1 = k
    · simp [updateItems, same]
    · simp only [updateItems, if_neg same, List.map_cons, ih, List.mem_cons, Ne.symm same, false_or]
      split <;> rfl

theorem updateItems_new [DecidableEq κ] {k : κ} {f : Option ν → ν} {items : List (κ × ν)}
    (absent : k ∉ items.map (·.1)) : updateItems k f items = items ++ [(k, f none)] := by
  induction items with
  | nil => rfl
  | cons e items ih =>
    rw [List.map_cons, List.mem_cons, not_or] at absent
    rw [updateItems, if_neg (Ne.symm absent.1), ih absent.2]
    rfl

theorem updateItems_last [DecidableEq κ] {k : κ} {f : Option ν → ν} {items : List (κ × ν)} {v : ν}
    (absent : k ∉ items.map (·.1)) : updateItems k f (items ++ [(k, v)]) = items ++
      [(k, f (some v))] := by
  induction items with
  | nil => exact if_pos rfl
  | cons e items ih =>
    rw [List.map_cons, List.mem_cons, not_or] at absent
    rw [List.cons_append, updateItems, if_neg (Ne.symm absent.1), ih absent.2]
    rfl

/-- A dictionary: its items in insertion order, under distinct keys. -/
structure Dict (κ ν : Type) where
  items : List (κ × ν)
  nodup : (items.map (·.1)).Nodup

namespace Dict

def empty : Dict κ ν := ⟨[], List.nodup_nil⟩

instance [DecidableEq κ] [DecidableEq ν] : DecidableEq (Dict κ ν) := fun d d' =>
  decidable_of_iff (d.items = d'.items)
    (Iff.intro (fun same => by cases d; cases d'; cases same; rfl) (congrArg items))

def keys (d : Dict κ ν) : List κ := d.items.map (·.1)

instance : Membership κ (Dict κ ν) := ⟨fun d k => k ∈ d.keys⟩

theorem mem_def {d : Dict κ ν} {k : κ} : k ∈ d ↔ k ∈ d.keys := Iff.rfl

theorem mem_iff_item {d : Dict κ ν} {k : κ} : k ∈ d ↔ ∃ v, (k, v) ∈ d.items := by
  simp [mem_def, keys]

@[simp] theorem not_mem_empty (k : κ) : k ∉ (empty : Dict κ ν) := List.not_mem_nil

section Sorted
variable [LinearOrder κ]

/-- `sorted(d.items())`: the keys are distinct, so no value is ever compared. -/
def sorted (d : Dict κ ν) : List (κ × ν) := d.items.insertionSort (fun a b => a.1 ≤ b.1)

theorem sorted_perm (d : Dict κ ν) : d.sorted.Perm d.items := List.perm_insertionSort _ _

theorem mem_sorted {d : Dict κ ν} {e : κ × ν} : e ∈ d.sorted ↔ e ∈ d.items :=
  (sorted_perm d).mem_iff

theorem sorted_keys_nodup (d : Dict κ ν) : (d.sorted.map (·.1)).Nodup :=
  ((sorted_perm d).map (·.1)).nodup_iff.mpr d.nodup

theorem sorted_keys_ordered (d : Dict κ ν) : d.sorted.Pairwise (fun a b => a.1 < b.1) := by
  have : Std.Total (fun a b : κ × ν => a.1 ≤ b.1) := ⟨fun a b => le_total a.1 b.1⟩
  have : IsTrans (κ × ν) (fun a b => a.1 ≤ b.1) := ⟨fun _ _ _ => le_trans⟩
  have ordered : d.sorted.Pairwise (fun a b => a.1 ≤ b.1) := List.pairwise_insertionSort _ _
  exact (List.pairwise_map.mp (sorted_keys_nodup d)).imp₂
    (fun _ _ different le => lt_of_le_of_ne le different) ordered

end Sorted

section Write
variable [DecidableEq κ]

def get? (d : Dict κ ν) (k : κ) : Option ν := (d.items.find? (fun e => e.1 = k)).map (·.2)

/-- Replace the value under `k` by `f` of it, or append `f none`. -/
def update (d : Dict κ ν) (k : κ) (f : Option ν → ν) : Dict κ ν :=
  ⟨updateItems k f d.items, by
    rw [updateItems_keys]
    split
    · exact d.nodup
    · rename_i fresh
      exact List.nodup_append.mpr ⟨d.nodup, List.nodup_singleton k, fun a member b single => by
        rintro rfl
        exact fresh (List.mem_singleton.mp single ▸ member)⟩⟩

/-- `d[k] = v`. -/
def set (d : Dict κ ν) (k : κ) (v : ν) : Dict κ ν := d.update k (fun _ => v)

/-- `d.setdefault(k, v)`. -/
def setDefault (d : Dict κ ν) (k : κ) (v : ν) : Dict κ ν := d.update k (·.getD v)

/-- `del d[k]`, for a key that is there. -/
def erase (d : Dict κ ν) (k : κ) : Dict κ ν :=
  ⟨d.items.filter (fun e => e.1 ≠ k), d.nodup.sublist (List.filter_sublist.map _)⟩

instance (d : Dict κ ν) (k : κ) : Decidable (k ∈ d) := inferInstanceAs (Decidable (k ∈ d.keys))

theorem get?_update (d : Dict κ ν) (k : κ) (f : Option ν → ν) (j : κ) :
    (d.update k f).get? j = if j = k then some (f (d.get? k)) else d.get? j := by
  have walk : ∀ items : List (κ × ν), ((updateItems k f items).find? (fun e => e.1 = j)).map (·.2) =
      if j = k then some (f ((items.find? (fun e => e.1 = k)).map (·.2)))
      else (items.find? (fun e => e.1 = j)).map (·.2) := by
    intro items
    induction items with
    | nil => by_cases here : k = j <;> simp [updateItems, here, eq_comm]
    | cons e es ih =>
      by_cases same : e.1 = k
      · by_cases here : k = j
        · simp [updateItems, same, here]
        · simp [updateItems, same, here, Ne.symm here]
      · by_cases here : e.1 = j
        · have other : j ≠ k := here ▸ same
          simp [updateItems, here, other]
        · simp only [updateItems, same, if_false, List.find?_cons, here, decide_false]
          exact ih
  exact walk d.items

theorem mem_update {d : Dict κ ν} {k : κ} {f : Option ν → ν} {j : κ} :
    j ∈ d.update k f ↔ j = k ∨ j ∈ d := by
  have keys : (d.update k f).keys = if k ∈ d.keys then d.keys else d.keys ++ [k] :=
    updateItems_keys k f d.items
  rw [mem_def, mem_def, keys]
  split
  · rename_i old
    exact ⟨Or.inr, fun h => h.elim (fun same => same ▸ old) id⟩
  · simp [or_comm]

@[simp] theorem mem_set {d : Dict κ ν} {k : κ} {v : ν} {j : κ} :
    j ∈ d.set k v ↔ j = k ∨ j ∈ d := mem_update

@[simp] theorem get?_set (d : Dict κ ν) (k : κ) (v : ν) (j : κ) :
    (d.set k v).get? j = if j = k then some v else d.get? j := get?_update d k _ j

theorem mem_of_get? {d : Dict κ ν} {k : κ} {v : ν} (h : d.get? k = some v) : k ∈ d := by
  obtain ⟨e, found, -⟩ := Option.map_eq_some_iff.mp h
  have same : e.1 = k := by simpa using List.find?_some found
  exact List.mem_map.mpr ⟨e, List.mem_of_find?_eq_some found, same⟩

theorem get?_eq_some_iff {d : Dict κ ν} {k : κ} {v : ν} : d.get? k = some v ↔ (k, v) ∈ d.items := by
  constructor
  · intro h
    obtain ⟨e, found, rfl⟩ := Option.map_eq_some_iff.mp h
    have same : e.1 = k := by simpa using List.find?_some found
    rw [← same]
    exact List.mem_of_find?_eq_some found
  · intro item
    cases found : d.items.find? (fun e => e.1 = k) with
    | none => exact absurd (List.find?_eq_none.mp found _ item) (by simp)
    | some e =>
      have same : e.1 = k := by simpa using List.find?_some found
      have one : e = (k, v) :=
        List.inj_on_of_nodup_map d.nodup (List.mem_of_find?_eq_some found) item same
      rw [get?, found, one]
      rfl

/-- A comprehension over the items of a dictionary maps its values. -/
theorem get?_foldl_set {μ : Type} (d : Dict κ ν) (f : ν → μ) (k : κ) :
    (d.items.foldl (fun m e => m.set e.1 (f e.2)) (empty : Dict κ μ)).get? k =
      (d.get? k).map f := by
  have walk : ∀ (items : List (κ × ν)) (m : Dict κ μ), (items.map (·.1)).Nodup →
      (items.foldl (fun m e => m.set e.1 (f e.2)) m).get? k =
        ((items.find? (fun e => e.1 = k)).map (fun e => f e.2)).or (m.get? k) := by
    intro items
    induction items with
    | nil => exact fun m _ => rfl
    | cons e items ih =>
      intro m distinct
      obtain ⟨apart, rest⟩ := List.nodup_cons.mp distinct
      rw [List.foldl_cons, ih _ rest, get?_set]
      by_cases here : e.1 = k
      · have missing : items.find? (fun e => e.1 = k) = none := by
          refine List.find?_eq_none.mpr fun other member same => apart ?_
          exact List.mem_map.mpr ⟨other, member, (of_decide_eq_true same).trans here.symm⟩
        rw [missing, List.find?_cons_of_pos (by simp [here]), if_pos here.symm]
        rfl
      · rw [List.find?_cons_of_neg (by simp [here]), if_neg (Ne.symm here)]
  rw [walk d.items empty d.nodup]
  unfold get?
  cases d.items.find? (fun e => e.1 = k) <;> rfl

@[simp] theorem get?_erase (d : Dict κ ν) (k j : κ) :
    (d.erase k).get? j = if j = k then none else d.get? j := by
  have left : ∀ v, (d.erase k).get? j = some v ↔ d.get? j = some v ∧ j ≠ k := by
    intro v
    rw [get?_eq_some_iff, get?_eq_some_iff, erase, List.mem_filter, decide_eq_true_eq]
  apply Option.ext
  intro v
  rw [left]
  split
  · rename_i here
    simp [here]
  · rename_i other
    simp [other]

end Write

end Dict

end Foundation
