import Mathlib.Data.List.Basic

/-!
# A collection read in pages while it changes

A reader asks for one page after another, and items come and go in between.
Where an item stands is followed through the changes; a reader misses no item
that stays and that no changes take from ahead of it to behind it.
-/

namespace Foundation

variable {α : Type}

inductive Change (α : Type) where
  | insert (index : Nat) (item : α)
  | delete (index : Nat)

def Change.apply (items : List α) : Change α → List α
  | .insert index item => items.insertIdx index item
  | .delete index => items.eraseIdx index

/-- Where the item at `i` stands after the change; the one deleted stands nowhere. -/
def Change.carry (i : Nat) : Change α → Option Nat
  | .insert index _ => some (if index ≤ i then i + 1 else i)
  | .delete index => if i = index then none else some (if index < i then i - 1 else i)

def changed (items : List α) (changes : List (Change α)) : List α :=
  changes.foldl Change.apply items

def carried (i : Nat) (changes : List (Change α)) : Option Nat := changes.foldlM Change.carry i

def page (items : List α) (offset limit : Nat) : List α := (items.drop offset).take limit

variable {items : List α} {i j offset limit : Nat} {item : α}

theorem carry_getElem? {change : Change α} (there : items[i]? = some item)
    (onto : change.carry i = some j) : (change.apply items)[j]? = some item := by
  have within : i < items.length := (List.getElem?_eq_some_iff.mp there).1
  cases change with
  | insert index other =>
    rw [Change.apply, List.getElem?_insertIdx]
    cases Option.some.inj onto
    by_cases before : index ≤ i
    · rw [if_pos before, if_neg (by omega), if_neg (by omega), Nat.add_sub_cancel]
      exact there
    · rw [if_neg before, if_pos (by omega)]
      exact there
  | delete index =>
    rw [Change.apply, List.getElem?_eraseIdx]
    rw [Change.carry] at onto
    split at onto
    · cases onto
    · cases Option.some.inj onto
      by_cases before : index < i
      · rw [if_pos before, if_neg (by omega), show i - 1 + 1 = i by omega]
        exact there
      · rw [if_neg before, if_pos (by omega)]
        exact there

theorem carried_cons {change : Change α} {changes : List (Change α)} :
    carried i (change :: changes) = (change.carry i).bind (fun k => carried k changes) := rfl

theorem carried_append {before after : List (Change α)} :
    carried i (before ++ after) = (carried i before).bind (fun k => carried k after) := by
  rw [carried, List.foldlM_append]
  rfl

theorem carried_getElem? {changes : List (Change α)} (there : items[i]? = some item)
    (onto : carried i changes = some j) : (changed items changes)[j]? = some item := by
  induction changes generalizing items i with
  | nil =>
    cases Option.some.inj onto
    exact there
  | cons change changes ih =>
    rw [carried_cons] at onto
    obtain ⟨k, first, later⟩ := Option.bind_eq_some_iff.mp onto
    exact ih (carry_getElem? there first) later

theorem mem_page (there : items[i]? = some item) (reached : offset ≤ i)
    (within : i < offset + limit) : item ∈ page items offset limit := by
  apply List.mem_of_getElem? (i := i - offset)
  rw [page, List.getElem?_take, if_pos (by omega), List.getElem?_drop,
    show offset + (i - offset) = i by omega]
  exact there

/-- Nothing stands beyond a page that is short, or that reaches the end of the collection. -/
theorem lt_of_last_page (there : items[i]? = some item)
    (last : (page items offset limit).length < limit ∨ items.length ≤ offset + limit) :
    i < offset + limit := by
  have within : i < items.length := (List.getElem?_eq_some_iff.mp there).1
  rw [page, List.length_take, List.length_drop] at last
  omega

/-- Between two pages the changes take the item from ahead of the reader to behind it. -/
def Passed (offset i : Nat) (changes : List (Change α)) : Prop :=
  offset ≤ i ∧ ∃ j < offset, carried i changes = some j

/-- The rounds of changes before the pages from `offset` on never pass the item. -/
def NeverPassed (limit : Nat) : Nat → Nat → List (List (Change α)) → Prop
  | _, _, [] => True
  | offset, i, changes :: rounds =>
    ¬Passed offset i changes ∧ ∀ j, carried i changes = some j →
      NeverPassed limit (offset + limit) j rounds

/-- What a page does for an item it has not passed: it holds the item, or leaves it ahead. -/
theorem page_meets {changes : List (Change α)} (there : items[i]? = some item) (ahead : offset ≤ i)
    (unpassed : ¬Passed offset i changes) (onto : carried i changes = some j) :
    item ∈ page (changed items changes) offset limit ∨ offset + limit ≤ j := by
  have still : offset ≤ j := by
    by_contra behind
    exact unpassed ⟨ahead, j, by omega, onto⟩
  by_cases within : j < offset + limit
  · exact Or.inl (mem_page (carried_getElem? there onto) still within)
  · exact Or.inr (by omega)

end Foundation
