import Rosadmin.Foundation.Text

/-!
# Lowering a folded text

Folding carries some lowercase letters further: a sharp s becomes two letters,
a final sigma a plain one. A text lowers to the same key before and after it is
folded exactly when its lowercase has no such letter.
-/

namespace Foundation

/-- Lowering, for every code point but the capital sigma. -/
def lowerPlain (c : Nat) : List Nat := mapChar asciiLower lowerSpecials lowerRuns c

theorem lowerChar_plain {c : Nat} (before after : Str) (other : c ≠ 0x3a3) :
    lowerChar before after c = lowerPlain c := if_neg other

theorem lowerFrom_plain {s : Str} (none : 0x3a3 ∉ s) (before : Str) :
    lowerFrom before s = s.flatMap lowerPlain := by
  induction s generalizing before with
  | nil => rfl
  | cons c s ih =>
    rw [List.mem_cons, not_or] at none
    rw [lowerFrom, lowerChar_plain _ _ (Ne.symm none.1), ih none.2, List.flatMap_cons]

theorem sigma_not_folded {d c : Nat} (image : d ∈ foldChar c) : d ≠ 0x3a3 := by
  rintro rfl
  have fixed := foldChar_image image
  exact absurd fixed (by decide +kernel)

theorem lower_casefold (s : Str) :
    lower (casefold s) = s.flatMap (fun c => (foldChar c).flatMap lowerPlain) := by
  have none : 0x3a3 ∉ casefold s := by
    intro member
    obtain ⟨c, -, image⟩ := List.mem_flatMap.mp member
    exact sigma_not_folded image rfl
  rw [lower, lowerFrom_plain none, casefold, List.flatMap_assoc]

theorem lower_casefold_singleton (c : Nat) :
    lower (casefold [c]) = (foldChar c).flatMap lowerPlain := by
  rw [lower_casefold, List.flatMap_singleton]

theorem foldSpecials_nonempty : foldSpecials.all (fun e => !e.2.isEmpty) = true := by decide +kernel

theorem foldChar_ne_nil (c : Nat) : foldChar c ≠ [] := by
  unfold foldChar mapChar
  split
  · exact List.cons_ne_nil _ _
  split
  · rename_i e found
    have some_ := List.all_eq_true.mp foldSpecials_nonempty e (List.mem_of_find?_eq_some found)
    simpa using some_
  split <;> exact List.cons_ne_nil _ _

/-- A letter of a folded and lowered text stays as it is when both are done again. -/
theorem lower_casefold_image {c d : Nat} (image : d ∈ lower (casefold [c])) :
    lower (casefold [d]) = [d] := by
  rw [lower_casefold_singleton] at image
  obtain ⟨e, folded, lowered⟩ := List.mem_flatMap.mp image
  have back : (lowerPlain e).flatMap foldChar = [e] := by
    rw [← lowerChar_plain [] [] (sigma_not_folded folded), flatMap_foldChar_lowerChar]
    exact foldChar_image folded
  -- folding back is one letter, so lowering was one letter
  have one : lowerPlain e = [d] := by
    cases images : lowerPlain e with
    | nil =>
      rw [images] at lowered
      exact absurd lowered List.not_mem_nil
    | cons a rest =>
      rw [images, List.flatMap_cons] at back
      cases rest with
      | nil =>
        rw [images] at lowered
        rw [List.mem_singleton.mp lowered]
      | cons b rest =>
        have length := congrArg List.length back
        have first := List.length_pos_iff.mpr (foldChar_ne_nil a)
        have second := List.length_pos_iff.mpr (foldChar_ne_nil b)
        rw [List.flatMap_cons, List.length_append, List.length_append,
          List.length_singleton] at length
        omega
  rw [one, List.flatMap_singleton] at back
  rw [lower_casefold_singleton, back, List.flatMap_singleton, one]

theorem lower_casefold_eq_iff (s : Str) :
    lower (casefold s) = lower s ↔ ∀ d ∈ lower s, lower (casefold [d]) = [d] := by
  constructor
  · intro same d member
    rw [← same, lower_casefold] at member
    obtain ⟨c, -, image⟩ := List.mem_flatMap.mp member
    rw [← lower_casefold_singleton] at image
    exact lower_casefold_image image
  · intro settled
    have each : ∀ d ∈ lower s, (foldChar d).flatMap lowerPlain = [d] := fun d member => by
      rw [← lower_casefold_singleton, settled d member]
    rw [← casefold_lower, lower_casefold, List.flatMap_congr each]
    exact List.flatMap_singleton' (lower s)

end Foundation
