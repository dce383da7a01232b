import Mathlib.Algebra.Group.Int.Defs
import Mathlib.Data.List.Infix
import Mathlib.Data.List.Lex
import Rosadmin.Foundation.CaseTables

/-!
# Python text

A `str` is a sequence of code points. `lower` and `casefold` are the full
Unicode mappings: one code point may become several, and the capital sigma
lowers by its context.
-/

namespace Foundation

/-- Lone surrogates are elements too, as JSON escapes can put them there. -/
abbrev Str := List Nat

-- Named here, so that every membership test over texts rests on this one proof.
instance : LawfulBEq Str := inferInstance

def str (s : String) : Str := s.toList.map Char.toNat

def asciiLower (c : Nat) : Nat :=
  if 0x41 ≤ c ∧ c ≤ 0x5a then c + 0x20 else c

def mapChar (ascii : Nat → Nat) (specials : List (Nat × List Nat)) (runs : List CaseRun) (c : Nat) :
    List Nat :=
  if c < 0x80 then [ascii c]
  else match specials.find? (fun e => Nat.beq e.1 c) with
    | some e => e.2
    | none => match runs.find? (·.holds c) with
      | some r => [r.map c]
      | none => [c]

def foldChar (c : Nat) : List Nat := mapChar asciiLower foldSpecials foldRuns c

/-- `str.casefold`. -/
def casefold (s : Str) : Str := s.flatMap foldChar

def inRuns (runs : List (Nat × Nat)) (c : Nat) : Bool :=
  runs.any (fun r => Nat.ble r.1 c && Nat.ble c r.2)

def isCased (c : Nat) : Bool := inRuns casedRuns c

def isCaseIgnorable (c : Nat) : Bool := inRuns caseIgnorableRuns c

def meetsCased : Str → Bool
  | [] => false
  | c :: s => if isCaseIgnorable c then meetsCased s else isCased c

/-- A capital sigma is final after a cased letter and before none; `before` is read backwards. -/
def lowerChar (before after : Str) (c : Nat) : List Nat :=
  if c = 0x3a3 then (if meetsCased before && !meetsCased after then [0x3c2] else [0x3c3])
  else mapChar asciiLower lowerSpecials lowerRuns c

def lowerFrom (before : Str) : Str → Str
  | [] => []
  | c :: after => lowerChar before after c ++ lowerFrom (c :: before) after

/-- `str.lower`. -/
def lower (s : Str) : Str := lowerFrom [] s

/-- `str.endswith`. -/
def endsWith (s suffix : Str) : Bool := suffix.isSuffixOf s

/-! ### Folding twice is folding once -/

def OnStride (lo hi step d : Nat) : Prop := lo ≤ d ∧ d ≤ hi ∧ (d - lo) % step = 0

/-- No code point of the stride is one that folding changes. A stride of the tables steps by one or
two or has one element, so two that overlap without meeting start at different parities. -/
def strideFixed (lo hi step : Nat) : Bool :=
  (Nat.ble 0x5b lo || Nat.ble (hi + 1) 0x41) &&
  foldSpecials.all (fun e => Nat.ble (hi + 1) e.1 || Nat.ble (e.1 + 1) lo ||
    ((Nat.beq step 2 || Nat.beq lo hi) && Nat.beq ((e.1 + lo) % 2) 1)) &&
  foldRuns.all (fun r => Nat.ble (hi + 1) r.first || Nat.ble (r.last + 1) lo ||
    ((Nat.beq step 2 || Nat.beq lo hi) && (Nat.beq r.step 2 || Nat.beq r.first r.last) &&
      Nat.beq ((r.first + lo) % 2) 1))

theorem parity_of_stride {lo hi step d : Nat} (on : OnStride lo hi step d)
    (coarse : step = 2 ∨ lo = hi) : d % 2 = lo % 2 := by
  obtain ⟨low, high, stride⟩ := on
  rcases coarse with rfl | rfl <;> omega

theorem CaseRun.onStride {r : CaseRun} {c : Nat} (holds : r.holds c = true) :
    OnStride r.first r.last r.step c := by
  simp only [CaseRun.holds, Bool.and_eq_true, Nat.ble_eq] at holds
  exact ⟨holds.1.1, holds.1.2, Nat.eq_of_beq_eq_true holds.2⟩

theorem foldChar_of_strideFixed {lo hi step d : Nat} (fixed : strideFixed lo hi step = true)
    (on : OnStride lo hi step d) : foldChar d = [d] := by
  have parity := parity_of_stride on
  obtain ⟨low, high, -⟩ := on
  simp only [strideFixed, Bool.and_eq_true, Bool.or_eq_true, List.all_eq_true, Nat.ble_eq,
    Nat.beq_eq] at fixed
  obtain ⟨⟨ascii, specials⟩, runs⟩ := fixed
  have noSpecial : foldSpecials.find? (fun e => Nat.beq e.1 d) = none := by
    refine List.find?_eq_none.mpr fun e member same => ?_
    have equal : e.1 = d := Nat.eq_of_beq_eq_true same
    rcases specials e member with (above | below) | ⟨coarse, odd⟩
    · omega
    · omega
    · have := parity coarse; omega
  have noRun : foldRuns.find? (·.holds d) = none := by
    refine List.find?_eq_none.mpr fun r member holds => ?_
    have onRun := CaseRun.onStride holds
    have parityRun := parity_of_stride onRun
    obtain ⟨lowRun, highRun, -⟩ := onRun
    rcases runs r member with (above | below) | ⟨⟨coarse, coarseRun⟩, odd⟩
    · omega
    · omega
    · have := parity coarse; have := parityRun coarseRun; omega
  unfold foldChar mapChar
  simp only [noSpecial, noRun]
  split
  · have plain : asciiLower d = d := if_neg (by omega)
    rw [plain]
  · rfl

theorem special_images_fixed :
    foldSpecials.all (fun e => e.2.all (fun d => strideFixed d d 1)) = true := by
  decide +kernel

theorem run_images_fixed :
    foldRuns.all (fun r => strideFixed r.image (r.image + (r.last - r.first)) r.step) = true := by
  decide +kernel

theorem asciiLower_fixed (c : Nat) : asciiLower (asciiLower c) = asciiLower c := by
  unfold asciiLower
  split
  · exact if_neg (by omega)
  · rfl

theorem foldChar_image {c d : Nat} (image : d ∈ foldChar c) : foldChar d = [d] := by
  unfold foldChar mapChar at image
  split at image
  · rename_i ascii
    obtain rfl := List.mem_singleton.mp image
    have low : asciiLower c < 0x80 := by unfold asciiLower; split <;> omega
    unfold foldChar mapChar
    rw [if_pos low, asciiLower_fixed]
  split at image
  · rename_i e found
    have fixed := List.all_eq_true.mp special_images_fixed e (List.mem_of_find?_eq_some found)
    exact foldChar_of_strideFixed (List.all_eq_true.mp fixed d image) ⟨le_refl d,
      le_refl d, by simp⟩
  split at image
  · rename_i r found
    obtain rfl := List.mem_singleton.mp image
    have holds := List.find?_some found
    obtain ⟨low, high, stride⟩ := CaseRun.onStride holds
    have fixed := List.all_eq_true.mp run_images_fixed r (List.mem_of_find?_eq_some found)
    refine foldChar_of_strideFixed fixed
      ⟨by unfold CaseRun.map; omega, by unfold CaseRun.map; omega, ?_⟩
    rw [CaseRun.map, Nat.add_sub_cancel_left]
    exact stride
  · rename_i ascii _ noSpecial _ noRun
    obtain rfl := List.mem_singleton.mp image
    unfold foldChar mapChar
    rw [if_neg ascii, noSpecial, noRun]

theorem casefold_casefold (s : Str) : casefold (casefold s) = casefold s := by
  have fixed : ∀ t : Str, (∀ d ∈ t, foldChar d = [d]) → casefold t = t := by
    intro t all
    induction t with
    | nil => rfl
    | cons d t ih =>
      have rest := ih fun e member => all e (List.mem_cons_of_mem _ member)
      show foldChar d ++ casefold t = d :: t
      rw [all d List.mem_cons_self, rest]
      rfl
  apply fixed _
  intro d member
  obtain ⟨c, _, image⟩ := List.mem_flatMap.mp member
  exact foldChar_image image

/-! ### Folding a lowered text -/

/-- Folding a code point from `lo` to `hi` reads only the entries of the tables that lie there. -/
def foldBetween (lo hi c : Nat) : List Nat :=
  mapChar asciiLower (foldSpecials.filter fun e => Nat.ble lo e.1 && Nat.ble e.1 hi)
    (foldRuns.filter fun r => Nat.ble r.first hi && Nat.ble lo r.last) c

theorem foldBetween_eq {lo hi c : Nat} (low : lo ≤ c) (high : c ≤ hi) :
    foldBetween lo hi c = foldChar c := by
  have specials : (foldSpecials.filter fun e => Nat.ble lo e.1 && Nat.ble e.1 hi).find? (fun e =>
      Nat.beq e.1 c) = foldSpecials.find? (fun e => Nat.beq e.1 c) := by
    rw [List.find?_filter]
    congr 1
    funext e
    cases same : Nat.beq e.1 c with
    | false => simp
    | true =>
      have here : e.1 = c := Nat.eq_of_beq_eq_true same
      simp [here, low, high]
  have runs : (foldRuns.filter fun r => Nat.ble r.first hi && Nat.ble lo r.last).find? (·.holds c) =
      foldRuns.find? (·.holds c) := by
    rw [List.find?_filter]
    congr 1
    funext r
    cases holds : r.holds c with
    | false => simp
    | true =>
      obtain ⟨first, last, -⟩ := CaseRun.onStride holds
      have reaches : r.first ≤ hi ∧ lo ≤ r.last := by omega
      simp [reaches]
  unfold foldBetween foldChar mapChar
  rw [specials, runs]

/-- Every code point of a run folds as its image does. -/
def foldsAlike (r : CaseRun) : Bool :=
  let steps := (r.last - r.first) / r.step
  (List.range (steps + 1)).all fun k =>
    foldBetween r.image (r.image + steps * r.step) (r.image + k * r.step) ==
      foldBetween r.first r.last (r.first + k * r.step)

theorem lowerRuns_foldAlike : lowerRuns.all foldsAlike = true := by
  decide +kernel

theorem lowerSpecials_foldAlike :
    lowerSpecials.all (fun e => e.2.flatMap foldChar == foldChar e.1) = true := by
  decide +kernel

theorem foldChar_map {r : CaseRun} {c : Nat} (alike : foldsAlike r = true)
    (holds : r.holds c = true) : foldChar (r.map c) = foldChar c := by
  obtain ⟨first, last, stride⟩ := CaseRun.onStride holds
  have whole : c - r.first = (c - r.first) / r.step * r.step := by
    have parts := Nat.div_add_mod' (c - r.first) r.step
    omega
  have bound : (c - r.first) / r.step ≤ (r.last - r.first) / r.step :=
    Nat.div_le_div_right (by omega)
  have inside : (r.last - r.first) / r.step * r.step ≤ r.last - r.first := Nat.div_mul_le_self _ _
  have scaled := Nat.mul_le_mul_right r.step bound
  have here := List.all_eq_true.mp alike ((c - r.first) / r.step) (List.mem_range.mpr (by omega))
  rw [beq_iff_eq, foldBetween_eq (by omega) (by omega), foldBetween_eq (by omega) (by omega),
    ← whole] at here
  rw [CaseRun.map, here]
  congr 1
  omega

theorem flatMap_foldChar_lowerChar (before after : Str) (c : Nat) :
    (lowerChar before after c).flatMap foldChar = foldChar c := by
  unfold lowerChar
  split
  · rename_i sigma
    subst sigma
    split <;> decide +kernel
  unfold mapChar
  split
  · rename_i ascii
    have low : asciiLower c < 0x80 := by unfold asciiLower; split <;> omega
    simp [foldChar, mapChar, ascii, low, asciiLower_fixed]
  split
  · rename_i e found
    have alike := List.all_eq_true.mp lowerSpecials_foldAlike e (List.mem_of_find?_eq_some found)
    have here : Nat.beq e.1 c = true := by simpa using List.find?_some found
    have same : e.1 = c := Nat.eq_of_beq_eq_true here
    rw [← same]
    exact eq_of_beq alike
  split
  · rename_i r found
    have alike := List.all_eq_true.mp lowerRuns_foldAlike r (List.mem_of_find?_eq_some found)
    have holds := List.find?_some found
    rw [List.flatMap_singleton, foldChar_map alike holds]
  · exact List.flatMap_singleton _ _

theorem casefold_lower (s : Str) : casefold (lower s) = casefold s := by
  have later : ∀ before : Str, casefold (lowerFrom before s) = casefold s := by
    induction s with
    | nil => exact fun _ => rfl
    | cons c s ih =>
      intro before
      rw [lowerFrom, casefold, List.flatMap_append, flatMap_foldChar_lowerChar]
      exact congrArg (foldChar c ++ ·) (ih (c :: before))
  exact later []

end Foundation
