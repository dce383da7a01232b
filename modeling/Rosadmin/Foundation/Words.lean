import Mathlib.Data.List.TakeWhile
import Rosadmin.Foundation.Json
import Rosadmin.Foundation.LetterTables

/-!
# Words and letters

`str.split`, `str.join`, what stands before and after a separator, and the letter
predicates of one code point.
-/

namespace Foundation

def asciiUpper (c : Nat) : Nat := if 0x61 ≤ c ∧ c ≤ 0x7a then c - 0x20 else c

/-- `str.upper` of one code point. -/
def upperChar (c : Nat) : Str := mapChar asciiUpper upperSpecials upperRuns c

/-- The title case of one code point. -/
def titleChar (c : Nat) : Str :=
  mapChar asciiUpper (titleSpecials ++ upperSpecials) (titleRuns ++ upperRuns) c

/-- `str.capitalize`. -/
def capitalize : Str → Str
  | [] => []
  | c :: rest => titleChar c ++ lowerFrom [c] rest

/-- `str.islower` of one code point. -/
def isLowerChar (c : Nat) : Bool := (Nat.ble 0x61 c && Nat.ble c 0x7a) || inRuns lowercaseRuns c

/-- `str.isalpha` of one code point. -/
def isAlphaChar (c : Nat) : Bool :=
  (Nat.ble 0x41 c && Nat.ble c 0x5a) || (Nat.ble 0x61 c && Nat.ble c 0x7a) || inRuns letterRuns c

/-- The words of `s`, the first of them continuing `current`, which is read backwards. -/
def wordsFrom (current : Str) : Str → List Str
  | [] => if current.isEmpty then [] else [current.reverse]
  | c :: s =>
    if isSpace c then
      if current.isEmpty then wordsFrom [] s else current.reverse :: wordsFrom [] s
    else wordsFrom (c :: current) s

/-- `str.split()`. -/
def words (s : Str) : List Str := wordsFrom [] s

/-- `separator.join(parts)`. -/
def join (separator : Str) (parts : List Str) : Str := separator.intercalate parts

/-! ### Cutting at a separator -/

/-- What stands before the first separator and after it. -/
def cutFirst (separator : Nat) (s : Str) : Option (Str × Str) :=
  match s.dropWhile (· ≠ separator) with
  | [] => none
  | _ :: after => some (s.takeWhile (· ≠ separator), after)

/-- What stands before the last separator and after it. -/
def cutLast (separator : Nat) (s : Str) : Option (Str × Str) :=
  (cutFirst separator s.reverse).map fun (after, before) => (before.reverse, after.reverse)

section
variable {separator : Nat} {before after s : Str}

theorem cutFirst_append (free : separator ∉ before) :
    cutFirst separator (before ++ separator :: after) = some (before, after) := by
  have passed : ∀ c ∈ before, decide (c ≠ separator) = true :=
    fun c member => decide_eq_true fun same => free (same ▸ member)
  rw [cutFirst, List.dropWhile_append_of_pos passed, List.takeWhile_append_of_pos passed]
  simp

theorem cutLast_append (free : separator ∉ after) :
    cutLast separator (before ++ separator :: after) = some (before, after) := by
  have turned : (before ++ separator :: after).reverse = after.reverse ++
    separator :: before.reverse := by simp
  rw [cutLast, turned, cutFirst_append (by simpa using free)]
  simp

theorem takeWhile_before {goesOn : Nat → Bool} (stops : goesOn separator = false)
    (before after : Str) :
    (before ++ separator :: after).takeWhile goesOn = before.takeWhile goesOn := by
  induction before with
  | nil => exact List.takeWhile_cons_of_neg (by rw [stops]; exact Bool.false_ne_true)
  | cons c before ih => rw [List.cons_append, List.takeWhile_cons, ih, List.takeWhile_cons]

theorem cutFirst_none (free : separator ∉ s) : cutFirst separator s = none := by
  have passed : ∀ c ∈ s, decide (c ≠ separator) = true :=
    fun c member => decide_eq_true fun same => free (same ▸ member)
  rw [cutFirst, List.dropWhile_eq_nil_iff.mpr passed]

theorem cutLast_none (free : separator ∉ s) : cutLast separator s = none := by
  rw [cutLast, cutFirst_none (by simpa using free), Option.map_none]

end

/-! ### What raising a letter makes -/

theorem upperSpecials_length :
    upperSpecials.all (fun e => Nat.ble e.2.length 2 || isLowerChar e.1) = true := by
  decide +kernel

theorem length_upperChar {c : Nat} (notLower : isLowerChar c = false) :
    (upperChar c).length ≤ 2 := by
  unfold upperChar mapChar
  split
  · simp
  · split
    · next e found =>
      have here := List.all_eq_true.mp upperSpecials_length e (List.mem_of_find?_eq_some found)
      have key : Nat.beq e.1 c = true := by simpa using List.find?_some found
      have same : e.1 = c := Nat.eq_of_beq_eq_true key
      rw [same, notLower, Bool.or_false] at here
      exact Nat.le_of_ble_eq_true here
    · split
      · simp
      · simp

end Foundation
