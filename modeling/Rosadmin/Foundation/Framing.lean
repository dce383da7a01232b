import Mathlib.Data.Nat.Digits.Defs
import Mathlib.Data.List.TakeDrop
import Mathlib.Data.List.TakeWhile

/-!
# Named fields in one datagram

A field is written on a line of its own, or, where its value holds a line feed,
under the length of its value. Whatever the values hold, a reader gets back the
fields that were written.
-/

namespace Foundation

abbrev Octets := List UInt8

/-- The lowest octets of a number, the lowest first. -/
def littleEndian : Nat → Nat → Octets
  | 0, _ => []
  | width + 1, n => UInt8.ofNat (n % 256) :: littleEndian width (n / 256)

def readLittleEndian (octets : Octets) : Nat := Nat.ofDigits 256 (octets.map UInt8.toNat)

theorem length_littleEndian (width n : Nat) : (littleEndian width n).length = width := by
  induction width generalizing n with
  | zero => rfl
  | succ width ih => rw [littleEndian, List.length_cons, ih]

theorem readLittleEndian_littleEndian {width n : Nat} (fits : n < 256 ^ width) :
    readLittleEndian (littleEndian width n) = n := by
  induction width generalizing n with
  | zero => exact (Nat.lt_one_iff.mp fits).symm
  | succ width ih =>
    have shorter : n / 256 < 256 ^ width :=
      Nat.div_lt_of_lt_mul (by rwa [Nat.pow_succ, Nat.mul_comm] at fits)
    have lowest : (UInt8.ofNat (n % 256)).toNat = n % 256 := by
      rw [UInt8.toNat_ofNat', Nat.mod_mod]
    have rest : Nat.ofDigits 256 ((littleEndian width (n / 256)).map UInt8.toNat) = n / 256 :=
      ih shorter
    rw [readLittleEndian, littleEndian, List.map_cons, Nat.ofDigits_cons, lowest, rest]
    exact Nat.mod_add_div n 256

structure NamedField where
  name : Octets
  value : Octets
  deriving DecidableEq

def lineFeed : UInt8 := 0x0a

def equals : UInt8 := 0x3d

/-- The line, or the name, eight octets of length, the value and a line feed. -/
def NamedField.frame (f : NamedField) : Octets :=
  if lineFeed ∈ f.value then
    f.name ++ lineFeed :: (littleEndian 8 f.value.length ++ f.value ++ [lineFeed])
  else f.name ++ equals :: (f.value ++ [lineFeed])

def readField (octets : Octets) : Option (NamedField × Octets) :=
  let named := octets.span fun b => b ≠ equals && b ≠ lineFeed
  match named.2 with
  | [] => none
  | mark :: rest =>
    if mark = equals then
      let line := rest.span (· ≠ lineFeed)
      match line.2 with
      | [] => none
      | _ :: rest => some (⟨named.1, line.1⟩, rest)
    else
      let size := readLittleEndian (rest.take 8)
      let body := rest.drop 8
      if rest.length < 8 ∨ body[size]? ≠ some lineFeed then none
      else some (⟨named.1, body.take size⟩, body.drop (size + 1))

/-- The fields of a datagram, in at most so many turns. -/
def readFields : Nat → Octets → Option (List NamedField)
  | 0, octets => if octets = [] then some [] else none
  | turns + 1, octets =>
    if octets = [] then some []
    else do
      let (field, rest) ← readField octets
      let later ← readFields turns rest
      return field :: later

/-- A name that no mark ends early. -/
def NamedField.Named (f : NamedField) : Prop := equals ∉ f.name ∧ lineFeed ∉ f.name

section
variable {f : NamedField} {rest : Octets}

theorem span_mark {p : UInt8 → Bool} {before : Octets} (all : ∀ b ∈ before, p b = true)
    {mark : UInt8} (stops : p mark = false) :
    (before ++ mark :: rest).span p = (before, mark :: rest) := by
  rw [List.span_eq_takeWhile_dropWhile, List.takeWhile_append_of_pos all,
    List.dropWhile_append_of_pos all]
  simp [stops]

theorem readField_frame (named : f.Named) (fits : f.value.length < 256 ^ 8) :
    readField (f.frame ++ rest) = some (f, rest) := by
  have unmarked : ∀ b ∈ f.name, (b ≠ equals && b ≠ lineFeed) = true := by
    intro b member
    have first : b ≠ equals := fun same => named.1 (same ▸ member)
    have second : b ≠ lineFeed := fun same => named.2 (same ▸ member)
    simp [first, second]
  rw [NamedField.frame]
  split
  · rename_i feeds
    have framed : f.name ++ lineFeed :: (littleEndian 8 f.value.length ++ f.value ++ [lineFeed]) ++
        rest =
          f.name ++ lineFeed :: (littleEndian 8 f.value.length ++ (f.value ++ lineFeed :: rest)) :=
          by simp
    have eight := length_littleEndian 8 f.value.length
    rw [framed, readField, span_mark unmarked (by decide)]
    dsimp only
    rw [if_neg (by decide), List.take_left' eight, List.drop_left' eight,
      readLittleEndian_littleEndian fits, if_neg (by simp [eight])]
    simp
  · rename_i plain
    have value : ∀ b ∈ f.value, (decide (b ≠ lineFeed)) = true :=
      fun b member => decide_eq_true fun same => plain (same ▸ member)
    have framed : f.name ++ equals :: (f.value ++ [lineFeed]) ++ rest =
        f.name ++ equals :: (f.value ++ lineFeed :: rest) := by simp
    rw [framed, readField, span_mark unmarked (by decide)]
    dsimp only
    rw [if_pos rfl, span_mark value (by decide)]

end

theorem frame_ne_nil (f : NamedField) : f.frame ≠ [] := by
  rw [NamedField.frame]
  split <;> simp

theorem readFields_frames {fields : List NamedField} (named : ∀ f ∈ fields, f.Named)
    (fits : ∀ f ∈ fields, f.value.length < 256 ^ 8) {turns : Nat} (enough : fields.length ≤ turns) :
    readFields turns (fields.flatMap NamedField.frame) = some fields := by
  induction fields generalizing turns with
  | nil => cases turns <;> rfl
  | cons f fields ih =>
    obtain ⟨turns, rfl⟩ : ∃ n, turns = n + 1 :=
      ⟨turns - 1, by rw [List.length_cons] at enough; omega⟩
    have later := ih (fun g member => named g (List.mem_cons_of_mem _ member))
      (fun g member => fits g (List.mem_cons_of_mem _ member)) (Nat.le_of_succ_le_succ enough)
    have filled : f.frame ++ fields.flatMap NamedField.frame ≠ [] :=
      fun none => frame_ne_nil f (List.append_eq_nil_iff.mp none).1
    rw [List.flatMap_cons, readFields, if_neg filled,
      readField_frame (named f List.mem_cons_self) (fits f List.mem_cons_self)]
    dsimp only [Option.bind_eq_bind, Option.bind_some]
    rw [later]
    rfl

end Foundation
