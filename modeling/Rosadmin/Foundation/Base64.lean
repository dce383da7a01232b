import Rosadmin.Foundation.Text

/-!
# Base64, as leniently as Python reads it

`base64.urlsafe_b64decode` skips a character outside the alphabet, and a pad
sign where none can stand. It refuses a text that is not ASCII, and one that
ends inside a quad.
-/

namespace Foundation

/-- The six bits a character stands for; `-` and `_` are translated to `+` and `/` first. -/
def sextet (c : Nat) : Option Nat :=
  if Nat.ble 0x41 c && Nat.ble c 0x5a then some (c - 0x41)
  else if Nat.ble 0x61 c && Nat.ble c 0x7a then some (c - 0x61 + 26)
  else if Nat.ble 0x30 c && Nat.ble c 0x39 then some (c - 0x30 + 52)
  else if c = 0x2b ∨ c = 0x2d then some 62
  else if c = 0x2f ∨ c = 0x5f then some 63
  else none

/-- How much of a quad is read, with the bits that are left over. -/
inductive Quad where
  | none
  | one (left : Nat)
  /-- and whether the pad sign came last -/
  | two (left : Nat) (padded : Bool)
  | three (left : Nat)

/-- `binascii.a2b_base64`, not strict. -/
def a2bBase64 : Quad → Str → Option (List Nat)
  | .none, [] => some []
  | _, [] => none
  | quad, c :: rest =>
    if c = 0x3d then
      match quad with
      | .two left false => a2bBase64 (.two left true) rest
      -- The quad is complete, and what follows it is not read.
      | .two _ true => some []
      | .three _ => some []
      | quad => a2bBase64 quad rest
    else match sextet c with
      | none => a2bBase64 quad rest
      | some bits => match quad with
        | .none => a2bBase64 (.one bits) rest
        | .one left =>
          (a2bBase64 (.two (bits % 0x10) false) rest).map ((left * 4 + bits / 0x10) :: ·)
        | .two left _ => (a2bBase64 (.three (bits % 4)) rest).map ((left * 0x10 + bits / 4) :: ·)
        | .three left => (a2bBase64 .none rest).map ((left * 0x40 + bits) :: ·)

/-- `base64.urlsafe_b64decode`; `none` is the `ValueError`. -/
def urlsafeB64decode (text : Str) : Option (List Nat) :=
  if text.all (· < 0x80) then a2bBase64 .none text else none

example : urlsafeB64decode (str "_-8=") = some [0xff, 0xef] := by decide

end Foundation
