import Rosadmin.Foundation.Text

/-!
# JSON values and Python's reading of them

What `json.loads` can hand a program, with the truth value and the `int` of
each value. A built-in that does not accept a value raises, and so does `int`.
-/

namespace Foundation

/-- A double: `finite m e` is `m * 2 ^ e`. -/
inductive Double where
  | nan
  | inf (negative : Bool)
  | finite (mantissa exponent : Int)
  deriving DecidableEq

inductive Json where
  | null
  | bool (b : Bool)
  | int (n : Int)
  | float (x : Double)
  | str (s : Str)
  | arr (items : List Json)
  | obj (fields : List (Str × Json))

inductive BuiltinError where
  | attributeError | typeError | keyError | valueError | overflowError
  deriving DecidableEq

namespace Json

/-- `bool(v)`. -/
def truthy : Json → Bool
  | null => false
  | bool b => b
  | int n => n != 0
  | float (.finite m _) => m != 0
  | float _ => true
  | str s => !s.isEmpty
  | arr items => !items.isEmpty
  | obj fields => !fields.isEmpty

def find (fields : List (Str × Json)) (key : Str) : Option Json :=
  (fields.find? (fun f => f.1 == key)).map (·.2)

/-- `v.get(key)`: only an object has it, and an absent key answers `None`. -/
def get (v : Json) (key : Str) : Except BuiltinError Json :=
  match v with
  | obj fields => .ok ((find fields key).getD null)
  | _ => .error .attributeError

/-- `v[key]` with a string key. -/
def item (v : Json) (key : Str) : Except BuiltinError Json :=
  match v with
  | obj fields => match find fields key with
    | some x => .ok x
    | none => .error .keyError
  | _ => .error .typeError

end Json

/-! ### `int` of a string -/

def wideSpaces : List (Nat × Nat) :=
  [(0x85, 0x85), (0xa0, 0xa0), (0x1680, 0x1680), (0x2000, 0x200a), (0x2028, 0x2029),
    (0x202f, 0x202f), (0x205f, 0x205f), (0x3000, 0x3000)]

def isAsciiSpace (c : Nat) : Bool := c == 0x20 || (Nat.ble 0x9 c && Nat.ble c 0xd)

/-- `str.isspace` of one code point: `strip` also takes the four ASCII separators. -/
def isSpace (c : Nat) : Bool := isAsciiSpace c || (Nat.ble 0x1c c && Nat.ble c 0x1f) ||
    inRuns wideSpaces c

/-- `str.strip`. -/
def strip (s : Str) : Str := ((s.dropWhile isSpace).reverse.dropWhile isSpace).reverse

/-- The zero digits of the decimal scripts; each is followed by its one to nine. -/
def decimalZeros : List Nat :=
  [0x30, 0x660, 0x6f0, 0x7c0, 0x966, 0x9e6, 0xa66, 0xae6, 0xb66, 0xbe6, 0xc66, 0xce6, 0xd66, 0xde6,
    0xe50, 0xed0,
    0xf20, 0x1040, 0x1090, 0x17e0, 0x1810, 0x1946, 0x19d0, 0x1a80, 0x1a90, 0x1b50, 0x1bb0, 0x1c40,
      0x1c50, 0xa620,
    0xa8d0, 0xa900, 0xa9d0, 0xa9f0, 0xaa50, 0xabf0, 0xff10, 0x104a0, 0x10d30, 0x11066, 0x110f0,
      0x11136, 0x111d0,
    0x112f0, 0x11450, 0x114d0, 0x11650, 0x116c0, 0x11730, 0x118e0, 0x11950, 0x11c50, 0x11d50,
      0x11da0, 0x11f50,
    0x16a60, 0x16ac0, 0x16b50, 0x1d7ce, 0x1d7d8, 0x1d7e2, 0x1d7ec, 0x1d7f6, 0x1e140, 0x1e2f0,
      0x1e4f0, 0x1e950,
    0x1fbf0]

def decimalDigit (c : Nat) : Option Nat :=
  (decimalZeros.find? (fun z => Nat.ble z c && Nat.ble c (z + 9))).map (c - ·)

/-- `int` reads a space or a digit of any script as its ASCII one, and no other wide character at
all. -/
def asciiNumeral (c : Nat) : Option Nat :=
  if c < 0x7f then some c
  else if isSpace c then some 0x20
  else (decimalDigit c).map (0x30 + ·)

def asciiDigit (c : Nat) : Option Nat :=
  if Nat.ble 0x30 c && Nat.ble c 0x39 then some (c - 0x30) else none

def readDigits : Str → Option (List Nat)
  | [] => none
  | [c] => (asciiDigit c).map ([·])
  | c :: d :: rest => match asciiDigit c with
    | none => none
    | some n => if d = 0x5f then (readDigits rest).map (n :: ·)
        else (readDigits (d :: rest)).map (n :: ·)

/-- Past this many digits `int` raises rather than convert. -/
def maxDigits : Nat := 4300

/-- `int(s)`; `none` is the `ValueError`. -/
def intOfStr (s : Str) : Option Int := do
  let plain ← s.mapM asciiNumeral
  let body := ((plain.dropWhile isAsciiSpace).reverse.dropWhile isAsciiSpace).reverse
  let (negative, digits) := match body with
    | 0x2d :: rest => (true, rest)
    | 0x2b :: rest => (false, rest)
    | _ => (false, body)
  let read ← readDigits digits
  if read.length ≤ maxDigits then
    let n : Nat := read.foldl (fun acc d => 10 * acc + d) 0
    some (if negative then -(n : Int) else n)
  else none

/-- `int(x)` of a finite double drops its fraction. -/
def truncate (mantissa exponent : Int) : Int :=
  if 0 ≤ exponent then mantissa * 2 ^ exponent.toNat else mantissa.tdiv (2 ^ (-exponent).toNat)

/-- `int(v)`. -/
def Json.toInt : Json → Except BuiltinError Int
  | .bool b => .ok (if b then 1 else 0)
  | .int n => .ok n
  | .float .nan => .error .valueError
  | .float (.inf _) => .error .overflowError
  | .float (.finite m e) => .ok (truncate m e)
  | .str s => match intOfStr s with
    | some n => .ok n
    | none => .error .valueError
  | .null | .arr _ | .obj _ => .error .typeError

end Foundation
