import Rosadmin.Foundation.Text

/-!
# Bytes as JSON text

`json.loads` tells the encoding of bytes by their first few, and decodes them
with `surrogatepass`: a surrogate on its own is an element of the text, and any
other fault of the encoding is a `UnicodeDecodeError`.
-/

namespace Foundation

/-! ### UTF-8 -/

/-- The code point of a lead byte's bits and the bytes that continue it, in its shortest form. -/
def continued (least lead : Nat) (tail : List Nat) : Option Nat :=
  let c := tail.foldl (fun c b => c * 0x40 + b % 0x40) lead
  if tail.all (fun b => Nat.ble 0x80 b && Nat.ble b 0xbf) && Nat.ble least c &&
    Nat.ble c 0x10ffff then
    some c
  else none

/-- `data.decode("utf-8", "surrogatepass")` -/
def decodeUtf8Pass : List Nat → Option Str
  | [] => some []
  | a :: rest =>
    if a < 0x80 then (decodeUtf8Pass rest).map (a :: ·)
    else if a < 0xc0 then none
    else match rest with
      | [] => none
      | b :: rest =>
        if a < 0xe0 then do return (← continued 0x80 (a - 0xc0) [b]) :: (← decodeUtf8Pass rest)
        else match rest with
          | [] => none
          | c :: rest =>
            if a < 0xf0 then do return (← continued 0x800 (a - 0xe0) [b, c]) ::
              (← decodeUtf8Pass rest)
            else match rest with
              | [] => none
              | d :: rest => do
                return (← continued 0x10000 (a - 0xf0) [b, c, d]) :: (← decodeUtf8Pass rest)

/-! ### UTF-16 and UTF-32 -/

def isHighSurrogate (c : Nat) : Bool := Nat.ble 0xd800 c && Nat.ble c 0xdbff

def isLowSurrogate (c : Nat) : Bool := Nat.ble 0xdc00 c && Nat.ble c 0xdfff

def joinedSurrogates (high low : Nat) : Nat := 0x10000 + (high - 0xd800) * 0x400 + (low - 0xdc00)

def joinSurrogates : List Nat → Str
  | a :: b :: rest =>
    if isHighSurrogate a && isLowSurrogate b then joinedSurrogates a b :: joinSurrogates rest
    else a :: joinSurrogates (b :: rest)
  | units => units

def units16 (bigEndian : Bool) : List Nat → Option (List Nat)
  | [] => some []
  | [_] => none
  | a :: b :: rest =>
    (units16 bigEndian rest).map ((if bigEndian then a * 0x100 + b else b * 0x100 + a) :: ·)

def units32 (bigEndian : Bool) : List Nat → Option (List Nat)
  | [] => some []
  | a :: b :: c :: d :: rest => do
    let unit :=
      if bigEndian then ((a * 0x100 + b) * 0x100 + c) * 0x100 + d
      else ((d * 0x100 + c) * 0x100 + b) * 0x100 + a
    if unit ≤ 0x10ffff then return unit :: (← units32 bigEndian rest) else none
  | _ => none

/-! ### Which of them -/

inductive Encoding where
  | utf8
  | utf16 (bigEndian : Bool)
  | utf32 (bigEndian : Bool)

def Encoding.decode : Encoding → List Nat → Option Str
  | .utf8, data => decodeUtf8Pass data
  | .utf16 bigEndian, data => (units16 bigEndian data).map joinSurrogates
  | .utf32 bigEndian, data => units32 bigEndian data

/-- `json.detect_encoding`, with the bytes after the byte order mark. -/
def detectEncoding : List Nat → Encoding × List Nat
  | 0x00 :: 0x00 :: 0xfe :: 0xff :: data => (.utf32 true, data)
  | 0xff :: 0xfe :: 0x00 :: 0x00 :: data => (.utf32 false, data)
  | 0xfe :: 0xff :: data => (.utf16 true, data)
  | 0xff :: 0xfe :: data => (.utf16 false, data)
  | 0xef :: 0xbb :: 0xbf :: data => (.utf8, data)
  | data => match data with
    | a :: b :: c :: d :: _ =>
      if a = 0 then (if b = 0 then .utf32 true else .utf16 true, data)
      else if b = 0 then (if c = 0 ∧ d = 0 then .utf32 false else .utf16 false, data)
      else (.utf8, data)
    | [a, b] =>
      if a = 0 then (.utf16 true, data) else if b = 0 then (.utf16 false, data) else (.utf8, data)
    | _ => (.utf8, data)

/-- `none` is the `UnicodeDecodeError`. -/
def decodeBytes (data : List Nat) : Option Str :=
  (detectEncoding data).1.decode (detectEncoding data).2

example : decodeBytes [0xff] = none := by decide

end Foundation
