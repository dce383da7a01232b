import Mathlib.Algebra.Group.Nat.Defs
import Rosadmin.Foundation.Encodings
import Rosadmin.Foundation.Json
import Rosadmin.Foundation.Percent

/-!
# JSON text

`json.loads`: the characters make lexemes, and a stack of open containers makes
a value of them. The digits of an integer are counted before it is converted,
and the containers around one before it is opened, as each may be more than the
interpreter takes.
-/

namespace Foundation

/-! ### Numerals -/

/-- The double nearest to a ratio, ties to even. -/
def Double.ofRatio (negative : Bool) (num den : Nat) : Double :=
  let top : Int := (num.log2 : Int) - den.log2
  let least := if den * 2 ^ top.toNat ≤ num * 2 ^ (-top).toNat then top else top - 1
  -- the exponent of the last of 53 bits, or of a subnormal
  let exponent := max (least - 52) (-1074)
  let scaled := num * 2 ^ (-exponent).toNat
  let unit := den * 2 ^ exponent.toNat
  let down := scaled / unit
  let mantissa :=
    if 2 * (scaled % unit) < unit ∨ (2 * (scaled % unit) = unit ∧ down % 2 = 0) then down
      else down + 1
  if 2 ^ (1024 - exponent).toNat ≤ mantissa then .inf negative
  else .finite (if negative then -mantissa else mantissa) exponent

/-- `mantissa * 10 ^ exponent`, which is out of range before the power grows large. -/
def Double.ofDecimal (negative : Bool) (mantissa : Nat) (exponent : Int) : Double :=
  if mantissa = 0 ∨ exponent + mantissa.log2 < -400 then .finite 0 0
  else if 400 < exponent then .inf negative
  else .ofRatio negative (mantissa * 10 ^ exponent.toNat) (10 ^ (-exponent).toNat)

/-- A number as far as it is read. -/
structure Numeral where
  negative : Bool
  /-- how many digits stand before the point -/
  digits : Nat
  mantissa : Nat
  /-- how many stand after it -/
  places : Nat
  downward : Bool
  power : Nat

/-- The part of a number that was read last. -/
inductive NumeralPart where
  | minus | zero | whole | point | fraction | mark | sign | power
  deriving DecidableEq

inductive Lexeme where
  | openArray | closeArray | openObject | closeObject | comma | colon
  | string (s : Str)
  | integer (n : Int) (digits : Nat)
  /-- a word or a float -/
  | constant (value : Json)
  | bad

namespace Numeral

def integer (n : Numeral) : Lexeme :=
  .integer (if n.negative then -(n.mantissa : Int) else n.mantissa) n.digits

def float (n : Numeral) : Lexeme :=
  let power : Int := if n.downward then -(n.power : Int) else n.power
  .constant (.float (.ofDecimal n.negative n.mantissa (power - n.places)))

/-- What has been read where the number goes no further: its last part may be no part of one. -/
def lexemes (n : Numeral) : NumeralPart → List Lexeme
  | .minus => [.bad]
  | .zero | .whole => [n.integer]
  | .point => [n.integer, .bad]
  | .fraction | .power => [n.float]
  | .mark | .sign => [if n.places = 0 then n.integer else n.float, .bad]

def shift (n : Numeral) (digit : Nat) : Numeral := { n with mantissa := 10 * n.mantissa + digit }

def push (n : Numeral) (part : NumeralPart) (c : Nat) : Option (NumeralPart × Numeral) :=
  match part, asciiDigit c with
  | .minus, some 0 => some (.zero, { n with digits := 1 })
  | .minus, some d => some (.whole, { n.shift d with digits := 1 })
  | .whole, some d => some (.whole, { n.shift d with digits := n.digits + 1 })
  | .point, some d | .fraction, some d =>
      some (.fraction, { n.shift d with places := n.places + 1 })
  | .mark, some d | .sign, some d | .power, some d =>
    some (.power, { n with power := 10 * n.power + d })
  | .zero, none | .whole, none =>
    if c = 0x2e then some (.point, n) else if c = 0x65 ∨ c = 0x45 then some (.mark, n) else none
  | .fraction, none => if c = 0x65 ∨ c = 0x45 then some (.mark, n) else none
  | .mark, none =>
    if c = 0x2b then some (.sign, n)
    else if c = 0x2d then some (.sign, { n with downward := true }) else none
  | _, _ => none

end Numeral

/-! ### Lexemes -/

/-- What the scanner is inside of. -/
inductive Scan where
  | between
  /-- a word, with what is still to come of it -/
  | word (next : Nat) (rest : Str) (value : Json)
  | numeral (part : NumeralPart) (n : Numeral)
  /-- a string, read backwards, and then a high surrogate that was escaped -/
  | text (read : Str) (high : Option Nat)
  | escape (read : Str) (high : Option Nat)
  | code (read : Str) (high : Option Nat) (left value : Nat)

def isJsonSpace (c : Nat) : Bool := c == 0x20 || c == 0x9 || c == 0xa || c == 0xd

def startNumeral (negative : Bool) : Numeral := ⟨negative, 0, 0, 0, false, 0⟩

/-- The first character of a lexeme. -/
def startLexeme (c : Nat) : List Lexeme × Scan :=
  if isJsonSpace c then ([], .between)
  else match c with
    | 0x5b => ([.openArray], .between)
    | 0x5d => ([.closeArray], .between)
    | 0x7b => ([.openObject], .between)
    | 0x7d => ([.closeObject], .between)
    | 0x2c => ([.comma], .between)
    | 0x3a => ([.colon], .between)
    | 0x22 => ([], .text [] none)
    | 0x6e => ([], .word 0x75 (str "ll") .null)
    | 0x74 => ([], .word 0x72 (str "ue") (.bool true))
    | 0x66 => ([], .word 0x61 (str "lse") (.bool false))
    | 0x4e => ([], .word 0x61 (str "N") (.float .nan))
    | 0x49 => ([], .word 0x6e (str "finity") (.float (.inf false)))
    | 0x2d => ([], .numeral .minus (startNumeral true))
    | _ => match (startNumeral false).push .minus c with
      | some (part, n) => ([], .numeral part n)
      | none => ([.bad], .between)

def simpleEscape (c : Nat) : Option Nat :=
  [(0x22, 0x22), (0x5c, 0x5c), (0x2f, 0x2f), (0x62, 0x8), (0x66, 0xc), (0x6e, 0xa), (0x72, 0xd),
    (0x74, 0x9)].lookup c

/-- A low surrogate joins a high one if both are escaped. -/
def escaped (read : Str) (high : Option Nat) (code : Nat) : Scan :=
  match high with
  | some first =>
    if isLowSurrogate code then .text (joinedSurrogates first code :: read) none
    else if isHighSurrogate code then .text (first :: read) (some code)
    else .text (code :: first :: read) none
  | none => if isHighSurrogate code then .text read (some code) else .text (code :: read) none

namespace Scan

def step : Scan → Nat → List Lexeme × Scan
  | .between, c => startLexeme c
  | .word next rest value, c =>
    if c ≠ next then ([.bad], .between)
    else match rest with
      | [] => ([.constant value], .between)
      | next :: rest => ([], .word next rest value)
  | .numeral part n, c =>
    match n.push part c with
    | some (part, n) => ([], .numeral part n)
    | none =>
      if part = .minus ∧ c = 0x49 then ([], .word 0x6e (str "finity") (.float (.inf true)))
      else (n.lexemes part ++ (startLexeme c).1, (startLexeme c).2)
  | .text read high, c =>
    if c = 0x22 then ([.string (high.toList ++ read).reverse], .between)
    else if c = 0x5c then ([], .escape read high)
    else if c < 0x20 then ([.bad], .between)
    else ([], .text (c :: high.toList ++ read) none)
  | .escape read high, c =>
    if c = 0x75 then ([], .code read high 4 0)
    else match simpleEscape c with
      | some d => ([], .text (d :: high.toList ++ read) none)
      | none => ([.bad], .between)
  | .code read high left value, c =>
    match hexValue c with
    | none => ([.bad], .between)
    | some d =>
      if left ≤ 1 then ([], escaped read high (0x10 * value + d))
      else ([], .code read high (left - 1) (0x10 * value + d))

def finish : Scan → List Lexeme
  | .between => []
  | .numeral part n => n.lexemes part
  | _ => [.bad]

def lexemes : Scan → Str → List Lexeme
  | scan, [] => scan.finish
  | scan, c :: rest => (scan.step c).1 ++ (scan.step c).2.lexemes rest

end Scan

/-! ### Values -/

/-- A later field of the same key takes the place of the first. -/
def Json.setField (fields : List (Str × Json)) (key : Str) (value : Json) : List (Str × Json) :=
  if fields.any (·.1 == key) then fields.map fun f => if f.1 == key then (key, value) else f
  else fields ++ [(key, value)]

/-- An open container, around the value that is being read. -/
inductive Container where
  | item (before : List Json)
  | field (before : List (Str × Json)) (key : Str)

/-- What has been read last, and so what may come next. -/
inductive JsonStage where
  | value
  | openedArray
  | items (read : List Json)
  | openedObject
  | key (before : List (Str × Json))
  | colon (before : List (Str × Json)) (key : Str)
  | fields (read : List (Str × Json))
  | whole (value : Json)
  | malformed

/-- What the interpreter may have no room for. -/
inductive Demand where
  | digits (count : Nat)
  | nested (level : Nat)

structure Parse where
  stage : JsonStage
  stack : List Container
  demands : List Demand

namespace Parse

def refuse (p : Parse) : Parse := { p with stage := .malformed }

/-- A value has been read, inside the containers of the stack. -/
def complete (p : Parse) (value : Json) : Parse :=
  match p.stack with
  | [] => { p with stage := .whole value }
  | .item before :: stack => { p with stage := .items (before ++ [value]), stack }
  | .field before key :: stack =>
      { p with stage := .fields (Json.setField before key value), stack }

def opening (p : Parse) (stage : JsonStage) : Parse :=
  { p with stage, demands := p.demands ++ [Demand.nested (p.stack.length + 1)] }

/-- A lexeme where a value has to come. -/
def take (p : Parse) : Lexeme → Parse
  | .openArray => p.opening .openedArray
  | .openObject => p.opening .openedObject
  | .string s => p.complete (.str s)
  | .integer n digits => ({ p with demands := p.demands ++ [Demand.digits digits] }).complete
      (.int n)
  | .constant value => p.complete value
  | _ => p.refuse

def push (p : Parse) (container : Container) : Parse :=
  { p with stage := .value, stack := container :: p.stack }

def step (p : Parse) (lexeme : Lexeme) : Parse :=
  match p.stage, lexeme with
  | .value, lexeme => p.take lexeme
  | .openedArray, .closeArray => p.complete (.arr [])
  | .openedArray, lexeme => (p.push (.item [])).take lexeme
  | .items read, .comma => p.push (.item read)
  | .items read, .closeArray => p.complete (.arr read)
  | .openedObject, .closeObject => p.complete (.obj [])
  | .openedObject, .string key => { p with stage := .colon [] key }
  | .key before, .string key => { p with stage := .colon before key }
  | .colon before key, .colon => p.push (.field before key)
  | .fields read, .comma => { p with stage := .key read }
  | .fields read, .closeObject => p.complete (.obj read)
  | _, _ => p.refuse

end Parse

def parse (text : Str) : Parse := (Scan.between.lexemes text).foldl Parse.step ⟨.value, [], []⟩

/-! ### `json.loads` -/

inductive LoadsError where
  | jsonDecodeError | unicodeDecodeError | valueError | recursionError
  deriving DecidableEq

namespace Demand

/-- The containers that may be open at once depend on the interpreter, and on its caller. -/
def within (nesting : Nat) : Demand → Bool
  | .digits count => count ≤ maxDigits
  | .nested level => level ≤ nesting

def error : Demand → LoadsError
  | .digits _ => .valueError
  | .nested _ => .recursionError

end Demand

def loads (nesting : Nat) (data : List Nat) : Except LoadsError Json :=
  match decodeBytes data with
  | none => .error .unicodeDecodeError
  | some text => match (parse text).demands.find? (fun demand => !demand.within nesting) with
    | some demand => .error demand.error
    | none => match (parse text).stage with
      | .whole value => .ok value
      | _ => .error .jsonDecodeError

/-- The bytes are text, and as far as that is JSON, no integer has too many digits and no container
is nested too deep. -/
def Legible (nesting : Nat) (data : List Nat) : Prop :=
  ∃ text, decodeBytes data = some text ∧ ∀ demand ∈ (parse text).demands,
    demand.within nesting = true

theorem demand_error (demand : Demand) : demand.error ≠ .jsonDecodeError := by
  cases demand with
  | digits count => exact fun same => nomatch same
  | nested level => exact fun same => nomatch same

/-- Legible bytes are read or said not to be JSON, and all others raise something else. -/
theorem legible_iff {nesting : Nat} {data : List Nat} :
    Legible nesting data ↔ ∀ error, loads nesting data = .error error →
      error = .jsonDecodeError := by
  unfold Legible loads
  cases decoded : decodeBytes data with
  | none =>
    refine iff_of_false ?_ (fun each => ?_)
    · rintro ⟨text, same, -⟩
      cases same
    · cases each _ rfl
  | some text =>
    simp only [Option.some.injEq, exists_eq_left']
    cases found : (parse text).demands.find? (fun demand => !demand.within nesting) with
    | some demand =>
      have beyond := List.find?_some found
      refine iff_of_false (fun all => ?_) (fun each => ?_)
      · rw [all demand (List.mem_of_find?_eq_some found)] at beyond
        cases beyond
      · exact demand_error demand (each _ rfl)
    | none =>
      refine iff_of_true (fun demand there => ?_) (fun error raised => ?_)
      · simpa using List.find?_eq_none.mp found demand there
      · dsimp only at raised
        split at raised
        · cases raised
        · cases raised
          rfl

end Foundation
