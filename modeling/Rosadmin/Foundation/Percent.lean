import Rosadmin.Foundation.Text

/-!
# Percent-encoding

The UTF-8 octets of a text, each left alone or written as an escape, and what
reading the escapes gives back.
-/

namespace Foundation

/-! ### UTF-8 -/

/-- The character of a code point; a lone surrogate has none. -/
def scalar (c : Nat) : Option Char := if c.isValidChar then some (Char.ofNat c) else none

/-- `text.encode()`; `none` is the `UnicodeEncodeError`. -/
def encodeUtf8 (text : Str) : Option (List UInt8) :=
  (text.mapM scalar).map (·.flatMap String.utf8EncodeChar)

/-- `octets.decode()`; `none` is the `UnicodeDecodeError`. -/
def decodeUtf8 (octets : List UInt8) : Option Str :=
  octets.toByteArray.utf8Decode?.map (·.toList.map Char.toNat)

theorem scalar_toNat (c : Char) : scalar c.toNat = some c := by
  have valid : c.toNat.isValidChar := c.valid
  rw [scalar, if_pos valid, Char.ofNat_toNat]

theorem toNat_of_scalar {c : Nat} {d : Char} (found : scalar c = some d) : d.toNat = c := by
  unfold scalar at found
  split at found
  · rename_i valid
    cases found
    rw [Char.ofNat, dif_pos valid]
    rfl
  · cases found

theorem scalar_isSome {c : Nat} : (scalar c).isSome ↔ c.isValidChar := by
  unfold scalar
  split
  · rename_i valid
    exact iff_of_true rfl valid
  · rename_i invalid
    exact iff_of_false Bool.false_ne_true invalid

theorem mapM_scalar {text : Str} {chars : List Char} :
    text.mapM scalar = some chars ↔ chars.map Char.toNat = text := by
  induction text generalizing chars with
  | nil => simp
  | cons c text ih =>
    rw [List.mapM_cons]
    constructor
    · intro read
      obtain ⟨d, here, rest⟩ := Option.bind_eq_some_iff.mp read
      obtain ⟨chars, later, same⟩ := Option.bind_eq_some_iff.mp rest
      cases same
      rw [List.map_cons, toNat_of_scalar here, ih.mp later]
    · intro same
      cases chars with
      | nil => cases same
      | cons d chars =>
        obtain ⟨rfl, rest⟩ := List.cons.inj same
        rw [scalar_toNat, ih.mpr rest]
        rfl

theorem encodeUtf8_eq_some {text : Str} {octets : List UInt8} :
    encodeUtf8 text = some octets ↔ ∃ chars : List Char, chars.map Char.toNat = text ∧
      chars.flatMap String.utf8EncodeChar = octets := by
  simp only [encodeUtf8, Option.map_eq_some_iff, mapM_scalar]

theorem encodeUtf8_isSome {text : Str} : (encodeUtf8 text).isSome ↔ ∀ c ∈ text, c.isValidChar := by
  rw [encodeUtf8, Option.isSome_map]
  induction text with
  | nil => simp
  | cons c text ih =>
    rw [List.forall_mem_cons, ← ih, ← scalar_isSome, List.mapM_cons]
    cases scalar c with
    | none => simp
    | some d =>
      cases text.mapM scalar with
      | none => simp
      | some chars => simp

theorem decodeUtf8_flatMap (chars : List Char) :
    decodeUtf8 (chars.flatMap String.utf8EncodeChar) = some (chars.map Char.toNat) := by
  have read : (chars.flatMap String.utf8EncodeChar).toByteArray.utf8Decode? = some chars.toArray :=
    List.utf8Decode?_utf8Encode
  rw [decodeUtf8, read]
  rfl

theorem utf8EncodeChar_ascii {c : Char} (ascii : c.toNat < 0x80) :
    String.utf8EncodeChar c = [UInt8.ofNat c.toNat] := by
  have short : c.val.toNat ≤ 0x7f := Nat.le_of_lt_succ ascii
  rw [String.utf8EncodeChar, if_pos short]
  rfl

theorem utf8EncodeChar_wide {c : Char} (wide : 0x80 ≤ c.toNat) :
    ∀ b ∈ String.utf8EncodeChar c, 0x80 ≤ b.toNat := by
  have long : ¬c.val.toNat ≤ 0x7f := Nat.not_le_of_lt wide
  have high : ∀ n base, 0x80 ≤ base → n + base < 0x100 → 0x80 ≤ (UInt8.ofNat (n + base)).toNat := by
    intro n base above small
    rw [UInt8.toNat_ofNat_of_lt' small]
    omega
  rw [String.utf8EncodeChar, if_neg long]
  split
  · simp only [List.forall_mem_cons]
    exact ⟨high _ _ (by omega) (by omega), high _ _ (by omega) (by omega), nofun⟩
  split
  · simp only [List.forall_mem_cons]
    exact ⟨high _ _ (by omega) (by omega), high _ _ (by omega) (by omega),
      high _ _ (by omega) (by omega), nofun⟩
  · simp only [List.forall_mem_cons]
    exact ⟨high _ _ (by omega) (by omega), high _ _ (by omega) (by omega),
      high _ _ (by omega) (by omega), high _ _ (by omega) (by omega), nofun⟩

/-! ### Quoting -/

/-- The ASCII letters and digits and `_.-~`. -/
def unreserved (b : Nat) : Bool :=
  (Nat.ble 0x41 b && Nat.ble b 0x5a) || (Nat.ble 0x61 b && Nat.ble b 0x7a) ||
    (Nat.ble 0x30 b && Nat.ble b 0x39) || (str "_.-~").contains b

def hexDigit (n : Nat) : Nat := if n < 10 then 0x30 + n else 0x37 + n

/-- `'%{:02X}'.format(b)` -/
def escapeOctet (b : UInt8) : Str := [0x25, hexDigit (b.toNat / 16), hexDigit (b.toNat % 16)]

def quoteOctet (safe : Str) (b : UInt8) : Str :=
  if unreserved b.toNat || (Nat.blt b.toNat 0x80 && safe.contains b.toNat) then [b.toNat]
    else escapeOctet b

/-- `urllib.parse.quote(text, safe)`; `none` is the `UnicodeEncodeError`. -/
def quote (safe text : Str) : Option Str := (encodeUtf8 text).map (·.flatMap (quoteOctet safe))

def quoteChar (safe : Str) (c : Char) : Str := (String.utf8EncodeChar c).flatMap (quoteOctet safe)

theorem quote_eq_some {safe text quoted : Str} : quote safe text = some quoted ↔
    ∃ chars : List Char, chars.map Char.toNat = text ∧ chars.flatMap (quoteChar safe) = quoted := by
  simp only [quote, Option.map_eq_some_iff, encodeUtf8_eq_some]
  constructor
  · rintro ⟨octets, ⟨chars, same, rfl⟩, rfl⟩
    exact ⟨chars, same, (List.flatMap_assoc ..).symm⟩
  · rintro ⟨chars, same, rfl⟩
    exact ⟨_, ⟨chars, same, rfl⟩, List.flatMap_assoc ..⟩

theorem unreserved_ascii {b : Nat} (plain : unreserved b = true) : b < 0x80 := by
  have marks : ∀ c ∈ str "_.-~", c < 0x80 := by decide
  simp only [unreserved, Bool.or_eq_true, Bool.and_eq_true, Nat.ble_eq,
    List.contains_iff_mem] at plain
  rcases plain with (h | h) | h
  · omega
  · omega
  · exact marks b h

theorem quoteChar_cases (safe : Str) (c : Char) :
    quoteChar safe c = [c.toNat] ∧ (unreserved c.toNat = true ∨ c.toNat < 0x80 ∧ c.toNat ∈ safe) ∨
      quoteChar safe c = (String.utf8EncodeChar c).flatMap escapeOctet ∧
        (c.toNat < 0x80 → c.toNat ∉ safe) := by
  by_cases ascii : c.toNat < 0x80
  · have octet : (UInt8.ofNat c.toNat).toNat = c.toNat :=
      UInt8.toNat_ofNat_of_lt' (Nat.lt_trans ascii (by decide))
    have below : Nat.blt c.toNat 0x80 = true := Nat.blt_eq.mpr ascii
    rw [quoteChar, utf8EncodeChar_ascii ascii, List.flatMap_singleton, List.flatMap_singleton,
      quoteOctet, octet, below, Bool.true_and]
    by_cases kept : (unreserved c.toNat || safe.contains c.toNat) = true
    · rw [if_pos kept]
      simp only [Bool.or_eq_true, List.contains_iff_mem] at kept
      exact Or.inl ⟨rfl, kept.imp_right fun safe => ⟨ascii, safe⟩⟩
    · rw [if_neg kept]
      simp only [Bool.or_eq_true, List.contains_iff_mem, not_or] at kept
      exact Or.inr ⟨rfl, fun _ => kept.2⟩
  · have escaped : ∀ b ∈ String.utf8EncodeChar c, quoteOctet safe b = escapeOctet b := by
      intro b member
      have high := utf8EncodeChar_wide (Nat.le_of_not_lt ascii) b member
      have reserved : unreserved b.toNat = false :=
        eq_false_of_ne_true fun plain => absurd (unreserved_ascii plain) (Nat.not_lt_of_le high)
      have above : Nat.blt b.toNat 0x80 = false :=
        eq_false_of_ne_true fun low => absurd (Nat.blt_eq.mp low) (Nat.not_lt_of_le high)
      rw [quoteOctet, reserved, above]
      rfl
    exact Or.inr ⟨List.flatMap_congr escaped, fun low => absurd low ascii⟩

/-! ### Decoding -/

def hexValue (c : Nat) : Option Nat :=
  if Nat.ble 0x30 c && Nat.ble c 0x39 then some (c - 0x30)
  else if Nat.ble 0x41 c && Nat.ble c 0x46 then some (c - 0x37)
  else if Nat.ble 0x61 c && Nat.ble c 0x66 then some (c - 0x57)
  else none

/-- A run of escapes is decoded as one; `pending` is the run so far, read backwards. -/
def percentDecodeFrom (pending : List UInt8) : Str → Option Str
  | [] => decodeUtf8 pending.reverse
  | c :: rest =>
    if c = 0x25 then
      match rest with
      | high :: low :: rest => do
        percentDecodeFrom (UInt8.ofNat (16 * (← hexValue high) + (← hexValue low)) :: pending) rest
      | _ => none
    else do return (← decodeUtf8 pending.reverse) ++ c :: (← percentDecodeFrom [] rest)

/-- The text that a percent-encoded one stands for. -/
def percentDecode (text : Str) : Option Str := percentDecodeFrom [] text

theorem hexValue_hexDigit : ∀ n < 16, hexValue (hexDigit n) = some n := by decide

theorem percentDecodeFrom_literal (pending : List UInt8) {c : Nat} (plain : c ≠ 0x25) (rest : Str) :
    percentDecodeFrom pending (c :: rest) = do
      return (← decodeUtf8 pending.reverse) ++ c :: (← percentDecodeFrom [] rest) := by
  rw [percentDecodeFrom.eq_def]
  exact if_neg plain

theorem percentDecodeFrom_escape (pending : List UInt8) (b : UInt8) (rest : Str) :
    percentDecodeFrom pending (escapeOctet b ++ rest) = percentDecodeFrom (b :: pending) rest := by
  have small : b.toNat < 256 := b.toNat_lt
  have high := hexValue_hexDigit (b.toNat / 16) (by omega)
  have low := hexValue_hexDigit (b.toNat % 16) (by omega)
  have whole : 16 * (b.toNat / 16) + b.toNat % 16 = b.toNat := Nat.div_add_mod _ _
  rw [escapeOctet, List.cons_append, List.cons_append, List.cons_append, List.nil_append,
    percentDecodeFrom, if_pos rfl,
    high, low, Option.bind_eq_bind, Option.bind_some, Option.bind_some, whole, UInt8.ofNat_toNat]

theorem percentDecodeFrom_escapes (pending octets : List UInt8) (rest : Str) :
    percentDecodeFrom pending (octets.flatMap escapeOctet ++ rest) =
      percentDecodeFrom (octets.reverse ++ pending) rest := by
  induction octets generalizing pending with
  | nil => rfl
  | cons b octets ih =>
    rw [List.flatMap_cons, List.append_assoc, percentDecodeFrom_escape, ih, List.reverse_cons,
      List.append_assoc]
    rfl

/-- The characters already escaped, and those still to come. -/
theorem percentDecodeFrom_quoted {safe : Str} (marked : 0x25 ∉ safe) (before after : List Char) :
    percentDecodeFrom (before.flatMap String.utf8EncodeChar).reverse
      (after.flatMap (quoteChar safe)) = some ((before ++ after).map Char.toNat) := by
  induction after generalizing before with
  | nil =>
    rw [List.flatMap_nil, percentDecodeFrom, List.reverse_reverse, decodeUtf8_flatMap,
      List.append_nil]
  | cons c after ih =>
    rw [List.flatMap_cons]
    rcases quoteChar_cases safe c with ⟨itself, kept⟩ | ⟨escaped, -⟩
    · have plain : c.toNat ≠ 0x25 := by
        intro percent
        rw [percent] at kept
        rcases kept with reserved | ⟨-, safe⟩
        · exact absurd reserved (by decide)
        · exact marked safe
      have rest := ih []
      rw [List.flatMap_nil, List.reverse_nil, List.nil_append] at rest
      rw [itself, List.singleton_append, percentDecodeFrom_literal _ plain, List.reverse_reverse,
        decodeUtf8_flatMap, rest]
      simp
    · rw [escaped, percentDecodeFrom_escapes, ← List.reverse_append]
      have joined : before.flatMap String.utf8EncodeChar ++ String.utf8EncodeChar c =
          (before ++ [c]).flatMap String.utf8EncodeChar := by simp
      rw [joined, ih, List.append_assoc]
      rfl

theorem percentDecode_quote {safe text quoted : Str} (marked : 0x25 ∉ safe)
    (made : quote safe text = some quoted) : percentDecode quoted = some text := by
  obtain ⟨chars, rfl, rfl⟩ := quote_eq_some.mp made
  exact percentDecodeFrom_quoted marked [] chars

theorem percentDecode_plain {text : Str} (plain : 0x25 ∉ text) :
    percentDecode text = some text := by
  have none : decodeUtf8 [] = some [] := decodeUtf8_flatMap []
  unfold percentDecode
  induction text with
  | nil => exact none
  | cons c text ih =>
    rw [List.mem_cons, not_or] at plain
    rw [percentDecodeFrom_literal _ (Ne.symm plain.1), ih plain.2, List.reverse_nil, none]
    rfl

/-! ### What a quoted text holds -/

theorem hexDigit_unreserved : ∀ n < 16, unreserved (hexDigit n) = true := by decide

theorem mem_escapeOctet {b : UInt8} {d : Nat} (member : d ∈ escapeOctet b) :
    unreserved d = true ∨ d = 0x25 := by
  have small : b.toNat < 256 := b.toNat_lt
  simp only [escapeOctet, List.mem_cons, List.not_mem_nil, or_false] at member
  rcases member with rfl | rfl | rfl
  · exact Or.inr rfl
  · exact Or.inl (hexDigit_unreserved _ (by omega))
  · exact Or.inl (hexDigit_unreserved _ (by omega))

/-- What is neither unreserved nor the percent sign was safe, and stands for itself. -/
theorem mem_quote {safe text quoted : Str} (made : quote safe text = some quoted) {d : Nat}
    (reserved : unreserved d = false) (unmarked : d ≠ 0x25) :
    d ∈ quoted ↔ d < 0x80 ∧ d ∈ safe ∧ d ∈ text := by
  obtain ⟨chars, rfl, rfl⟩ := quote_eq_some.mp made
  have one : ∀ c : Char, d ∈ quoteChar safe c ↔ d < 0x80 ∧ d ∈ safe ∧ d = c.toNat := by
    intro c
    rcases quoteChar_cases safe c with ⟨itself, kept⟩ | ⟨escaped, closed⟩
    · rw [itself, List.mem_singleton]
      constructor
      · rintro rfl
        obtain ⟨ascii, safe⟩ := kept.resolve_left (by rw [reserved]; exact Bool.false_ne_true)
        exact ⟨ascii, safe, rfl⟩
      · exact fun h => h.2.2
    · refine iff_of_false ?_ ?_
      · rw [escaped]
        intro member
        obtain ⟨b, -, inside⟩ := List.mem_flatMap.mp member
        rcases mem_escapeOctet inside with plain | percent
        · rw [reserved] at plain
          cases plain
        · exact unmarked percent
      · rintro ⟨ascii, safe, rfl⟩
        exact closed ascii safe
  simp only [List.mem_flatMap, one, List.mem_map]
  constructor
  · rintro ⟨c, member, ascii, safe, rfl⟩
    exact ⟨ascii, safe, c, member, rfl⟩
  · rintro ⟨ascii, safe, c, member, rfl⟩
    exact ⟨c, member, ascii, safe, rfl⟩

end Foundation
