import Rosadmin.Foundation.Framing
import Rosadmin.Foundation.Percent

/-!
# The journald mirror

One audit event is one datagram of named fields. Its texts come from outside,
so what matters is that none of them can end its field early and start another.
-/

namespace Rosadmin.JournalSend
open Foundation

def identifier : Str := str "rosadmin-audit"

/-- The octets of one field; `none` is the `UnicodeEncodeError` of a lone surrogate. -/
def field (name value : Str) : Option Octets := do
  let raw ← encodeUtf8 value
  if lineFeed ∈ raw then
    return (← encodeUtf8 name) ++ lineFeed :: (littleEndian 8 raw.length ++ raw ++ [lineFeed])
  else encodeUtf8 (name ++ str "=" ++ value ++ str "\n")

/-- The fields of an audit event, in the order of the `dict`. -/
def auditFields (action actorHmac : Str) (subjectHmac : Option Str) : List (Str × Str) :=
  [(str "MESSAGE", str "audit: " ++ action), (str "PRIORITY", str "6"),
    (str "SYSLOG_IDENTIFIER", identifier),
    (str "AUDIT_ACTION", action), (str "AUDIT_ACTOR", actorHmac)] ++
    (subjectHmac.map fun subject => (str "AUDIT_SUBJECT", subject)).toList

/-- `b"".join(_field(key, value) for key, value in fields.items())` -/
def payload (fields : List (Str × Str)) : Option Octets :=
  (fields.mapM fun e => field e.1 e.2).map List.flatten

/-- The texts of a field. -/
def textsOf (f : NamedField) : Option Str × Option Str := (decodeUtf8 f.name, decodeUtf8 f.value)

/-- A field name of plain letters. -/
def PlainName (name : Str) : Prop := ∀ c ∈ name, c < 0x80 ∧ c ≠ 0x3d ∧ c ≠ 0x0a

theorem encodeUtf8_append (a b : Str) : encodeUtf8 (a ++ b) =
    (encodeUtf8 a).bind fun x => (encodeUtf8 b).map fun y => x ++ y := by
  rw [encodeUtf8, encodeUtf8, encodeUtf8, List.mapM_append]
  cases a.mapM scalar with
  | none => rfl
  | some x => cases b.mapM scalar <;> simp

theorem decodeUtf8_of_encode {text : Str} {octets : Octets}
    (encoded : encodeUtf8 text = some octets) : decodeUtf8 octets = some text := by
  obtain ⟨chars, rfl, rfl⟩ := encodeUtf8_eq_some.mp encoded
  exact decodeUtf8_flatMap chars

theorem encodeUtf8_plain {name : Str} (plain : PlainName name) :
    encodeUtf8 name = some (name.map UInt8.ofNat) := by
  induction name with
  | nil => rfl
  | cons c name ih =>
    obtain ⟨⟨ascii, -⟩, later⟩ := List.forall_mem_cons.mp plain
    have valid : c.isValidChar := Or.inl (by omega)
    have single : encodeUtf8 [c] = some [UInt8.ofNat c] := by
      have back : (Char.ofNat c).toNat = c := toNat_of_scalar (if_pos valid)
      have one : [c].mapM scalar = some [Char.ofNat c] :=
        mapM_scalar.mpr (by rw [List.map_singleton, back])
      have small : (Char.ofNat c).toNat < 0x80 := by rwa [back]
      rw [encodeUtf8, one, Option.map_some, List.flatMap_singleton,
        utf8EncodeChar_ascii small, back]
    have rest := ih later
    rw [← List.singleton_append, encodeUtf8_append, single, rest]
    rfl

theorem named_plain {name : Str} (plain : PlainName name) (value : Octets) :
    NamedField.Named ⟨name.map UInt8.ofNat, value⟩ := by
  have octet : ∀ c ∈ name, ∀ b, b < 0x80 → c ≠ b → UInt8.ofNat c ≠ UInt8.ofNat b := by
    intro c member b small other same
    have := congrArg UInt8.toNat same
    rw [UInt8.toNat_ofNat', UInt8.toNat_ofNat'] at this
    have := (plain c member).1
    omega
  constructor
  · intro held
    obtain ⟨c, member, same⟩ := List.mem_map.mp held
    exact octet c member 0x3d (by decide) (plain c member).2.1 same
  · intro held
    obtain ⟨c, member, same⟩ := List.mem_map.mp held
    exact octet c member 0x0a (by decide) (plain c member).2.2 same

theorem field_frame {name value : Str} {octets : Octets} (plain : PlainName name)
    (sent : field name value = some octets) :
    ∃ raw, encodeUtf8 value = some raw ∧
      octets = (NamedField.mk (name.map UInt8.ofNat) raw).frame := by
  rw [field] at sent
  obtain ⟨raw, encoded, sent⟩ := Option.bind_eq_some_iff.mp sent
  refine ⟨raw, encoded, ?_⟩
  have named := encodeUtf8_plain plain
  have mark : encodeUtf8 (str "=") = some [equals] := by decide
  have stop : encodeUtf8 (str "\n") = some [lineFeed] := by decide
  rw [NamedField.frame]
  split at sent
  · rename_i feeds
    rw [if_pos feeds]
    rw [named] at sent
    exact (Option.some.inj sent).symm
  · rename_i line
    rw [if_neg line]
    rw [encodeUtf8_append, encodeUtf8_append, encodeUtf8_append, named, mark, encoded, stop] at sent
    exact (Option.some.inj sent).symm.trans (by simp)

theorem payload_cons {e : Str × Str} {fields : List (Str × Str)} {octets : Octets} :
    payload (e :: fields) = some octets ↔
      ∃ first rest, field e.1 e.2 = some first ∧ payload fields = some rest ∧
        octets = first ++ rest := by
  rw [payload, payload, List.mapM_cons]
  cases field e.1 e.2 with
  | none => simp
  | some first => cases fields.mapM fun e => field e.1 e.2 <;> simp [eq_comm]

theorem payload_frames {fields : List (Str × Str)} {octets : Octets}
    (plain : ∀ e ∈ fields, PlainName e.1) (sent : payload fields = some octets) :
    ∃ framed : List NamedField, octets = framed.flatMap NamedField.frame ∧ (∀ f ∈ framed, f.Named) ∧
      framed.map textsOf = fields.map fun e => (some e.1, some e.2) := by
  induction fields generalizing octets with
  | nil =>
    cases sent
    exact ⟨[], rfl, nofun, rfl⟩
  | cons e fields ih =>
    obtain ⟨here, later⟩ := List.forall_mem_cons.mp plain
    obtain ⟨first, rest, one, others, rfl⟩ := payload_cons.mp sent
    obtain ⟨raw, encoded, rfl⟩ := field_frame here one
    obtain ⟨framed, rfl, named, read⟩ := ih later others
    refine ⟨⟨e.1.map UInt8.ofNat, raw⟩ :: framed, rfl,
      List.forall_mem_cons.mpr ⟨named_plain here raw, named⟩, ?_⟩
    have texts : textsOf ⟨e.1.map UInt8.ofNat, raw⟩ = (some e.1, some e.2) := by
      rw [textsOf, decodeUtf8_of_encode (encodeUtf8_plain here), decodeUtf8_of_encode encoded]
    rw [List.map_cons, List.map_cons, texts, read]

theorem field_isSome {name value : Str} (plain : PlainName name)
    (text : (encodeUtf8 value).isSome) : (field name value).isSome := by
  obtain ⟨raw, encoded⟩ := Option.isSome_iff_exists.mp text
  have named := encodeUtf8_plain plain
  have mark : encodeUtf8 (str "=") = some [equals] := by decide
  have stop : encodeUtf8 (str "\n") = some [lineFeed] := by decide
  rw [field, encoded]
  dsimp only [Option.bind_eq_bind, Option.bind_some]
  split
  · rw [named]
    rfl
  · rw [encodeUtf8_append, encodeUtf8_append, encodeUtf8_append, named, mark, encoded, stop]
    rfl

theorem payload_isSome {fields : List (Str × Str)} (plain : ∀ e ∈ fields, PlainName e.1)
    (texts : ∀ e ∈ fields, (encodeUtf8 e.2).isSome) : (payload fields).isSome := by
  induction fields with
  | nil => rfl
  | cons e fields ih =>
    obtain ⟨here, later⟩ := List.forall_mem_cons.mp plain
    obtain ⟨text, rest⟩ := List.forall_mem_cons.mp texts
    obtain ⟨first, one⟩ := Option.isSome_iff_exists.mp (field_isSome here text)
    obtain ⟨others, more⟩ := Option.isSome_iff_exists.mp (ih later rest)
    exact Option.isSome_iff_exists.mpr ⟨_, payload_cons.mpr ⟨first, others, one, more, rfl⟩⟩

theorem auditFields_plain (action actorHmac : Str) (subjectHmac : Option Str) :
    ∀ e ∈ auditFields action actorHmac subjectHmac, PlainName e.1 := by
  have names : ∀ name ∈ [str "MESSAGE", str "PRIORITY", str "SYSLOG_IDENTIFIER", str "AUDIT_ACTION",
    str "AUDIT_ACTOR", str "AUDIT_SUBJECT"], ∀ c ∈ name, c < 0x80 ∧ c ≠ 0x3d ∧ c ≠ 0x0a := by decide
  intro e member
  refine names e.1 ?_
  cases subjectHmac <;>
    · simp only [auditFields, Option.map_none, Option.map_some, Option.toList_none,
        Option.toList_some, List.append_nil,
        List.cons_append, List.nil_append, List.mem_cons, List.not_mem_nil, or_false] at member
      aesop

theorem auditFields_isSome {action actorHmac : Str} {subjectHmac : Option Str}
    (acts : (encodeUtf8 action).isSome) (actor : (encodeUtf8 actorHmac).isSome)
    (subject : ∀ s ∈ subjectHmac, (encodeUtf8 s).isSome) :
    (payload (auditFields action actorHmac subjectHmac)).isSome := by
  refine payload_isSome (auditFields_plain action actorHmac subjectHmac) ?_
  have message : (encodeUtf8 (str "audit: " ++ action)).isSome := by
    obtain ⟨raw, encoded⟩ := Option.isSome_iff_exists.mp acts
    have label : (encodeUtf8 (str "audit: ")).isSome := by decide
    obtain ⟨first, labelled⟩ := Option.isSome_iff_exists.mp label
    rw [encodeUtf8_append, labelled, encoded]
    rfl
  have priority : (encodeUtf8 (str "6")).isSome := by decide
  have named : (encodeUtf8 identifier).isSome := by decide
  intro e member
  cases subjectHmac <;>
    · simp only [auditFields, Option.map_none, Option.map_some, Option.toList_none,
        Option.toList_some, List.append_nil,
        List.cons_append, List.nil_append, List.mem_cons, List.not_mem_nil, or_false] at member
      aesop

theorem length_le_of_mem {framed : List NamedField} {f : NamedField} (member : f ∈ framed) :
    f.value.length ≤ (framed.flatMap NamedField.frame).length := by
  obtain ⟨before, after, rfl⟩ := List.append_of_mem member
  have held : f.value.length ≤ f.frame.length := by
    rw [NamedField.frame]
    split <;> simp only [List.length_append, List.length_cons] <;> omega
  simp only [List.flatMap_append, List.flatMap_cons, List.length_append]
  omega

/-- Whatever the texts of an event, the journal reads back the fields it was given and no others. -/
theorem audit_datagram_reads_back {action actorHmac : Str} {subjectHmac : Option Str}
    {datagram : Octets} (sent : payload (auditFields action actorHmac subjectHmac) = some datagram)
    (fits : datagram.length < 2 ^ 64) {turns : Nat} (enough : 6 ≤ turns) :
    (readFields turns datagram).map (·.map textsOf) =
      some ((auditFields action actorHmac subjectHmac).map fun e => (some e.1, some e.2)) := by
  obtain ⟨framed, rfl, named, read⟩ :=
    payload_frames (auditFields_plain action actorHmac subjectHmac) sent
  have small : ∀ f ∈ framed, f.value.length < 256 ^ 8 := fun f member => by
    have := length_le_of_mem member
    omega
  have few : framed.length ≤ turns := by
    have count := congrArg List.length read
    rw [List.length_map, List.length_map] at count
    rw [count]
    cases subjectHmac <;> simp [auditFields] <;> omega
  rw [readFields_frames named small few, Option.map_some, read]

/-- An action that holds a line feed and the text of another field. -/
def forged : Str := str "login\nAUDIT_ACTOR=sweep"

theorem audit_datagram_reads_back_forged :
    ∃ datagram, payload (auditFields forged (str "aa") none) = some datagram ∧
      (readFields 6 datagram).map (·.map textsOf) =
        some ((auditFields forged (str "aa") none).map fun e => (some e.1, some e.2)) := by
  have sent : (payload (auditFields forged (str "aa") none)).isSome = true := by decide +kernel
  obtain ⟨datagram, made⟩ := Option.isSome_iff_exists.mp sent
  have fits : datagram.length < 2 ^ 64 := by
    have short : (payload (auditFields forged (str "aa") none)).all (·.length < 2 ^ 64) = true :=
      by decide +kernel
    rw [made] at short
    exact of_decide_eq_true short
  exact ⟨datagram, made, audit_datagram_reads_back made fits (Nat.le_refl 6)⟩

end Rosadmin.JournalSend
