import Mathlib.Data.List.Induction
import Rosadmin.Membership.Client
import Rosadmin.MockSt.Personas

/-!
# The served roster

`_RosterStore` holds one generated record an email. `set` generates a record
anew and takes its identity from the one it replaces; the field-level operations
patch a record's custom properties in place.
-/

namespace Rosadmin.MockSt
open Foundation

/-! ### The persona map -/

structure RosterEntry where
  email : Str
  persona : Persona
  discordId : Option Str

def isSnowflake (raw : Str) : Bool := (intOfStr raw).isSome

/-- One entry of the map; an entry that is not well formed is skipped with a warning. -/
def parseEntry (raw : Str) : Option RosterEntry := do
  let (key, value) ← cutFirst 0x3d (strip raw)
  let persona ← Persona.parse (((cutFirst 0x3a value).map (·.1)).getD value)
  let discordId := (cutFirst 0x3a value).map (strip ·.2)
  if discordId.all isSnowflake then some ⟨strip key, persona, discordId⟩ else none

def parseMap (raw : Str) : List RosterEntry := (raw.splitOn 0x2c).filterMap parseEntry

/-! ### The store -/

structure RosterStore where
  records : Dict Str UserJson
  nextId : Nat

namespace RosterStore

def generate (parsed : List RosterEntry) : Dict Str UserJson :=
  parsed.zipIdx.foldl (fun records (entry, i) =>
    records.set entry.email (entry.persona.userJson (i + 1) entry.email entry.discordId)) .empty

/-- `__init__`: the next id comes after the highest live one. -/
def ofEntries (parsed : List RosterEntry) : RosterStore :=
  let records := generate parsed
  ⟨records, ((records.items.map (·.2.id)).max?).getD 0 + 1⟩

def asRecords (store : RosterStore) : List UserJson := store.records.items.map (·.2)

end RosterStore

/-- `_discord_id_of` -/
def discordIdOf (record : Option UserJson) : Option Str :=
  record.bind fun record => match record.customProps.get? (str "discord-user-id") with
    | some (.str raw) => some raw
    | _ => none

def leadershipFields : List Str := fieldBodyTypes.map (·.1)

/-- `[e for e in entries if e.get("label") != label]` -/
def withoutLabel (label : Str) : List Json → Except BuiltinError (List Json)
  | [] => .ok []
  | entry :: rest => do
    let own ← entry.get (str "label")
    let kept ← withoutLabel label rest
    return match own with
      | .str own => if own = label then kept else entry :: kept
      | _ => entry :: kept

/-- `bool(props.get(key))` -/
def holds (props : Dict Str Json) (key : Str) : Bool := (props.get? key).any Json.truthy

/-- What `set_standing` makes of a record's properties. -/
def withStanding (standing : Standing) (props : Dict Str Json) : Dict Str Json :=
  props.set (str "membership-status") (statusProp (standingLabel standing))

/-- A field without entries is dropped. -/
def relist (props : Dict Str Json) (field : Str) (entries : List Json) : Dict Str Json :=
  if entries.isEmpty then props.erase field else props.set field (.arr entries)

/-- A body turned on brings the flag; the flag goes where a body is turned off and no field is
left. -/
def reflag (props : Dict Str Json) (present : Bool) : Dict Str Json :=
  if present then
    if holds props (str "is-chapter-leader") then props
    else props.set (str "is-chapter-leader") (selectProp [str "Yes"])
  else if leadershipFields.any (holds props) then props
  else props.erase (str "is-chapter-leader")

/-- What `set_leadership` makes of a record's properties. -/
def turnBody (props : Dict Str Json) (field label : Str) (present : Bool) :
    Except BuiltinError (Dict Str Json) := do
  let listed ← jsonItems ((props.get? field).getD (.arr []))
  let kept ← withoutLabel label listed
  return reflag (relist props field (if present then kept ++ [selectEntry label] else kept)) present

namespace RosterStore

def put (store : RosterStore) (email : Str) (record : UserJson) : RosterStore :=
  { store with records := store.records.set email record }

def set (store : RosterStore) (email : Str) (persona : Persona) (discordId : Option Str) :
    UserJson × RosterStore :=
  let existing := store.records.get? email
  let stId := (existing.map (·.id)).getD store.nextId
  -- a swap keeps the member's Discord id, and an explicit id wins
  let record := persona.userJson stId email (discordId.or (discordIdOf existing))
  (record, ⟨store.records.set email record, if existing.isSome then store.nextId
    else store.nextId + 1⟩)

def delete (store : RosterStore) (email : Str) : RosterStore :=
  { store with records := store.records.erase email }

/-- `None` where the email is not on the roster. -/
def setStanding (store : RosterStore) (email : Str) (standing : Standing) :
    Option UserJson × RosterStore :=
  match store.records.get? email with
  | none => (none, store)
  | some record =>
    let patched := { record with customProps := withStanding standing record.customProps }
    (some patched, store.put email patched)

def setLeadership (store : RosterStore) (email field label : Str) (present : Bool) :
    Except BuiltinError (Option UserJson × RosterStore) :=
  match store.records.get? email with
  | none => .ok (none, store)
  | some record => do
    let props ← turnBody record.customProps field label present
    let patched := { record with customProps := props }
    return (some patched, store.put email patched)

end RosterStore

/-- A control operation; the leadership field has passed the route's check. -/
inductive Operation where
  | set (email : Str) (persona : Persona) (discordId : Option Str)
  | delete (email : Str)
  | setStanding (email : Str) (standing : Standing)
  | setLeadership (email : Str) (field : Str) (known : field ∈ leadershipFields) (label : Str)
      (present : Bool)

/-- Before an operation raises it has changed nothing. -/
def RosterStore.apply (store : RosterStore) : Operation → RosterStore
  | .set email persona discordId => (store.set email persona discordId).2
  | .delete email => store.delete email
  | .setStanding email standing => (store.setStanding email standing).2
  | .setLeadership email field _ label present =>
      match store.setLeadership email field label present with
    | .ok answer => answer.2
    | .error _ => store

/-! ### What an operation does to the records -/

theorem mem_asRecords {store : RosterStore} {record : UserJson} :
    record ∈ store.asRecords ↔ ∃ email, store.records.get? email = some record := by
  simp only [RosterStore.asRecords, List.mem_map, Dict.get?_eq_some_iff, Prod.exists,
    exists_eq_right]

def UserJson.patch (change : Dict Str Json → Dict Str Json) (record : UserJson) : UserJson :=
  { record with customProps := change record.customProps }

/-- Only the properties under one email change, and no id is handed out. -/
structure Patches (store later : RosterStore) (email : Str)
    (change : Dict Str Json → Dict Str Json) : Prop where
  nextId : later.nextId = store.nextId
  records : ∀ other, later.records.get? other =
    if other = email then (store.records.get? email).map (UserJson.patch change)
      else store.records.get? other

section
variable {store : RosterStore} {email : Str} {change : Dict Str Json → Dict Str Json}

theorem patches_put {record : UserJson} (found : store.records.get? email = some record) :
    Patches store (store.put email (record.patch change)) email change where
  nextId := rfl
  records other := by
    rw [found, RosterStore.put, Dict.get?_set]
    rfl

theorem patches_self (same : ∀ record, store.records.get? email = some record →
    record.patch change = record) : Patches store store email change where
  nextId := rfl
  records other := by
    split
    · rename_i here
      rw [here]
      cases found : store.records.get? email with
      | none => rfl
      | some record => rw [Option.map_some, same record found]
    · rfl

theorem apply_setStanding (standing : Standing) :
    Patches store (store.apply (.setStanding email standing)) email (withStanding standing) := by
  rw [RosterStore.apply, RosterStore.setStanding]
  cases found : store.records.get? email with
  | none => exact patches_self fun record here => by rw [found] at here; cases here
  | some record =>
    show Patches store (store.put email (record.patch (withStanding standing))) email
      (withStanding standing)
    exact patches_put found

theorem get?_relist (props : Dict Str Json) (field : Str) (entries : List Json) (key : Str) :
    (relist props field entries).get? key =
      if key = field then (if entries.isEmpty then none else some (.arr entries))
        else props.get? key := by
  unfold relist
  split
  · exact Dict.get?_erase ..
  · exact Dict.get?_set ..

theorem reflag_other (props : Dict Str Json) (present : Bool) {key : Str}
    (unmarked : key ≠ str "is-chapter-leader") :
    (reflag props present).get? key = props.get? key := by
  unfold reflag
  split
  · split
    · rfl
    · rw [Dict.get?_set, if_neg unmarked]
  · split
    · rfl
    · rw [Dict.get?_erase, if_neg unmarked]

/-- The properties `set_leadership` leaves: those it found, where it raises. -/
def turned (field label : Str) (present : Bool) (props : Dict Str Json) : Dict Str Json :=
  (turnBody props field label present).toOption.getD props

theorem apply_setLeadership {field : Str} (known : field ∈ leadershipFields) (label : Str)
    (present : Bool) :
    Patches store (store.apply (.setLeadership email field known label present)) email
      (turned field label present) := by
  rw [RosterStore.apply, RosterStore.setLeadership]
  cases found : store.records.get? email with
  | none => exact patches_self fun record here => by rw [found] at here; cases here
  | some record =>
    dsimp only
    cases made : turnBody record.customProps field label present with
    | ok props =>
      have patched : { record with customProps := props } =
        record.patch (turned field label present) := by
        rw [UserJson.patch, turned, made]
        rfl
      rw [ok_bind, patched]
      exact patches_put found
    | error failure =>
      refine patches_self fun other here => ?_
      obtain rfl : record = other := Option.some.inj (found.symm.trans here)
      rw [UserJson.patch, turned, made]
      rfl

theorem apply_set (persona : Persona) (discordId : Option Str) (other : Str) :
    (store.apply (.set email persona discordId)).records.get? other =
      if other = email then some (store.set email persona discordId).1
        else store.records.get? other :=
  Dict.get?_set ..

theorem apply_delete (other : Str) : (store.apply (.delete email)).records.get? other =
    if other = email then none else store.records.get? other :=
  Dict.get?_erase ..

end

/-- The record an operation writes: one generated anew, or the one there with its properties
patched. -/
inductive Written (store : RosterStore) : Operation → Str → UserJson → Prop where
  | generated (email : Str) (persona : Persona) (discordId : Option Str) :
    Written store (.set email persona discordId) email (store.set email persona discordId).1
  | standing {email : Str} {old : UserJson} (found : store.records.get? email = some old)
      (standing : Standing) :
    Written store (.setStanding email standing) email (old.patch (withStanding standing))
  | leadership {email field : Str} {old : UserJson} (found : store.records.get? email = some old)
    (known : field ∈ leadershipFields) (label : Str) (present : Bool) :
    Written store (.setLeadership email field known label present) email
      (old.patch (turned field label present))

section
variable {store : RosterStore} {op : Operation} {email : Str} {record : UserJson}

theorem Patches.written {later : RosterStore} {target : Str}
    {change : Dict Str Json → Dict Str Json} (patches : Patches store later target change)
    (found : later.records.get? email = some record) :
    store.records.get? email = some record ∨
      ∃ old, email = target ∧ store.records.get? target = some old ∧ record = old.patch change := by
  rw [patches.records] at found
  split at found
  · rename_i here
    obtain ⟨old, before, rfl⟩ := Option.map_eq_some_iff.mp found
    exact Or.inr ⟨old, here, before, rfl⟩
  · exact Or.inl found

/-- After an operation a record is the one from before, or the one that was written. -/
theorem get?_apply (found : (store.apply op).records.get? email = some record) :
    store.records.get? email = some record ∨ Written store op email record := by
  cases op with
  | set target persona discordId =>
    rw [apply_set] at found
    split at found
    · rename_i here
      cases found
      rw [here]
      exact Or.inr (.generated target persona discordId)
    · exact Or.inl found
  | delete target =>
    rw [apply_delete] at found
    split at found
    · cases found
    · exact Or.inl found
  | setStanding target standing =>
    refine ((apply_setStanding standing).written found).imp_right fun written => ?_
    obtain ⟨old, rfl, before, rfl⟩ := written
    exact .standing before standing
  | setLeadership target field known label present =>
    refine ((apply_setLeadership known label present).written found).imp_right fun written => ?_
    obtain ⟨old, rfl, before, rfl⟩ := written
    exact .leadership before known label present

theorem Written.served (written : Written store op email record) :
    (store.apply op).records.get? email = some record := by
  cases written with
  | generated persona discordId => rw [apply_set, if_pos rfl]
  | standing found standing => rw [(apply_setStanding standing).records, if_pos rfl, found,
      Option.map_some]
  | leadership found known label present =>
    rw [(apply_setLeadership known label present).records, if_pos rfl, found, Option.map_some]

end

/-! ### The roster at the start -/

/-- The entry of the map that stands for an email: a later one replaces an earlier one. -/
def lastEntry (parsed : List RosterEntry) (email : Str) : Option RosterEntry :=
  parsed.reverse.find? (·.email = email)

theorem lastEntry_mem {parsed : List RosterEntry} {email : Str} {entry : RosterEntry}
    (last : lastEntry parsed email = some entry) : entry ∈ parsed :=
  List.mem_reverse.mp (List.mem_of_find?_eq_some last)

theorem lastEntry_append (parsed : List RosterEntry) (entry : RosterEntry) (email : Str) :
    lastEntry (parsed ++ [entry]) email = if entry.email = email then some entry
      else lastEntry parsed email := by
  rw [lastEntry, List.reverse_append, List.reverse_singleton, List.singleton_append,
    List.find?_cons]
  by_cases here : entry.email = email
  · simp [here]
  · simp [here, lastEntry]

theorem generate_append (parsed : List RosterEntry) (entry : RosterEntry) :
    RosterStore.generate (parsed ++ [entry]) = (RosterStore.generate parsed).set entry.email
      (entry.persona.userJson (parsed.length + 1) entry.email entry.discordId) := by
  rw [RosterStore.generate, List.zipIdx_append, List.foldl_append, Nat.zero_add]
  rfl

theorem get?_generate_append (parsed : List RosterEntry) (entry : RosterEntry) (email : Str) :
    (RosterStore.generate (parsed ++ [entry])).get? email = if entry.email = email then
      some (entry.persona.userJson (parsed.length + 1) email entry.discordId)
      else (RosterStore.generate parsed).get? email := by
  rw [generate_append, Dict.get?_set]
  by_cases here : entry.email = email
  · rw [if_pos here, if_pos here.symm, here]
  · rw [if_neg here, if_neg (Ne.symm here)]

theorem generate_absent {parsed : List RosterEntry} {email : Str}
    (absent : (RosterStore.generate parsed).get? email = none) : lastEntry parsed email = none := by
  induction parsed using List.reverseRecOn with
  | nil => rfl
  | append_singleton parsed entry ih =>
    rw [get?_generate_append] at absent
    rw [lastEntry_append]
    split at absent
    · cases absent
    · rename_i other
      rw [if_neg other, ih absent]

/-- A record is the one its last entry generates, under an id no later than the map is long. -/
theorem generate_record {parsed : List RosterEntry} {email : Str} {record : UserJson}
    (found : (RosterStore.generate parsed).get? email = some record) : record.id ≤ parsed.length ∧
      ∃ entry, lastEntry parsed email = some entry ∧
        record = entry.persona.userJson record.id email entry.discordId := by
  induction parsed using List.reverseRecOn with
  | nil => cases found
  | append_singleton parsed entry ih =>
    rw [get?_generate_append] at found
    rw [lastEntry_append, List.length_append, List.length_singleton]
    split at found
    · rename_i here
      cases found
      rw [userJson_id, if_pos here]
      exact ⟨Nat.le_refl _, entry, rfl, rfl⟩
    · rename_i other
      obtain ⟨within, generated⟩ := ih found
      rw [if_neg other]
      exact ⟨Nat.le_succ_of_le within, generated⟩

theorem generate_apart {parsed : List RosterEntry} {email other : Str} {record same : UserJson}
    (found : (RosterStore.generate parsed).get? email = some record)
    (again : (RosterStore.generate parsed).get? other = some same) (sameId : record.id = same.id) :
    email = other := by
  induction parsed using List.reverseRecOn with
  | nil => cases found
  | append_singleton parsed entry ih =>
    rw [get?_generate_append] at found again
    split at found
    · rename_i here
      split at again
      · rename_i there
        exact here.symm.trans there
      · have := (generate_record again).1
        cases found
        rw [userJson_id] at sameId
        omega
    · split at again
      · have := (generate_record found).1
        cases again
        rw [userJson_id] at sameId
        omega
      · exact ih found again

end Rosadmin.MockSt
