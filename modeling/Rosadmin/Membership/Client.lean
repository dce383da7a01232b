import Rosadmin.Foundation.Fallible
import Rosadmin.Foundation.Paging
import Rosadmin.Membership.Decode

/-!
# Listing the members

`list_members` asks for one page after another, and records come and go
upstream in between. A round is what changes before a request; a listing
returns at the first page that is short or reaches the total.
-/

namespace Rosadmin
open Foundation

def pageSize : Nat := 100

/-- `for raw in data`: what iterating a JSON value yields. -/
def jsonItems : Json → Except BuiltinError (List Json)
  | .arr items => .ok items
  | .str s => .ok (s.map (fun c => .str [c]))
  | .obj fields => .ok (fields.map (fun f => .str f.1))
  | _ => .error .typeError

/-- `offset >= total`. -/
def reaches (offset : Nat) : Json → Except BuiltinError Bool
  | .int total => .ok (total ≤ offset)
  | .bool total => .ok ((if total then 1 else 0) ≤ offset)
  | .float .nan => .ok false
  | .float (.inf negative) => .ok negative
  | .float (.finite mantissa exponent) =>
    .ok (if 0 ≤ exponent then mantissa * 2 ^ exponent.toNat ≤ offset
      else mantissa ≤ offset * 2 ^ (-exponent).toNat)
  | _ => .error .typeError

structure Listing where
  members : List Member
  offset : Nat
  finished : Bool

def Listing.start : Listing := ⟨[], 0, false⟩

/-- The lenient sweep: a membership error skips the record, any other error leaves the listing. -/
def gather (members : List Member) (raw : Json) : Decoded (List Member) :=
  match decodeUser raw with
  | .ok member => .ok (members ++ [member])
  | .error (.builtin error) => .error (.builtin error)
  | .error _ => .ok members

/-- `body.get(key, default)` -/
def getOr (body : Json) (key : Str) (default : Json) : Except BuiltinError Json :=
  match body with
  | .obj fields => .ok ((Json.find fields key).getD default)
  | _ => .error .attributeError

/-- `len(data) < PAGE_SIZE or (total is not None and offset >= total)` -/
def exhausted (read offset : Nat) (total : Json) : Except BuiltinError Bool :=
  if read < pageSize then .ok true
  else match total with
    | .null => .ok false
    | total => reaches offset total

/-- One turn of the loop, over the body of the page's answer. -/
def listTurn (body : Json) (s : Listing) : Decoded Listing := do
  let data ← raising (getOr body (str "data") (.arr []))
  let raws ← raising (jsonItems data)
  let members ← raws.foldlM gather s.members
  let field ← raising (body.get (str "meta"))
  let total ← raising ((if field.truthy then field else .obj []).get (str "total_count"))
  let offset := s.offset + pageSize
  let finished ← raising (exhausted raws.length offset total)
  return ⟨members, offset, finished⟩

/-- The envelope of a page: `rows[offset : offset + limit]`, and how many rows there are. -/
def usersPage (rows : List Json) (offset : Nat) : Json :=
  .obj [(str "data", .arr (page rows offset pageSize)),
    (str "meta", .obj [(str "total_count", .int rows.length), (str "limit", .int pageSize),
      (str "offset", .int offset)])]

/-- The collection upstream, and the listing that reads it. -/
structure Exchange where
  users : List Json
  listing : Listing

/-- The changes before a request, and the request; a listing that has returned makes none. -/
def Exchange.round (s : Exchange) (changes : List (Change Json)) : Decoded Exchange :=
  let users := changed s.users changes
  if s.listing.finished then .ok ⟨users, s.listing⟩
  else do
    let listing ← listTurn (usersPage users s.listing.offset) s.listing
    return ⟨users, listing⟩

def listMembers (users : List Json) (rounds : List (List (Change Json))) : Decoded Exchange :=
  rounds.foldlM Exchange.round ⟨users, .start⟩

theorem gather_keeps {members gathered : List Member} {raw : Json}
    (step : gather members raw = .ok gathered) : ∃ more, gathered = members ++ more := by
  rw [gather] at step
  split at step
  · cases step
    exact ⟨_, rfl⟩
  · cases step
  · cases step
    exact ⟨[], (List.append_nil _).symm⟩

theorem gathered_keeps {members gathered : List Member} {raws : List Json}
    (run : raws.foldlM gather members = .ok gathered) : ∃ more, gathered = members ++ more := by
  induction raws generalizing members with
  | nil =>
    cases pure_ok.mp run
    exact ⟨[], (List.append_nil _).symm⟩
  | cons raw raws ih =>
    obtain ⟨next, step, run⟩ := foldlM_cons_ok.mp run
    obtain ⟨one, rfl⟩ := gather_keeps step
    obtain ⟨more, rfl⟩ := ih run
    exact ⟨one ++ more, List.append_assoc ..⟩

theorem mem_gathered {members gathered : List Member} {raws : List Json} {raw : Json}
    {member : Member} (run : raws.foldlM gather members = .ok gathered) (there : raw ∈ raws)
    (decodes : decodeUser raw = .ok member) :
    member ∈ gathered := by
  obtain ⟨before, after, rfl⟩ := List.append_of_mem there
  obtain ⟨reached, -, run⟩ := foldlM_append_ok.mp run
  obtain ⟨next, step, run⟩ := foldlM_cons_ok.mp run
  obtain ⟨more, rfl⟩ := gathered_keeps run
  rw [gather, decodes] at step
  cases step
  simp

theorem exhausted_int (read offset : Nat) (total : Int) :
    exhausted read offset (.int total) = .ok (read < pageSize || total ≤ offset) := by
  unfold exhausted
  split
  · rename_i short
    simp [short]
  · rename_i full
    simp [full, reaches]

/-- A turn gathers the page, moves on by it, and ends the listing where the page is the last. -/
theorem listTurn_page {rows : List Json} {s t : Listing}
    (turn : listTurn (usersPage rows s.offset) s = .ok t) :
    (page rows s.offset pageSize).foldlM gather s.members = .ok t.members ∧
      t.offset = s.offset + pageSize ∧ (t.finished = true →
        (page rows s.offset pageSize).length < pageSize ∨ rows.length ≤ s.offset + pageSize) := by
  have data : getOr (usersPage rows s.offset) (str "data") (.arr []) =
    .ok (.arr (page rows s.offset pageSize)) := rfl
  have field : (usersPage rows s.offset).get (str "meta") =
      .ok (.obj [(str "total_count", .int rows.length), (str "limit", .int pageSize),
        (str "offset", .int s.offset)]) := rfl
  simp only [listTurn, data, field, raising, ok_bind, jsonItems] at turn
  obtain ⟨members, gathered, turn⟩ := bind_ok.mp turn
  obtain ⟨total, counted, turn⟩ := bind_ok.mp turn
  cases counted
  obtain ⟨finished, ends, turn⟩ := bind_ok.mp turn
  cases pure_ok.mp turn
  refine ⟨gathered, rfl, fun done => ?_⟩
  have counts := exhausted_int (page rows s.offset pageSize).length
    (s.offset + pageSize) rows.length
  have ends : Except.ok ((page rows s.offset pageSize).length < pageSize ||
      (rows.length : Int) ≤ (s.offset + pageSize : Nat)) = (Except.ok finished : Decoded Bool) := by
    rw [← ends]
    exact congrArg raising counts.symm
  have done : finished = true := done
  rw [done, Except.ok.injEq, Bool.or_eq_true, decide_eq_true_iff, decide_eq_true_iff] at ends
  omega

/-! ### A record that stays -/

/-- A record that stays at `i` has been gathered, or the listing is still to reach it. -/
def Exchange.Owes (s : Exchange) (i : Nat) (member : Member) : Prop :=
  member ∈ s.listing.members ∨ (s.listing.finished = false ∧ s.listing.offset ≤ i)

theorem round_owes {s t : Exchange} {changes : List (Change Json)} {i j : Nat} {raw : Json}
    {member : Member} (round : s.round changes = .ok t) (there : s.users[i]? = some raw)
    (decodes : decodeUser raw = .ok member)
    (unpassed : s.listing.finished = false → ¬Passed s.listing.offset i changes)
    (onto : carried i changes = some j) (owes : s.Owes i member) :
    t.users[j]? = some raw ∧ t.Owes j member ∧
      (t.listing.finished = false → s.listing.finished = false ∧
        t.listing.offset = s.listing.offset + pageSize) := by
  have stays := carried_getElem? there onto
  rw [Exchange.round] at round
  cases finished : s.listing.finished with
  | true =>
    rw [if_pos finished] at round
    cases round
    rcases owes with gathered | ⟨unfinished, -⟩
    · exact ⟨stays, Or.inl gathered, fun unfinished => absurd finished (by simpa using unfinished)⟩
    · exact absurd finished (by simp [unfinished])
  | false =>
    rw [if_neg (by simp [finished])] at round
    obtain ⟨listing, turn, made⟩ := bind_ok.mp round
    cases pure_ok.mp made
    obtain ⟨run, moved, last⟩ := listTurn_page turn
    refine ⟨stays, ?_, fun _ => ⟨rfl, moved⟩⟩
    rcases owes with gathered | ⟨-, ahead⟩
    · obtain ⟨more, kept⟩ := gathered_keeps run
      exact Or.inl (by simp [kept, gathered])
    have meets : raw ∈ page (changed s.users changes) s.listing.offset pageSize ∨
        s.listing.offset + pageSize ≤ j :=
      page_meets there ahead (unpassed finished) onto
    rcases meets with held | beyond
    · exact Or.inl (mem_gathered run held decodes)
    · refine Or.inr ⟨?_, by rw [moved]; exact beyond⟩
      -- a last page would have held the record
      by_contra ended
      have within := lt_of_last_page stays (last (by simpa using ended))
      omega

theorem rounds_owe {s t : Exchange} {rounds : List (List (Change Json))} {i j : Nat} {raw : Json}
    {member : Member} (run : rounds.foldlM Exchange.round s = .ok t)
    (there : s.users[i]? = some raw) (decodes : decodeUser raw = .ok member)
    (unpassed : s.listing.finished = false → NeverPassed pageSize s.listing.offset i rounds)
    (onto : carried i rounds.flatten = some j) (owes : s.Owes i member) :
    t.users[j]? = some raw ∧ t.Owes j member := by
  induction rounds generalizing s i with
  | nil =>
    cases pure_ok.mp run
    cases Option.some.inj onto
    exact ⟨there, owes⟩
  | cons changes rounds ih =>
    obtain ⟨next, round, run⟩ := foldlM_cons_ok.mp run
    rw [List.flatten_cons, carried_append] at onto
    obtain ⟨k, first, later⟩ := Option.bind_eq_some_iff.mp onto
    obtain ⟨stays, owing, moved⟩ :=
      round_owes round there decodes (fun unfinished => (unpassed unfinished).1) first owes
    refine ih run stays (fun unfinished => ?_) later owing
    obtain ⟨before, offset⟩ := moved unfinished
    rw [offset]
    exact (unpassed before).2 k first

/-- A listing that returns has every record that was there throughout and was never taken from ahead
of the next page to behind it. -/
theorem listing_misses_nobody {users : List Json} {rounds : List (List (Change Json))}
    {s : Exchange} {i : Nat} {raw : Json} {member : Member} (run : listMembers users rounds = .ok s)
    (returned : s.listing.finished = true) (there : users[i]? = some raw)
    (throughout : (carried i rounds.flatten).isSome) (decodes : decodeUser raw = .ok member)
    (unpassed : NeverPassed pageSize 0 i rounds) : member ∈ s.listing.members := by
  obtain ⟨j, onto⟩ := Option.isSome_iff_exists.mp throughout
  have owed := rounds_owe run there decodes (fun _ => unpassed) onto (Or.inr ⟨rfl, Nat.zero_le i⟩)
  rcases owed.2 with gathered | ⟨unfinished, -⟩
  · exact gathered
  · exact absurd returned (by simp [unfinished])

/-! ### A record that goes while the listing runs -/

def userRecord (id : Int) : Json :=
  .obj [(str "id", .int id), (str "email", .str (str "ana@pdx.org")),
    (str "custom_user_properties",
      .obj [(str "membership-status", .arr [.obj [(str "label", .str (str "Lapsed"))]])])]

/-- A hundred records fill the first page, and the last one is the second page's. -/
def pageAndOne : List Json := List.replicate 100 (userRecord 1) ++ [userRecord 2]

/-- An earlier record is deleted between the two pages. -/
theorem listing_misses_last : ∃ member s, pageAndOne[100]? = some (userRecord 2) ∧
    decodeUser (userRecord 2) = .ok member ∧ carried 100 [Change.delete (α := Json) 0] = some 99 ∧
      listMembers pageAndOne [[], [.delete 0]] = .ok s ∧ s.listing.finished = true ∧
        member ∉ s.listing.members := by
  refine ⟨_, _, rfl, rfl, rfl, rfl, rfl, fun listed => ?_⟩
  exact absurd (List.mem_map_of_mem (f := fun m => m.stId) listed) (by decide +kernel)

/-- A record put in front of it keeps the last one ahead of the second page. -/
theorem listing_misses_nobody_kept : ∃ member s, decodeUser (userRecord 2) = .ok member ∧
    listMembers pageAndOne [[], [.insert 0 (userRecord 1)]] = .ok s ∧
      member ∈ s.listing.members := by
  obtain ⟨s, run, returned⟩ : ∃ s, listMembers pageAndOne [[], [.insert 0 (userRecord 1)]] = .ok s ∧
      s.listing.finished = true := ⟨_, rfl, rfl⟩
  obtain ⟨member, decodes⟩ : ∃ member, decodeUser (userRecord 2) = .ok member := ⟨_, rfl⟩
  have there : pageAndOne[100]? = some (userRecord 2) := rfl
  refine ⟨member, s, decodes, run, listing_misses_nobody run returned there rfl decodes ?_⟩
  simp [NeverPassed, Passed, carried, Change.carry, pageSize]

end Rosadmin
