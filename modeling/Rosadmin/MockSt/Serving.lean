import Rosadmin.Foundation.Folding
import Rosadmin.Membership.Requests
import Rosadmin.MockSt.Control

/-!
# Reading the mock

What the client makes of the served roster, whatever the operator did to it and
whichever requests the server refuses on the way.
-/

namespace Rosadmin.MockSt
open Foundation

/-- The top-level email equals `wanted`, case folded; a null email never does. -/
def UserJson.emailed (wanted : Str) (record : UserJson) : Bool :=
  record.email.any (casefold · = casefold wanted)

def filterByEmail (rows : List UserJson) (wanted : Str) : List UserJson :=
  rows.filter (UserJson.emailed wanted)

def listUsers (store : RosterStore) (params : UsersParams) : Json :=
  let roster := store.asRecords
  let rows := params.email.elim roster (filterByEmail roster)
  let offset := params.offset.getD 0
  .obj [(str "data", .arr (page (rows.map UserJson.toJson) offset params.limit)),
    (str "meta", .obj [(str "total_count", .int rows.length), (str "limit", .int params.limit),
      (str "offset", .int offset)])]

/-- The roster after an operator's requests. -/
def servedStore (parsed : List RosterEntry) (ops : List Operation) : RosterStore :=
  ops.foldl RosterStore.apply (.ofEntries parsed)

/-! ### What every record looks like -/

/-- A status is missing or has a label, and the email is the one the record is kept under, or
missing. -/
structure Formed (email : Str) (record : UserJson) : Prop where
  status : record.customProps.get? (str "membership-status") = none ∨
    ∃ label, record.customProps.get? (str "membership-status") = some (statusProp label)
  email : record.email = none ∨ record.email = some email

def AllFormed (store : RosterStore) : Prop := ∀ email record,
    store.records.get? email = some record → Formed email record

theorem userJson_formed (persona : Persona) (stId : Nat) (email : Str) (discordId : Option Str) :
    Formed email (persona.userJson stId email discordId) := by
  by_cases formed : persona = .malformed
  · rw [formed]
    exact ⟨.inl rfl, .inl rfl⟩
  · constructor
    · rw [userJson_customProps _ _ _ _ formed, customProps_status]
      cases persona.label with
      | none => exact .inl rfl
      | some label => exact .inr ⟨label, rfl⟩
    · rw [Persona.userJson, if_neg formed]
      exact .inr rfl

theorem apply_formed {store : RosterStore} (listed : AllListed store) (formed : AllFormed store)
    (op : Operation) : AllFormed (store.apply op) := by
  intro email record found
  rcases get?_apply found with before | written
  · exact formed email record before
  · cases written with
    | generated persona discordId => exact userJson_formed _ _ _ _
    | @standing _ old before standing =>
      refine ⟨.inr ⟨standingLabel standing, ?_⟩, (formed email old before).email⟩
      exact (Dict.get?_set ..).trans (if_pos rfl)
    | @leadership _ field old before known label present =>
      refine ⟨?_, (formed email old before).email⟩
      have other : str "membership-status" ≠ field := Ne.symm (field_apart known).1
      rw [UserJson.patch, get?_turned (listed email old before field known) _ _ (by decide),
        if_neg other]
      exact (formed email old before).status

theorem start_formed (parsed : List RosterEntry) : AllFormed (.ofEntries parsed) := by
  intro email record here
  obtain ⟨-, entry, -, generated⟩ := generate_record here
  rw [generated]
  exact userJson_formed _ _ _ _

theorem servedStore_formed (parsed : List RosterEntry) (ops : List Operation) :
    AllFormed (servedStore parsed ops) := by
  have kept : ∀ store op, AllListed store ∧ AllFormed store →
      AllListed (store.apply op) ∧ AllFormed (store.apply op) :=
    fun store op both => ⟨apply_listed both.1 op, apply_formed both.1 both.2 op⟩
  exact (invariant_of_forall kept ⟨start_listed parsed, start_formed parsed⟩ ops).2

/-! ### The client at the mock -/

section
variable {email : Str} {record : UserJson}

/-- Nothing the mock serves is more than a record to skip. -/
theorem Formed.tolerated (formed : Formed email record) : Tolerated (decodeUser record.toJson) := by
  refine (decodeUser_tolerated _).mpr ?_
  have status : statusShaped record.customProps.items = true := by
    rw [statusShaped, field, find_items]
    rcases formed.status with absent | ⟨label, written⟩
    · rw [absent]
      rfl
    · rw [written]
      rfl
  have custom : customShaped (.obj record.customProps.items) = true := status
  have shaped : wellShaped record.toJson =
      (!(orNull record.email).truthy || (true && customShaped (.obj record.customProps.items))) :=
        rfl
  rw [shaped, custom]
  exact Bool.or_true _

/-- The status never says that the email is missing. -/
theorem Formed.standing (formed : Formed email record) (id : Json) :
    decodeStanding (.obj record.customProps.items) ≠ .error (.malformedMember id) := by
  rw [decodeStanding, raising_items, ok_bind]
  rcases formed.status with absent | ⟨label, written⟩
  · rw [absent]
    rintro ⟨⟩
  · have own : raising ((selectEntry label).get (str "label")) = .ok (.str label) := rfl
    rw [written]
    simp only [statusProp, selectProp, Option.getD_some, List.map_cons, List.map_nil, own, ok_bind]
    cases standingByLabel label <;> rintro ⟨⟩

theorem emailed_iff {wanted : Str} : record.emailed wanted = true ↔
    ∃ address, record.email = some address ∧ casefold address = casefold wanted := by
  rw [UserJson.emailed, Option.any_eq_true]
  simp

theorem malformed_iff (formed : Formed email record) : malformed record.toJson ↔
    ¬Addressed record := by
  constructor
  · rintro ⟨id, failed⟩ addressed
    rw [decodeUser_toJson addressed] at failed
    obtain ⟨alternateEmail, alternate⟩ := decodeAlternateEmail_ok record.customProps.items
    obtain ⟨discordId, discord⟩ := decodeDiscordId_ok record.customProps.items
    obtain ⟨isChapterLeader, flag⟩ := decodeChapterLeader_ok record.customProps.items
    obtain ⟨leads, led⟩ := decodeLeads_ok record.customProps.items
    simp only [alternate, discord, flag, led, ok_bind] at failed
    cases status : decodeStanding (.obj record.customProps.items) with
    | ok standing =>
      rw [status] at failed
      cases failed
    | error failure =>
      rw [status] at failed
      cases failed
      exact formed.standing _ status
  · intro unaddressed
    have email : record.toJson.get (str "email") = .ok (orNull record.email) := rfl
    have id : record.toJson.get (str "id") = .ok (.int record.id) := rfl
    have missing : (orNull record.email).truthy = false :=
      eq_false_of_ne_true fun given => unaddressed (orNull_truthy.mp given)
    refine ⟨.int record.id, ?_⟩
    simp [decodeUser, email, id, raising, ok_bind, missing]

end

/-- What a listing of the mock comes to. -/
structure StorePulled (store : RosterStore) (server : Nat → UsersParams → Option HttpReply)
    (s : Pace) (result : Except PullError Listing) (t : Pace) : Prop where
  whole : ∀ listing, result = .ok listing →
    listing.finished = true ∧ listing.members = store.asRecords.filterMap fun record =>
      decoded record.toJson
  raised : ∀ error, result = .error error → Provoked server error
  refused : result = .error (.httpStatus 429) → RefusedLast server t
  sent : t.sent ≤ s.sent + rateLimitAttempts * (store.asRecords.length / pageSize + 1)

/-- What a lookup at the mock comes to. -/
structure StoreSearched (store : RosterStore) (server : Nat → UsersParams → Option HttpReply)
    (wanted : Str) (result : Except PullError (Option Member)) (t : Pace) : Prop where
  found : ∀ member, result = .ok (some member) → ∃ record ∈ store.asRecords,
    record.emailed wanted = true ∧ decodeUser record.toJson = .ok member
  none : result = .ok none → ∀ record ∈ store.asRecords, record.emailed wanted = true →
    decoded record.toJson = none
  failed : ∀ failure, result = .error (.decode failure) → ∃ record ∈ store.asRecords,
    record.emailed wanted = true ∧ Addressed record ∧ decodeUser record.toJson = .error failure
  refused : result = .error (.httpStatus 429) → RefusedLast server t

section
variable {float : Str → Option Double} {server : Nat → UsersParams → Option HttpReply}
    {store : RosterStore}

theorem formed_record (formed : AllFormed store) {record : UserJson}
    (there : record ∈ store.asRecords) : ∃ email, Formed email record := by
  obtain ⟨email, held⟩ := mem_asRecords.mp there
  exact ⟨email, formed email record held⟩

theorem store_pulled (formed : AllFormed store) (honest : Honest (listUsers store) server)
    (s : Pace) : StorePulled store server s
      (listMembersOver float server (store.asRecords.length / pageSize + 1) .start s).1
      (listMembersOver float server (store.asRecords.length / pageSize + 1) .start s).2 := by
  let rows := store.asRecords.map UserJson.toJson
  have served : ∀ offset, listUsers store ⟨pageSize, some offset, none⟩ =
      (countedPage rows offset).body := by
    intro offset
    have count : rows.length = store.asRecords.length := List.length_map ..
    simp only [listUsers, countedPage, usersPage, Option.elim_none, Option.getD_some, count]
    rfl
  have tolerated : ∀ raw ∈ rows, Tolerated (decodeUser raw) := by
    intro raw member
    obtain ⟨record, there, rfl⟩ := List.mem_map.mp member
    obtain ⟨email, shape⟩ := formed_record formed there
    exact shape.tolerated
  have whole : reading (countedPage rows) Listing.start.offset
      (store.asRecords.length / pageSize + 1) = (rows, true) := by
    refine reading_rest ⟨fun _ => rfl, fun _ => .inr rfl⟩ ?_
    rw [List.length_map]
    exact Nat.lt_succ_self _
  obtain ⟨t, run, members, finished⟩ :=
    @listLoop_reads (countedPage rows) (store.asRecords.length / pageSize + 1) .start rfl
      (by rw [whole]; exact tolerated)
  rw [whole] at members finished
  have plain := @listMembersOver_reads float server _ honest (countedPage rows) served
    (store.asRecords.length / pageSize + 1) .start s
  rw [run] at plain
  refine ⟨?_, ?_, plain.refused, plain.sent⟩
  · intro listing returned
    obtain rfl := Except.ok.inj (plain.ok listing returned)
    refine ⟨finished, members.trans ?_⟩
    exact (List.nil_append _).trans List.filterMap_map
  · intro error failed
    rcases plain.raised error failed with provoked | ⟨failure, rfl⟩
    · exact provoked
    · cases plain.failed failure failed

theorem casefold_eq_nil {text : Str} : casefold text = [] ↔ text = [] := by
  constructor
  · intro folded
    cases text with
    | nil => rfl
    | cons c text => exact absurd (List.append_eq_nil_iff.mp folded).1 (foldChar_ne_nil c)
  · rintro rfl
    rfl

theorem unaddressed_alike {wanted : Str} {record other : UserJson}
    (asked : record.emailed wanted = true) (alike : other.emailed wanted = true)
    (unaddressed : ¬Addressed record) : ¬Addressed other := by
  obtain ⟨address, here, folds⟩ := emailed_iff.mp asked
  obtain ⟨second, there, folds'⟩ := emailed_iff.mp alike
  have empty : address = [] := by
    by_contra filled
    exact unaddressed ⟨address, here, filled⟩
  rw [empty, casefold_eq_nil.mpr rfl] at folds
  rintro ⟨email, given, filled⟩
  obtain rfl := Option.some.inj (there.symm.trans given)
  exact filled (casefold_eq_nil.mp (folds'.trans folds.symm))

theorem store_searched (formed : AllFormed store) (honest : Honest (listUsers store) server)
    (wanted : Str) (s : Pace) :
    StoreSearched store server wanted (findByEmail float server wanted s).1
      (findByEmail float server wanted s).2 := by
  let rows := filterByEmail store.asRecords wanted
  let data := page (rows.map UserJson.toJson) 0 pageSize
  have served : getOr (listUsers store ⟨pageSize, none, some wanted⟩) (str "data") (.arr []) =
    .ok (.arr data) := rfl
  have plain := @findByEmail_reads float server _ honest wanted data served s
  have row : ∀ raw ∈ data, ∃ record ∈ store.asRecords, record.emailed wanted = true ∧
      raw = record.toJson := by
    intro raw member
    obtain ⟨record, there, rfl⟩ :=
      List.mem_map.mp (List.mem_of_mem_drop (List.mem_of_mem_take member))
    obtain ⟨held, asked⟩ := List.mem_filter.mp there
    exact ⟨record, held, asked, rfl⟩
  refine ⟨?_, ?_, ?_, plain.refused⟩
  · intro member found
    have read := plain.ok _ found
    rcases firstMember_cases data with ⟨none, -⟩ | ⟨before, raw, after, split, -, decided⟩
    · cases none.symm.trans read
    · obtain ⟨record, held, asked, rfl⟩ := row raw (by rw [split]; simp)
      rcases decided with ⟨same, decodes, result⟩ | ⟨failure, -, -, result⟩
      · cases result.symm.trans read
        exact ⟨record, held, asked, decodes⟩
      · cases result.symm.trans read
  · intro missing record held asked
    have read := plain.ok _ missing
    rcases firstMember_cases data with ⟨-, all⟩ | ⟨before, raw, after, -, -, decided⟩
    · -- the page starts with a record that has no email, so the folded email is empty
      have there : record ∈ rows := List.mem_filter.mpr ⟨held, asked⟩
      obtain ⟨first, rest, cut⟩ := List.exists_cons_of_ne_nil (List.ne_nil_of_mem there)
      have onPage : first.toJson ∈ data := by
        simp only [data, page, cut, List.map_cons, List.drop_zero]
        exact List.mem_cons_self
      have firstThere : first ∈ rows := by
        rw [cut]
        exact List.mem_cons_self
      obtain ⟨firstHeld, firstAsked⟩ := List.mem_filter.mp firstThere
      obtain ⟨email, shape⟩ := formed_record formed firstHeld
      have unaddressed := unaddressed_alike firstAsked asked
        ((malformed_iff shape).mp (all _ onPage))
      cases decodes : decodeUser record.toJson with
      | error failure => rw [decoded, decodes]; rfl
      | ok member => exact absurd decodes (decodeUser_unaddressed unaddressed member)
    · rcases decided with ⟨member, -, result⟩ | ⟨failure, -, -, result⟩ <;>
        cases result.symm.trans read
  · intro failure failed
    have read := plain.failed _ failed
    rcases firstMember_cases data with ⟨none, -⟩ | ⟨before, raw, after, split, -, decided⟩
    · cases none.symm.trans read
    · obtain ⟨record, held, asked, rfl⟩ := row raw (by rw [split]; simp)
      rcases decided with ⟨member, -, result⟩ | ⟨other, decodes, present, result⟩
      · cases result.symm.trans read
      · cases result.symm.trans read
        obtain ⟨email, shape⟩ := formed_record formed held
        refine ⟨record, held, asked, ?_, decodes⟩
        by_contra unaddressed
        exact present ((malformed_iff shape).mpr unaddressed)

end

def krisAndNobody : List RosterEntry :=
  parseMap (str "kris@example.com=good_standing, nobody@example.com=malformed")

example : krisAndNobody =
    [⟨str "kris@example.com", .goodStanding, none⟩, ⟨str "nobody@example.com", .malformed, none⟩] :=
      rfl

/-- The first request is refused, all others are answered. -/
def refusesFirst (store : RosterStore) (n : Nat) (params : UsersParams) : Option HttpReply :=
  some (if n = 0 then ⟨429, some (str "1"), .null⟩ else ⟨200, none, listUsers store params⟩)

/-- The operator lapses one of them. -/
def krisLapses : List Request := [.setStanding (str "kris@example.com") (str "lapsed")]

def krisLapsed : RosterStore :=
  krisLapses.foldl (fun store request => (respond store request).2) (.ofEntries krisAndNobody)

end Rosadmin.MockSt
