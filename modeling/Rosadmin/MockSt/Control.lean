import Rosadmin.Foundation.Runs
import Rosadmin.MockSt.Bodies

/-!
# The control routes

Each route checks its body and drives one operation of the store.
-/

namespace Rosadmin.MockSt
open Foundation

/-- The body of a `/_control` request. -/
inductive Request where
  | setMember (email persona : Str) (discordId : Option Str)
  | deleteMember (email : Str)
  | setStanding (email standing : Str)
  | setLeadership (email field label : Str) (present : Bool)

/-- The refusals, with what their details name. -/
inductive Refusal where
  /-- `unknown persona {persona!r}` -/
  | unknownPersona (persona : Str)
  /-- `discord_id must be numeric` -/
  | nonNumericDiscordId
  /-- `unknown standing {standing!r}` -/
  | unknownStanding (standing : Str)
  /-- `unknown leadership field {field!r}` -/
  | unknownField (field : Str)
  /-- `unknown member {email!r}` -/
  | unknownMember (email : Str)

def Refusal.status : Refusal → Nat
  | unknownMember _ => 404
  | _ => 400

inductive Answer where
  | record (record : UserJson)
  | noContent
  | refused (refusal : Refusal)
  | raised (error : BuiltinError)

def standingValue : Standing → Str
  | .goodStanding => str "good_standing"
  | .lapsed => str "lapsed"

/-- `Standing(value)` -/
def standingOf (value : Str) : Option Standing :=
  [Standing.goodStanding, .lapsed].find? (standingValue · = value)

/-- A record that is not there is a 404. -/
def found (email : Str) : Option UserJson → Answer
  | some record => .record record
  | none => .refused (.unknownMember email)

def respond (store : RosterStore) : Request → Answer × RosterStore
  | .setMember email name discordId => match Persona.parse name with
    | none => (.refused (.unknownPersona name), store)
    | some persona =>
      if discordId.all isSnowflake then
        let (record, store) := store.set email persona discordId
        (.record record, store)
      else (.refused .nonNumericDiscordId, store)
  | .deleteMember email => (.noContent, store.delete email)
  | .setStanding email value => match standingOf value with
    | none => (.refused (.unknownStanding value), store)
    | some standing =>
      let (record, store) := store.setStanding email standing
      (found email record, store)
  | .setLeadership email field label present =>
    if field ∈ leadershipFields then
      match store.setLeadership email field label present with
      | .ok (record, store) => (found email record, store)
      | .error error => (.raised error, store)
    else (.refused (.unknownField field), store)

/-- The operation a request that passes its checks drives. -/
def Request.operation : Request → Option Operation
  | .setMember email name discordId => do
    let persona ← Persona.parse name
    if discordId.all isSnowflake then some (.set email persona discordId) else none
  | .deleteMember email => some (.delete email)
  | .setStanding email value => (standingOf value).map (.setStanding email ·)
  | .setLeadership email field label present =>
    if known : field ∈ leadershipFields then some (.setLeadership email field known label present)
      else none

/-! ### Requests drive operations -/

theorem respond_store (store : RosterStore) (request : Request) :
    (respond store request).2 = request.operation.elim store store.apply := by
  cases request with
  | setMember email name discordId =>
    rw [respond, Request.operation]
    cases Persona.parse name with
    | none => rfl
    | some persona =>
      rw [Option.bind_eq_bind, Option.bind_some]
      dsimp only
      split <;> rfl
  | deleteMember email => rfl
  | setStanding email value =>
    rw [respond, Request.operation]
    cases standingOf value <;> rfl
  | setLeadership email field label present =>
    rw [respond, Request.operation]
    by_cases known : field ∈ leadershipFields
    · rw [if_pos known, dif_pos known, Option.elim_some, RosterStore.apply]
      cases store.setLeadership email field label present <;> rfl
    · rw [if_neg known, dif_neg known]
      rfl

/-- What requests leave is what a sequence of operations leaves. -/
theorem requests_run (store : RosterStore) (requests : List Request) :
    requests.foldl (fun store request => (respond store request).2) store =
      (requests.filterMap Request.operation).foldl RosterStore.apply store := by
  induction requests generalizing store with
  | nil => rfl
  | cons request requests ih =>
    rw [List.foldl_cons, ih, respond_store, List.filterMap_cons]
    cases request.operation <;> rfl

/-- An email that is not on the roster is nothing to change. -/
theorem setStanding_absent {store : RosterStore} {email : Str} {standing : Standing}
    (absent : (store.setStanding email standing).1 = none) :
    (store.setStanding email standing).2 = store := by
  unfold RosterStore.setStanding at absent ⊢
  cases here : store.records.get? email with
  | none => rfl
  | some record =>
    rw [here] at absent
    cases absent

theorem setLeadership_absent {store later : RosterStore} {email field label : Str} {present : Bool}
    (absent : store.setLeadership email field label present = .ok (none, later)) :
    later = store := by
  unfold RosterStore.setLeadership at absent
  cases here : store.records.get? email with
  | none =>
    rw [here] at absent
    cases absent
    rfl
  | some record =>
    rw [here] at absent
    obtain ⟨props, -, made⟩ := bind_ok.mp absent
    cases pure_ok.mp made

theorem found_refused {email : Str} {record : Option UserJson} {refusal : Refusal}
    (refused : found email record = .refused refusal) : record = none := by
  cases record with
  | none => rfl
  | some record => cases refused

/-- A request that is refused leaves the roster as it is. -/
theorem refused_unchanged {store : RosterStore} {request : Request} {refusal : Refusal}
    (refused : (respond store request).1 = .refused refusal) :
    (respond store request).2 = store := by
  cases request with
  | setMember email name discordId =>
    rw [respond] at refused ⊢
    cases parsed : Persona.parse name with
    | none => rfl
    | some persona =>
      rw [parsed] at refused
      dsimp only at refused ⊢
      split at refused
      · cases refused
      · rename_i nonNumeric
        rw [if_neg nonNumeric]
  | deleteMember email => cases refused
  | setStanding email value =>
    rw [respond] at refused ⊢
    cases read : standingOf value with
    | none => rfl
    | some standing =>
      rw [read] at refused
      exact setStanding_absent (found_refused refused)
  | setLeadership email field label present =>
    rw [respond] at refused ⊢
    by_cases known : field ∈ leadershipFields
    · rw [if_pos known] at refused ⊢
      cases made : store.setLeadership email field label present with
      | error failure => rfl
      | ok answer =>
        rw [made] at refused
        obtain ⟨record, later⟩ := answer
        obtain rfl := found_refused refused
        exact setLeadership_absent made
    · rw [if_neg known]

/-! ### No request raises -/

def AllListed (store : RosterStore) : Prop := ∀ email record,
    store.records.get? email = some record →
  ∀ field ∈ leadershipFields, Listed record.customProps field

theorem start_listed (parsed : List RosterEntry) : AllListed (.ofEntries parsed) := by
  intro email record here field known
  obtain ⟨-, entry, -, generated⟩ := generate_record here
  rw [generated]
  exact userJson_listed _ _ _ _ known

theorem apply_listed {store : RosterStore} (listed : AllListed store) (op : Operation) :
    AllListed (store.apply op) := by
  intro email record found key other
  rcases get?_apply found with before | written
  · exact listed email record before key other
  · cases written with
    | generated persona discordId => exact userJson_listed _ _ _ _ other
    | standing before standing =>
      exact withStanding_listed standing other (listed email _ before key other)
    | leadership before known label present =>
      exact turned_listed (listed email _ before _ known) label present other
        (listed email _ before key other)

theorem respond_answers {store : RosterStore} (listed : AllListed store) (request : Request)
    (error : BuiltinError) : (respond store request).1 ≠ .raised error := by
  cases request with
  | setMember email name discordId =>
    rw [respond]
    cases Persona.parse name with
    | none => exact Answer.noConfusion
    | some persona =>
      dsimp only
      split <;> exact Answer.noConfusion
  | deleteMember email => exact Answer.noConfusion
  | setStanding email value =>
    rw [respond]
    cases standingOf value with
    | none => exact Answer.noConfusion
    | some standing =>
      dsimp only [RosterStore.setStanding]
      cases store.records.get? email <;> exact Answer.noConfusion
  | setLeadership email field label present =>
    rw [respond]
    by_cases known : field ∈ leadershipFields
    · rw [if_pos known, RosterStore.setLeadership]
      cases here : store.records.get? email with
      | none => exact Answer.noConfusion
      | some record =>
        dsimp only
        rw [turnBody_listed (listed email record here field known)]
        exact Answer.noConfusion
    · rw [if_neg known]
      exact Answer.noConfusion

/-- Whatever map the mock starts from and whatever requests came before, every request is
answered. -/
theorem requests_answered (parsed : List RosterEntry) (requests : List Request) (request : Request)
    (error : BuiltinError) :
    (respond (requests.foldl (fun store request => (respond store request).2) (.ofEntries parsed))
      request).1 ≠ .raised error := by
  have kept : ∀ store op, AllListed store → AllListed (store.apply op) :=
    fun _ op listed => apply_listed listed op
  rw [requests_run]
  exact respond_answers (invariant_of_forall kept (start_listed parsed) _) request error

end Rosadmin.MockSt
