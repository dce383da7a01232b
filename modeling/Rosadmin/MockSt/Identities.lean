import Mathlib.Logic.Function.Basic
import Rosadmin.Foundation.Runs
import Rosadmin.MockSt.Bodies

/-!
# Identities over a run

A record is generated anew from its persona, so who a member is survives only
in the record that is replaced. `Malformed` serves no properties: a Discord id
that was given is not there to be taken over after it.
-/

namespace Rosadmin.MockSt
open Foundation

/-! ### Which parts of a record carry the identity -/

@[simp] theorem discordIdOf_userJson (persona : Persona) (stId : Nat) (email : Str)
    (discordId : Option Str) : discordIdOf (some (persona.userJson stId email discordId)) =
      if persona = .malformed then none else some (discordId.getD (syntheticId stId)) := by
  unfold discordIdOf
  by_cases formed : persona = .malformed
  · rw [if_pos formed, formed]
    rfl
  · rw [if_neg formed, Option.bind_some, userJson_customProps _ _ _ _ formed, customProps_discordId]

theorem withStanding_discordId (standing : Standing) (props : Dict Str Json) :
    (withStanding standing props).get? (str "discord-user-id") =
      props.get? (str "discord-user-id") := by
  rw [withStanding, Dict.get?_set, if_neg (by decide)]

theorem turned_discordId {field : Str} (known : field ∈ leadershipFields) (label : Str)
    (present : Bool) (props : Dict Str Json) :
    (turned field label present props).get? (str "discord-user-id") =
      props.get? (str "discord-user-id") := by
  have apart : str "discord-user-id" ≠ field := by
    have unlisted : str "discord-user-id" ∉ leadershipFields := by decide
    intro same
    exact unlisted (same ▸ known)
  unfold turned
  cases made : turnBody props field label present with
  | error failure => rfl
  | ok after =>
    obtain ⟨listed, -, made⟩ := bind_ok.mp made
    obtain ⟨kept, -, made⟩ := bind_ok.mp made
    rw [← pure_ok.mp made, Except.toOption, Option.getD_some, reflag_other _ _ (by decide),
      get?_relist, if_neg apart]

namespace RosterStore

def idOf (store : RosterStore) (email : Str) : Option Nat := (store.records.get? email).map (·.id)

def discordOf (store : RosterStore) (email : Str) : Option Str :=
  discordIdOf (store.records.get? email)

end RosterStore

section
variable {store later : RosterStore} {email : Str}

theorem patches_identities {change : Dict Str Json → Dict Str Json}
    (patches : Patches store later email change)
    (kept : ∀ props, (change props).get? (str "discord-user-id") =
      props.get? (str "discord-user-id")) :
    later.idOf = store.idOf ∧ later.discordOf = store.discordOf := by
  constructor
  · funext other
    rw [RosterStore.idOf, RosterStore.idOf, patches.records]
    split
    · rename_i here
      rw [here, Option.map_map]
      rfl
    · rfl
  · funext other
    rw [RosterStore.discordOf, RosterStore.discordOf, patches.records]
    split
    · rename_i here
      rw [here]
      cases store.records.get? email with
      | none => rfl
      | some record =>
        rw [Option.map_some, discordIdOf, discordIdOf, Option.bind_some, Option.bind_some,
          UserJson.patch, kept]
    · rfl

/-- The id a swap keeps, or the one that a new email is handed. -/
def takenId (store : RosterStore) (email : Str) : Nat := (store.idOf email).getD store.nextId

theorem set_idOf (persona : Persona) (discordId : Option Str) (other : Str) :
    (store.apply (.set email persona discordId)).idOf other =
      if other = email then some (takenId store email) else store.idOf other := by
  rw [RosterStore.idOf, apply_set]
  split
  · rw [Option.map_some, RosterStore.set, userJson_id]
    rfl
  · rfl

theorem set_discordOf (persona : Persona) (discordId : Option Str) (other : Str) :
    (store.apply (.set email persona discordId)).discordOf other = if other = email then
      (if persona = .malformed then none
        else some ((discordId.or (store.discordOf email)).getD (syntheticId (takenId store email))))
      else store.discordOf other := by
  rw [RosterStore.discordOf, apply_set]
  split
  · rw [RosterStore.set, discordIdOf_userJson]
    rfl
  · rfl

theorem set_nextId (persona : Persona) (discordId : Option Str) :
    (store.apply (.set email persona discordId)).nextId =
      if (store.idOf email).isSome then store.nextId else store.nextId + 1 := by
  rw [RosterStore.apply, RosterStore.set, RosterStore.idOf, Option.isSome_map]

theorem delete_idOf (other : Str) :
    (store.apply (.delete email)).idOf other = if other = email then none
      else store.idOf other := by
  rw [RosterStore.idOf, apply_delete]
  split <;> rfl

theorem delete_discordOf (other : Str) :
    (store.apply (.delete email)).discordOf other = if other = email then none
      else store.discordOf other := by
  rw [RosterStore.discordOf, apply_delete]
  split <;> rfl

end

/-! ### What the roster owes -/

/-- The store, and beside it: the id each email came on the roster with, its persona, and the
Discord id it was last given. -/
structure Traced where
  store : RosterStore
  joined : Str → Option Nat
  persona : Str → Option Persona
  given : Str → Option Str

/-- An id that is given to a persona which serves none is on no record. -/
def carriable (persona : Persona) (discordId : Option Str) : Option Str :=
  if persona = .malformed then none else discordId

def Traced.start (parsed : List RosterEntry) : Traced where
  store := .ofEntries parsed
  joined email := ((RosterStore.ofEntries parsed).records.get? email).map (·.id)
  persona email := (lastEntry parsed email).map (·.persona)
  given email := (lastEntry parsed email).bind fun entry => carriable entry.persona entry.discordId

def personasAfter (personas : Str → Option Persona) : Operation → Str → Option Persona
  | .set email persona _ => Function.update personas email (some persona)
  | .delete email => Function.update personas email none
  | _ => personas

def givenAfter (given : Str → Option Str) : Operation → Str → Option Str
  | .set email persona (some discordId) =>
      Function.update given email (carriable persona (some discordId))
  | .delete email => Function.update given email none
  | _ => given

/-- The email of a new record joins with the id that the record has. -/
def Traced.step (t : Traced) (op : Operation) : Traced where
  store := t.store.apply op
  joined email := ((t.store.apply op).records.get? email).map fun record =>
    (t.joined email).getD record.id
  persona := personasAfter t.persona op
  given := givenAfter t.given op

structure KeepsIdentities (t : Traced) : Prop where
  distinct : (t.store.asRecords.map (·.id)).Nodup
  stable : ∀ email record, t.store.records.get? email = some record →
    t.joined email = some record.id
  carried : ∀ email discordId, t.given email = some discordId → t.persona email ≠ some .malformed →
    discordIdOf (t.store.records.get? email) = some discordId

/-- A swap away from `Malformed` without an id, at an email whose given id is not the synthetic
one. -/
def Clobbers (t : Traced) (op : Operation) : Prop :=
  ∃ email persona record discordId, op = .set email persona none ∧ persona ≠ .malformed ∧
    t.store.records.get? email = some record ∧ t.persona email = some .malformed ∧
      t.given email = some discordId ∧ discordId ≠ syntheticId record.id

/-! ### The ids -/

/-- The ids are distinct, and the next one is new. -/
structure Numbered (store : RosterStore) : Prop where
  below : ∀ email id, store.idOf email = some id → id < store.nextId
  apart : ∀ email other id, store.idOf email = some id → store.idOf other = some id → email = other

theorem start_numbered (parsed : List RosterEntry) : Numbered (.ofEntries parsed) where
  below email id found := by
    obtain ⟨record, here, rfl⟩ := Option.map_eq_some_iff.mp found
    have item : (email, record) ∈ (RosterStore.generate parsed).items :=
      Dict.get?_eq_some_iff.mp here
    have listed : record.id ∈ (RosterStore.generate parsed).items.map (·.2.id) :=
      List.mem_map_of_mem (f := fun e : Str × UserJson => e.2.id) item
    exact Nat.lt_succ_of_le (List.le_max?_getD_of_mem listed)
  apart email other id found again := by
    obtain ⟨record, here, rfl⟩ := Option.map_eq_some_iff.mp found
    obtain ⟨same, there, sameId⟩ := Option.map_eq_some_iff.mp again
    exact generate_apart here there sameId.symm

section
variable {store : RosterStore} (numbered : Numbered store)
include numbered

theorem delete_numbered (email : Str) : Numbered (store.apply (.delete email)) where
  below other id found := by
    rw [delete_idOf] at found
    split at found
    · cases found
    · exact numbered.below other id found
  apart one other id found again := by
    rw [delete_idOf] at found again
    split at found
    · cases found
    · split at again
      · cases again
      · exact numbered.apart one other id found again

theorem takenId_apart {email other : Str} (apart : other ≠ email) :
    store.idOf other ≠ some (takenId store email) := by
  intro taken
  unfold takenId at taken
  cases before : store.idOf email with
  | none =>
    rw [before, Option.getD_none] at taken
    exact absurd (numbered.below other _ taken) (Nat.lt_irrefl _)
  | some id =>
    rw [before, Option.getD_some] at taken
    exact apart (numbered.apart other email id taken before)

theorem takenId_below (email : Str) (persona : Persona) (discordId : Option Str) :
    takenId store email < (store.apply (.set email persona discordId)).nextId ∧
      store.nextId ≤ (store.apply (.set email persona discordId)).nextId := by
  rw [set_nextId]
  unfold takenId
  cases before : store.idOf email with
  | none => exact ⟨Nat.lt_succ_self _, Nat.le_succ _⟩
  | some id => exact ⟨numbered.below email id before, Nat.le_refl _⟩

theorem set_numbered (email : Str) (persona : Persona) (discordId : Option Str) :
    Numbered (store.apply (.set email persona discordId)) where
  below other id found := by
    obtain ⟨taken, later⟩ := takenId_below numbered email persona discordId
    rw [set_idOf] at found
    split at found
    · cases found
      exact taken
    · exact Nat.lt_of_lt_of_le (numbered.below other id found) later
  apart one other id found again := by
    rw [set_idOf] at found again
    split at found
    · rename_i here
      cases found
      split at again
      · rename_i there
        exact here.trans there.symm
      · rename_i apart
        exact absurd again (takenId_apart numbered apart)
    · rename_i apart
      split at again
      · cases again
        exact absurd found (takenId_apart numbered apart)
      · exact numbered.apart one other id found again

theorem patched_numbered {later : RosterStore} {email : Str}
    {change : Dict Str Json → Dict Str Json} (patches : Patches store later email change)
    (kept : ∀ props, (change props).get? (str "discord-user-id") =
      props.get? (str "discord-user-id")) : Numbered later := by
  obtain ⟨ids, -⟩ := patches_identities patches kept
  refine ⟨?_, ?_⟩
  · rw [ids, patches.nextId]
    exact numbered.below
  · rw [ids]
    exact numbered.apart

theorem apply_numbered (op : Operation) : Numbered (store.apply op) := by
  cases op with
  | set email persona discordId => exact set_numbered numbered email persona discordId
  | delete email => exact delete_numbered numbered email
  | setStanding email standing =>
    exact patched_numbered numbered (apply_setStanding standing) (withStanding_discordId standing)
  | setLeadership email field known label present =>
    exact patched_numbered numbered (apply_setLeadership known label present)
      (turned_discordId known label present)

end

theorem apply_idOf {store : RosterStore} {op : Operation} {email : Str} {id : Nat}
    (before : store.idOf email = some id) (stays : (store.apply op).idOf email ≠ none) :
    (store.apply op).idOf email = some id := by
  cases op with
  | set other persona discordId =>
    rw [set_idOf]
    split
    · rename_i here
      rw [takenId, ← here, before]
      rfl
    · exact before
  | delete other =>
    rw [delete_idOf] at stays ⊢
    split
    · rename_i here
      exact absurd (if_pos here) stays
    · exact before
  | setStanding other standing =>
    rw [(patches_identities (apply_setStanding standing) (withStanding_discordId standing)).1]
    exact before
  | setLeadership other field known label present =>
    rw [(patches_identities (apply_setLeadership known label present)
      (turned_discordId known label present)).1]
    exact before

/-! ### What holds of the trace in every run -/

structure Sound (t : Traced) : Prop where
  numbered : Numbered t.store
  joined : t.joined = t.store.idOf
  bare : ∀ email, t.persona email = some .malformed → t.store.discordOf email = none
  absent : ∀ email, t.store.idOf email = none → t.given email = none

theorem start_sound (parsed : List RosterEntry) : Sound (.start parsed) where
  numbered := start_numbered parsed
  joined := rfl
  bare email formless := by
    show discordIdOf ((RosterStore.generate parsed).get? email) = none
    cases found : (RosterStore.generate parsed).get? email with
    | none => rfl
    | some record =>
      obtain ⟨-, entry, last, generated⟩ := generate_record found
      have formless : (lastEntry parsed email).map (·.persona) = some .malformed := formless
      rw [last] at formless
      rw [generated, discordIdOf_userJson, if_pos (Option.some.inj formless)]
  absent email absent := by
    show (lastEntry parsed email).bind _ = none
    rw [generate_absent (Option.map_eq_none_iff.mp absent)]
    rfl

section
variable {t : Traced} (sound : Sound t)
include sound

theorem step_joined (op : Operation) : (t.step op).joined = (t.step op).store.idOf := by
  funext email
  show ((t.store.apply op).records.get? email).map (fun record => (t.joined email).getD record.id) =
    (t.store.apply op).idOf email
  cases found : (t.store.apply op).records.get? email with
  | none => rw [RosterStore.idOf, found]; rfl
  | some record =>
    have now : (t.store.apply op).idOf email = some record.id :=
      by rw [RosterStore.idOf, found]; rfl
    rw [now, Option.map_some, sound.joined]
    cases before : t.store.idOf email with
    | none => rfl
    | some id =>
      have same := apply_idOf before (by rw [now]; exact Option.some_ne_none _)
      rw [← now, same]
      rfl

theorem set_sound (email : Str) (persona : Persona) (discordId : Option Str) :
    Sound (t.step (.set email persona discordId)) where
  numbered := apply_numbered sound.numbered (.set email persona discordId)
  joined := step_joined sound _
  bare other formless := by
    have formless : Function.update t.persona email (some persona) other = some .malformed :=
      formless
    show (t.store.apply (.set email persona discordId)).discordOf other = none
    rw [set_discordOf]
    by_cases here : other = email
    · rw [here, Function.update_self] at formless
      rw [if_pos here, if_pos (Option.some.inj formless)]
    · rw [Function.update_of_ne here] at formless
      rw [if_neg here, sound.bare other formless]
  absent other gone := by
    have gone : (t.store.apply (.set email persona discordId)).idOf other = none := gone
    show givenAfter t.given (.set email persona discordId) other = none
    rw [set_idOf] at gone
    by_cases here : other = email
    · rw [if_pos here] at gone
      cases gone
    · rw [if_neg here] at gone
      have before := sound.absent other gone
      cases discordId with
      | none => exact before
      | some discordId => exact (Function.update_of_ne here ..).trans before

theorem delete_sound (email : Str) : Sound (t.step (.delete email)) where
  numbered := apply_numbered sound.numbered (.delete email)
  joined := step_joined sound _
  bare other formless := by
    have formless : Function.update t.persona email none other = some .malformed := formless
    show (t.store.apply (.delete email)).discordOf other = none
    rw [delete_discordOf]
    split
    · rfl
    · rename_i apart
      rw [Function.update_of_ne apart] at formless
      exact sound.bare other formless
  absent other gone := by
    have gone : (t.store.apply (.delete email)).idOf other = none := gone
    show Function.update t.given email none other = none
    rw [delete_idOf] at gone
    by_cases here : other = email
    · rw [here, Function.update_self]
    · rw [Function.update_of_ne here]
      rw [if_neg here] at gone
      exact sound.absent other gone

theorem patched_sound {op : Operation} {email : Str} {change : Dict Str Json → Dict Str Json}
    (patches : Patches t.store (t.store.apply op) email change)
    (kept : ∀ props, (change props).get? (str "discord-user-id") =
      props.get? (str "discord-user-id"))
    (personas : personasAfter t.persona op = t.persona) (given : givenAfter t.given op = t.given) :
    Sound (t.step op) := by
  obtain ⟨ids, discordIds⟩ := patches_identities patches kept
  refine ⟨apply_numbered sound.numbered op, step_joined sound op, ?_, ?_⟩
  · show ∀ email, personasAfter t.persona op email = some .malformed →
      (t.store.apply op).discordOf email = none
    rw [personas, discordIds]
    exact sound.bare
  · show ∀ email, (t.store.apply op).idOf email = none → givenAfter t.given op email = none
    rw [given, ids]
    exact sound.absent

theorem step_sound (op : Operation) : Sound (t.step op) := by
  cases op with
  | set email persona discordId => exact set_sound sound email persona discordId
  | delete email => exact delete_sound sound email
  | setStanding email standing =>
    exact patched_sound sound (apply_setStanding standing) (withStanding_discordId standing) rfl rfl
  | setLeadership email field known label present =>
    exact patched_sound sound (apply_setLeadership known label present)
      (turned_discordId known label present) rfl rfl

end

/-! ### The Discord ids that were given -/

/-- The last of the three: what was given is served, by every persona that serves an id. -/
def Carried (t : Traced) : Prop :=
  ∀ email discordId, t.given email = some discordId → t.persona email ≠ some .malformed →
    t.store.discordOf email = some discordId

theorem keepsIdentities_iff {t : Traced} (sound : Sound t) : KeepsIdentities t ↔ Carried t := by
  constructor
  · exact fun keeps => keeps.carried
  · intro carried
    refine ⟨?_, fun email record found => ?_, carried⟩
    · rw [RosterStore.asRecords, List.map_map]
      refine List.Nodup.map_on ?_ (List.Nodup.of_map _ t.store.records.nodup)
      rintro ⟨email, record⟩ here ⟨other, same⟩ there sameId
      have here := Dict.get?_eq_some_iff.mpr here
      have there := Dict.get?_eq_some_iff.mpr there
      have one : t.store.idOf email = some record.id := by rw [RosterStore.idOf, here]; rfl
      have two : t.store.idOf other = some record.id := by
        rw [RosterStore.idOf, there]
        exact congrArg some sameId.symm
      obtain rfl := sound.numbered.apart email other record.id one two
      rw [here] at there
      cases there
      rfl
    · rw [sound.joined, RosterStore.idOf, found]
      rfl

theorem start_carried (parsed : List RosterEntry) : Carried (.start parsed) := by
  intro email discordId given formed
  have given : (lastEntry parsed email).bind
    (fun entry => carriable entry.persona entry.discordId) = some discordId := given
  have formed : (lastEntry parsed email).map (·.persona) ≠ some .malformed := formed
  show discordIdOf ((RosterStore.generate parsed).get? email) = some discordId
  cases found : (RosterStore.generate parsed).get? email with
  | none =>
    rw [generate_absent found] at given
    cases given
  | some record =>
    obtain ⟨-, entry, last, generated⟩ := generate_record found
    rw [last] at given formed
    have formed : entry.persona ≠ .malformed := fun same => formed (congrArg some same)
    have given : entry.discordId = some discordId :=
      by rwa [Option.bind_some, carriable, if_neg formed] at given
    rw [generated, discordIdOf_userJson, if_neg formed, given]
    rfl

theorem set_given {t : Traced} (carried : Carried t) (email : Str) (persona : Persona)
    (discordId : Str) : Carried (t.step (.set email persona (some discordId))) := by
  intro other owed given formed
  have given : Function.update t.given email (carriable persona (some discordId)) other =
    some owed := given
  have formed : Function.update t.persona email (some persona) other ≠ some .malformed := formed
  show (t.store.apply (.set email persona (some discordId))).discordOf other = some owed
  rw [set_discordOf]
  by_cases here : other = email
  · rw [here, Function.update_self] at given formed
    have formed : persona ≠ .malformed := fun same => formed (congrArg some same)
    rw [carriable, if_neg formed] at given
    rw [if_pos here, if_neg formed, Option.some_or, Option.getD_some, given]
  · rw [Function.update_of_ne here] at given formed
    rw [if_neg here]
    exact carried other owed given formed

theorem takenId_of_found {store : RosterStore} {email : Str} {record : UserJson}
    (found : store.records.get? email = some record) : takenId store email = record.id := by
  rw [takenId, RosterStore.idOf, found]
  rfl

theorem clobbered_uncarried {t : Traced} (sound : Sound t) {op : Operation}
    (clobbers : Clobbers t op) : ¬Carried (t.step op) := by
  obtain ⟨email, persona, record, discordId, rfl, formed, found, formless, given, real⟩ := clobbers
  intro keeps
  have served := keeps email discordId given fun now => by
    have now : Function.update t.persona email (some persona) email = some .malformed := now
    rw [Function.update_self] at now
    exact formed (Option.some.inj now)
  have served : (t.store.apply (.set email persona none)).discordOf email = some discordId := served
  rw [set_discordOf, if_pos rfl, if_neg formed, sound.bare email formless,
    takenId_of_found found] at served
  exact real (Option.some.inj served).symm

/-- What a swap without an id takes over is what was given, or the synthetic id where nothing is
there to take over. -/
theorem swap_takes {t : Traced} (sound : Sound t) (carried : Carried t) {email : Str}
    {persona : Persona} (formed : persona ≠ .malformed)
    (clean : ¬Clobbers t (.set email persona none)) {discordId : Str}
    (given : t.given email = some discordId) :
    (t.store.discordOf email).getD (syntheticId (takenId t.store email)) = discordId := by
  by_cases formless : t.persona email = some .malformed
  · rw [sound.bare email formless, Option.getD_none]
    cases found : t.store.records.get? email with
    | none =>
      have gone := sound.absent email (by rw [RosterStore.idOf, found]; rfl)
      rw [given] at gone
      cases gone
    | some record =>
      rw [takenId_of_found found]
      by_contra real
      exact clean ⟨email, persona, record, discordId, rfl, formed, found, formless, given,
        Ne.symm real⟩
  · rw [carried email discordId given formless]
    rfl

theorem swap_carried {t : Traced} (sound : Sound t) (carried : Carried t) {email : Str}
    {persona : Persona} (clean : ¬Clobbers t (.set email persona none)) :
    Carried (t.step (.set email persona none)) := by
  intro other discordId given formed
  have given : t.given other = some discordId := given
  have formed : Function.update t.persona email (some persona) other ≠ some .malformed := formed
  show (t.store.apply (.set email persona none)).discordOf other = some discordId
  rw [set_discordOf]
  by_cases here : other = email
  · rw [here] at given
    rw [here, Function.update_self] at formed
    have formed : persona ≠ .malformed := fun same => formed (congrArg some same)
    rw [if_pos here, if_neg formed, Option.none_or, swap_takes sound carried formed clean given]
  · rw [Function.update_of_ne here] at formed
    rw [if_neg here]
    exact carried other discordId given formed

theorem delete_carried {t : Traced} (carried : Carried t) (email : Str) :
    Carried (t.step (.delete email)) := by
  intro other discordId given formed
  have given : Function.update t.given email none other = some discordId := given
  have formed : Function.update t.persona email none other ≠ some .malformed := formed
  show (t.store.apply (.delete email)).discordOf other = some discordId
  by_cases here : other = email
  · rw [here, Function.update_self] at given
    cases given
  · rw [Function.update_of_ne here] at given formed
    rw [delete_discordOf, if_neg here]
    exact carried other discordId given formed

theorem patched_carried {t : Traced} (carried : Carried t) {op : Operation} {email : Str}
    {change : Dict Str Json → Dict Str Json}
    (patches : Patches t.store (t.store.apply op) email change)
    (kept : ∀ props, (change props).get? (str "discord-user-id") =
      props.get? (str "discord-user-id"))
    (personas : personasAfter t.persona op = t.persona) (given : givenAfter t.given op = t.given) :
    Carried (t.step op) := by
  show ∀ email discordId, givenAfter t.given op email = some discordId →
    personasAfter t.persona op email ≠ some .malformed →
      (t.store.apply op).discordOf email = some discordId
  rw [personas, given, (patches_identities patches kept).2]
  exact carried

/-- Every step but one that clobbers keeps what was given on the record. -/
theorem step_carried {t : Traced} (sound : Sound t) (carried : Carried t) (op : Operation) :
    Carried (t.step op) ↔ ¬Clobbers t op := by
  refine ⟨fun keeps clobbers => clobbered_uncarried sound clobbers keeps, fun clean => ?_⟩
  cases op with
  | set email persona discordId =>
    cases discordId with
    | none => exact swap_carried sound carried clean
    | some discordId => exact set_given carried email persona discordId
  | delete email => exact delete_carried carried email
  | setStanding email standing =>
    exact patched_carried carried (apply_setStanding standing)
      (withStanding_discordId standing) rfl rfl
  | setLeadership email field known label present =>
    exact patched_carried carried (apply_setLeadership known label present)
      (turned_discordId known label present) rfl rfl

/-- Identities are kept all along a run exactly where no step clobbers an id that was given. -/
theorem identities_kept_iff (parsed : List RosterEntry) (ops : List Operation) :
    (∀ reached : List Operation, reached <+: ops →
      KeepsIdentities (reached.foldl Traced.step (.start parsed))) ↔
      Guarded Traced.step (fun t op => ¬Clobbers t op) (.start parsed) ops := by
  have kept : ∀ t op, Sound t → Sound (Traced.step t op) := fun t op sound => step_sound sound op
  have sound : ∀ reached : List Operation, Sound (reached.foldl Traced.step (.start parsed)) :=
    fun reached => invariant_of_forall kept (start_sound parsed) reached
  rw [← guarded_iff kept (fun t op sound carried => step_carried sound carried op) ops
    (start_sound parsed) (start_carried parsed)]
  exact forall_congr' fun reached => imp_congr_right fun _ => keepsIdentities_iff (sound reached)

/-- A given id is not taken over from a malformed record. -/
theorem swap_clobbers : ¬∀ reached : List Operation,
    reached <+: [Operation.set (str "zoopgoop@example.com") .malformed none,
      .set (str "zoopgoop@example.com") .lapsed none] →
    KeepsIdentities (reached.foldl Traced.step
      (.start [⟨str "zoopgoop@example.com", .leader, some (str "123456789012345678")⟩])) := by
  intro keeps
  have carried := (keeps _ (List.prefix_refl _)).carried (str "zoopgoop@example.com")
    (str "123456789012345678")
  exact absurd (carried rfl (by decide +kernel)) (by decide +kernel)

end Rosadmin.MockSt
