import Rosadmin.Foundation.Dict
import Rosadmin.Foundation.Words
import Rosadmin.Membership.Decode

/-!
# The fabricated members

A persona is a template for one membership state. Its record is what the mock
serves for an email, under the field names and select shapes the decoder reads.
-/

namespace Rosadmin.MockSt
open Foundation

/-! ### The wire shape -/

def selectEntry (label : Str) : Json :=
  .obj [(str "label", .str label), (str "value", .str (str "mock"))]

/-- A select custom-property value: one entry a label. -/
def selectProp (labels : List Str) : Json := .arr (labels.map selectEntry)

def statusProp (label : Str) : Json := selectProp [label]

/-- One `/users` user object; `email` is null in a malformed record. -/
structure UserJson where
  id : Nat
  email : Option Str
  firstName : Option Str
  lastName : Option Str
  alternateName : Option Str
  customProps : Dict Str Json

def orNull (s : Option Str) : Json := s.elim .null .str

def UserJson.toJson (record : UserJson) : Json :=
  .obj [(str "id", .int record.id), (str "email", orNull record.email),
    (str "first_name", orNull record.firstName),
    (str "last_name", orNull record.lastName), (str "alternate_name", orNull record.alternateName),
    (str "phone_number", .null), (str "custom_user_properties", .obj record.customProps.items)]

/-! ### The cast -/

structure Identity where
  firstName : Str
  lastName : Str
  alternateName : Option Str

/-- The chosen display name, lowercased. -/
def Identity.handle (identity : Identity) : Str :=
  lower (identity.alternateName.getD identity.firstName)

def castIdentities : List (Str × Identity) :=
  [(str "ralsei@example.com", ⟨str "Ralsei", str "Fluffington", none⟩),
    (str "kris@example.com", ⟨str "Kris", str "Dreemurr", none⟩),
    (str "susie@example.com", ⟨str "Susie", str "Gaster", none⟩),
    (str "noelle@example.com", ⟨str "Noelle", str "Holiday", none⟩),
    (str "berdly@example.com", ⟨str "Berdly", str "Smartt", none⟩),
    (str "spamton@example.com", ⟨str "Spamton", str "G. Spamton", none⟩)]

def identityFor (email : Str) : Identity :=
  match castIdentities.find? (·.1 = email) with
  | some known => known.2
  | none => ⟨capitalize (email.takeWhile (· ≠ 0x40)), str "Testerson", none⟩

/-! ### The personas -/

inductive Persona where
  | goodStanding | lapsed | retiredTier | malformed | noStatus | unknownTier | leader | coLeader
      | markedNoBody | altGmail
  deriving DecidableEq

namespace Persona

def all : List Persona :=
  [goodStanding, lapsed, retiredTier, malformed, noStatus, unknownTier, leader, coLeader,
    markedNoBody, altGmail]

def value : Persona → Str
  | goodStanding => str "good_standing"
  | lapsed => str "lapsed"
  | retiredTier => str "retired_tier"
  | malformed => str "malformed"
  | noStatus => str "no_status"
  | unknownTier => str "unknown_tier"
  | leader => str "leader"
  | coLeader => str "co_leader"
  | markedNoBody => str "marked_no_body"
  | altGmail => str "alt_gmail"

def parse (name : Str) : Option Persona := all.find? (·.value = strip name)

/-- The recognized standing of each persona whose record decodes. -/
def standing : Persona → Option Standing
  | goodStanding | leader | coLeader | markedNoBody | altGmail => some .goodStanding
  | lapsed => some .lapsed
  | retiredTier | malformed | noStatus | unknownTier => none

/-- `_label`; the two personas without one are never asked. -/
def label : Persona → Option Str
  | retiredTier => some (str "Lapsed Member")
  | unknownTier => some (str "Certified Kromer Holder")
  | persona => persona.standing.map standingLabel

/-- The leadership bodies a persona holds, as fields and labels. -/
def leads : Persona → List (Str × Str)
  | leader | coLeader => [(str "committee-leadership", str "Steering")]
  | _ => []

def marked : Persona → Bool
  | leader | coLeader | markedNoBody => true
  | _ => false

def hasAltEmail : Persona → Bool
  | altGmail => true
  | _ => false

end Persona

def discordIdBase : Nat := 900000000000000000

/-- `str(n)` -/
def decimal (n : Nat) : Str := (Nat.toDigits 10 n).map Char.toNat

/-- The snowflake of a record that was given none. -/
def syntheticId (stId : Nat) : Str := decimal (discordIdBase + stId)

/-- `custom_user_properties` of every persona but `Malformed`. -/
def Persona.customProps (persona : Persona) (stId : Nat) (email : Str) (discordId : Option Str) :
    Dict Str Json :=
  let props := Dict.empty.set (str "discord-user-id") (.str (discordId.getD (syntheticId stId)))
  let props := persona.label.elim props fun label =>
    props.set (str "membership-status") (statusProp label)
  let props := persona.leads.foldl (fun props lead => props.set lead.1 (selectProp [lead.2])) props
  let props := if persona.marked then props.set (str "is-chapter-leader") (selectProp [str "Yes"])
    else props
  if persona.hasAltEmail then
    props.set (str "alternate-email") (.str ((identityFor email).handle ++ str ".drive@gmail.com"))
  else props

/-- This persona's served record. `Malformed` ignores the email and the Discord id. -/
def Persona.userJson (persona : Persona) (stId : Nat) (email : Str) (discordId : Option Str) :
    UserJson :=
  if persona = .malformed then ⟨stId, none, none, none, none, .empty⟩
  else
    let identity := identityFor email
    ⟨stId, some email, some identity.firstName, some identity.lastName, identity.alternateName,
      persona.customProps stId email discordId⟩

section
variable (persona : Persona) (stId : Nat) (email : Str) (discordId : Option Str)

@[simp] theorem userJson_id : (persona.userJson stId email discordId).id = stId := by
  unfold Persona.userJson
  split <;> rfl

theorem userJson_customProps (formed : persona ≠ .malformed) :
    (persona.userJson stId email discordId).customProps =
      persona.customProps stId email discordId := by
  rw [Persona.userJson, if_neg formed]

theorem customProps_discordId :
    (persona.customProps stId email discordId).get? (str "discord-user-id") =
    some (.str (discordId.getD (syntheticId stId))) := by
  cases persona <;> rfl

theorem customProps_status : (persona.customProps stId email discordId).get?
    (str "membership-status") = persona.label.map statusProp := by
  cases persona <;> rfl

theorem customProps_marked : (persona.customProps stId email discordId).get?
    (str "is-chapter-leader") = if persona.marked then some (selectProp [str "Yes"]) else none := by
  cases persona <;> rfl

end

end Rosadmin.MockSt
