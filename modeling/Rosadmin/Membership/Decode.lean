import Rosadmin.Membership.Source

/-!
# Decoding one Solidarity Tech user

The expressions are evaluated in the source's order: the first one to raise
decides the failure.
-/

namespace Rosadmin
open Foundation

/-- What decoding a user can raise: the membership errors, with what their messages name, and the
built-in ones. -/
inductive DecodeFailure where
  /-- `user {id!r} has no email` -/
  | malformedMember (id : Json)
  /-- `membership-status missing or malformed` -/
  | standingMissing
  /-- `unrecognized membership status {label!r}` -/
  | standingUnrecognized (label : Json)
  | builtin (error : BuiltinError)

abbrev Decoded (α : Type) := Except DecodeFailure α

def raising {α : Type} (r : Except BuiltinError α) : Decoded α :=
  match r with
  | .ok x => .ok x
  | .error e => .error (.builtin e)

def standingLabel : Standing → Str
  | .goodStanding => str "Member in Good Standing"
  | .lapsed => str "Lapsed"

def standingByLabel (label : Str) : Option Standing :=
  [Standing.goodStanding, Standing.lapsed].find? (fun s => standingLabel s = label)

def fieldBodyTypes : List (Str × BodyType) :=
  [(str "committee-leadership", .committee), (str "working-group-leadership", .workingGroup),
    (str "branch-leadership", .branch), (str "campaign-leadership", .campaign),
    (str "misc-leaderish-roles", .misc)]

def chapterLeaderTrue : Str := str "Yes"

def decodeStanding (props : Json) : Decoded Standing := do
  let field ← raising (props.get (str "membership-status"))
  let label ← match field with
    | .arr (first :: _) => raising (first.get (str "label"))
    | _ => .ok .null
  match label with
  | .null => .error .standingMissing
  | .str s => match standingByLabel s with
    | some standing => .ok standing
    | none => .error (.standingUnrecognized label)
  -- a list or a dict is no dictionary key
  | .arr _ | .obj _ => .error (.builtin .typeError)
  | _ => .error (.standingUnrecognized label)

/-- The `label` of a select entry; an entry that is no object has none. -/
def entryLabel : Json → Json
  | .obj fields => (Json.find fields (str "label")).getD .null
  | _ => .null

def entryLead (bodyType : BodyType) (entry : Json) : Option Leadership :=
  match entryLabel entry with
  | .str label => if 0 < label.length then some ⟨bodyType, label⟩ else none
  | _ => none

def fieldLeads (bodyType : BodyType) : Json → List Leadership
  | .arr entries => entries.filterMap (entryLead bodyType)
  | _ => []

def decodeLeads (props : Json) : Decoded (List Leadership) :=
  fieldBodyTypes.foldlM (fun leads f => do
    let entries ← raising (props.get f.1)
    return leads ++ fieldLeads f.2 entries) []

def decodeChapterLeader (props : Json) : Decoded Bool := do
  match ← raising (props.get (str "is-chapter-leader")) with
  | .arr entries => return entries.any (fun entry => match entryLabel entry with
    | .str label => label == chapterLeaderTrue
    | _ => false)
  | _ => return false

/-- Free-text property; anything without an @ is noise, not an address. -/
def decodeAlternateEmail (props : Json) : Decoded (Option Email) := do
  match ← raising (props.get (str "alternate-email")) with
  | .str raw => return if raw.contains 0x40 then some (strip raw) else none
  | _ => return none

def decodeDiscordId (props : Json) : Decoded (Option Int) := do
  match ← raising (props.get (str "discord-user-id")) with
  | .str raw => return intOfStr raw
  | _ => return none

def decodeUser (user : Json) : Decoded Member := do
  let email ← raising (user.get (str "email"))
  if !email.truthy then
    .error (.malformedMember (← raising (user.get (str "id"))))
  else
    let raw ← raising (user.get (str "custom_user_properties"))
    let props := if raw.truthy then raw else .obj []
    let stId ← raising ((← raising (user.item (str "id"))).toInt)
    let alternateEmail ← decodeAlternateEmail props
    let standing ← decodeStanding props
    let discordId ← decodeDiscordId props
    let firstName ← raising (user.get (str "first_name"))
    let lastName ← raising (user.get (str "last_name"))
    let alternateName ← raising (user.get (str "alternate_name"))
    let isChapterLeader ← decodeChapterLeader props
    let leads ← decodeLeads props
    return { stId, email, alternateEmail, standing, discordId, firstName, lastName, alternateName, isChapterLeader,
             leads := leads.dedup, leadsNodup := leads.nodup_dedup }

end Rosadmin
