import Mathlib.Data.List.Find
import Rosadmin.Membership.Shapes
import Rosadmin.MockSt.Roster

/-!
# The bodies a record lists

What the decoder makes of a served record, the shape the mock keeps its
properties in, and what each operation does to the bodies they list.
-/

namespace Rosadmin.MockSt
open Foundation

/-! ### The bodies a record lists -/

/-- The labels of a select value's entries. -/
def labelsOf : Json → List Str
  | .arr entries => entries.filterMap fun entry => match entryLabel entry with
    | .str label => some label
    | _ => none
  | _ => []

@[simp] theorem labelsOf_selectProp (labels : List Str) :
    labelsOf (selectProp labels) = labels := by
  show (labels.map selectEntry).filterMap _ = labels
  rw [List.filterMap_map]
  exact (List.filterMap_congr fun _ _ => rfl).trans List.filterMap_some

def labelsAt (props : Dict Str Json) (field : Str) : List Str :=
  labelsOf ((props.get? field).getD .null)

/-- As fields and labels. -/
def bodies (props : Dict Str Json) : List (Str × Str) :=
  leadershipFields.flatMap fun field => (labelsAt props field).map (field, ·)

theorem mem_bodies {props : Dict Str Json} {field label : Str} :
    (field, label) ∈ bodies props ↔ field ∈ leadershipFields ∧ label ∈ labelsAt props field := by
  simp [bodies]

theorem bodies_eq_nil {props : Dict Str Json} :
    bodies props = [] ↔ ∀ field ∈ leadershipFields, labelsAt props field = [] := by
  simp [bodies]

/-- Bodies are listed, and none of them has a name. -/
def Hollow (props : Dict Str Json) : Prop := bodies props ≠ [] ∧ ∀ body ∈ bodies props, body.2 = []

/-! ### Decoding a served record -/

theorem find_items (d : Dict Str Json) (key : Str) : Json.find d.items key = d.get? key := by
  rw [Json.find, Dict.get?]
  refine congrArg _ (List.find?_congr fun e _ => ?_)
  exact Bool.eq_iff_iff.mpr (beq_iff_eq.trans decide_eq_true_iff.symm)

theorem raising_items (props : Dict Str Json) (key : Str) :
    raising ((Json.obj props.items).get key) = .ok ((props.get? key).getD .null) := by
  rw [raising_get, field, find_items]

theorem decodeChapterLeader_items (props : Dict Str Json) :
    decodeChapterLeader (.obj props.items) = .ok
      ((labelsAt props (str "is-chapter-leader")).contains chapterLeaderTrue) := by
  rw [decodeChapterLeader, raising_items, ok_bind, labelsAt]
  cases (props.get? (str "is-chapter-leader")).getD .null with
  | arr entries =>
    refine congrArg Except.ok ?_
    rw [labelsOf]
    induction entries with
    | nil => rfl
    | cons entry entries ih =>
      rw [List.any_cons, ih, List.filterMap_cons]
      cases entryLabel entry with
      | str label => exact (List.contains_cons.trans (congrArg (· || _) BEq.comm)).symm
      | _ => rfl
  | _ => rfl

theorem fieldLeads_eq_nil {bodyType : BodyType} {value : Json} :
    fieldLeads bodyType value = [] ↔ ∀ label ∈ labelsOf value, label = [] := by
  cases value with
  | arr entries =>
    rw [fieldLeads, labelsOf]
    induction entries with
    | nil => simp
    | cons entry entries ih =>
      rw [List.filterMap_cons, List.filterMap_cons, entryLead]
      cases entryLabel entry with
      | str label => cases label <;> simp [ih]
      | _ => exact ih
  | _ => simp [fieldLeads, labelsOf]

theorem decodeLeads_items (props : Dict Str Json) :
    decodeLeads (.obj props.items) =
      .ok (fieldBodyTypes.flatMap fun f => fieldLeads f.2 ((props.get? f.1).getD .null)) := by
  have walk : ∀ (rest : List (Str × BodyType)) (leads : List Leadership),
      rest.foldlM (fun leads f => do
        let entries ← raising ((Json.obj props.items).get f.1)
        return leads ++ fieldLeads f.2 entries) leads =
        (.ok (leads ++ rest.flatMap fun f => fieldLeads f.2 ((props.get? f.1).getD .null)) : Decoded
          (List Leadership)) := by
    intro rest
    induction rest with
    | nil => exact fun leads => congrArg Except.ok (List.append_nil leads).symm
    | cons f rest ih =>
      intro leads
      rw [List.foldlM_cons, raising_items, ok_bind, pure_bind, ih, List.flatMap_cons,
        List.append_assoc]
  exact walk fieldBodyTypes []

theorem leads_eq_nil {props : Dict Str Json} {leads : List Leadership}
    (decoded : decodeLeads (.obj props.items) = .ok leads) :
    leads = [] ↔ ∀ body ∈ bodies props, body.2 = [] := by
  rw [decodeLeads_items] at decoded
  cases decoded
  simp only [List.flatMap_eq_nil_iff, fieldLeads_eq_nil]
  constructor
  · rintro unnamed ⟨field, label⟩ listed
    obtain ⟨known, there⟩ := mem_bodies.mp listed
    obtain ⟨f, member, rfl⟩ := List.mem_map.mp known
    exact unnamed f member label there
  · intro unnamed f member label there
    exact unnamed (f.1, label) (mem_bodies.mpr ⟨List.mem_map_of_mem member, there⟩)

/-- The email is one the decoder takes. -/
def Addressed (record : UserJson) : Prop := ∃ email, record.email = some email ∧ email ≠ []

/-- The record has an email and one of the recognized statuses. -/
def Accepted (record : UserJson) : Prop := Addressed record ∧
  ∃ standing, record.customProps.get? (str "membership-status") =
    some (statusProp (standingLabel standing))

theorem orNull_truthy {email : Option Str} : (orNull email).truthy = true ↔
    ∃ text, email = some text ∧ text ≠ [] := by
  cases email with
  | none => simp [orNull, Json.truthy]
  | some text => simp [orNull, Json.truthy]

/-- Empty properties are falsy, and stand for themselves all the same. -/
theorem truthy_or_empty (items : List (Str × Json)) :
    (if (Json.obj items).truthy then Json.obj items else .obj []) = .obj items := by
  cases items <;> rfl

section
variable {record : UserJson}

/-- The top-level fields are read as they were written, so what is left to decode are the
properties. -/
theorem decodeUser_toJson (addressed : Addressed record) : decodeUser record.toJson = (do
    let props := Json.obj record.customProps.items
    let alternateEmail ← decodeAlternateEmail props
    let standing ← decodeStanding props
    let discordId ← decodeDiscordId props
    let isChapterLeader ← decodeChapterLeader props
    let leads ← decodeLeads props
    return { stId := record.id, email := orNull record.email, alternateEmail, standing, discordId,
             firstName := orNull record.firstName, lastName := orNull record.lastName,
             alternateName := orNull record.alternateName, isChapterLeader,
             leads := leads.dedup, leadsNodup := leads.nodup_dedup }) := by
  have email : record.toJson.get (str "email") = .ok (orNull record.email) := rfl
  have custom : record.toJson.get (str "custom_user_properties") =
    .ok (.obj record.customProps.items) := rfl
  have id : record.toJson.item (str "id") = .ok (.int record.id) := rfl
  have firstName : record.toJson.get (str "first_name") = .ok (orNull record.firstName) := rfl
  have lastName : record.toJson.get (str "last_name") = .ok (orNull record.lastName) := rfl
  have alternateName : record.toJson.get (str "alternate_name") =
    .ok (orNull record.alternateName) := rfl
  have given : (orNull record.email).truthy = true := orNull_truthy.mpr addressed
  simp only [decodeUser, email, custom, id, firstName, lastName, alternateName, raising, ok_bind,
    truthy_or_empty, Json.toInt, given, Bool.not_true, Bool.false_eq_true, if_false]

theorem decodeUser_unaddressed (unaddressed : ¬Addressed record) (member : Member) :
    decodeUser record.toJson ≠ .ok member := by
  have email : record.toJson.get (str "email") = .ok (orNull record.email) := rfl
  have id : record.toJson.get (str "id") = .ok (.int record.id) := rfl
  have missing : (orNull record.email).truthy = false :=
    eq_false_of_ne_true fun given => unaddressed (orNull_truthy.mp given)
  simp [decodeUser, email, id, raising, ok_bind, missing]

/-- A record is accepted by its email and its status, and the flag and the leads are read off its
properties. -/
theorem decodeUser_ok {member : Member} (decoded : decodeUser record.toJson = .ok member) :
    Addressed record ∧ (∃ standing, decodeStanding (.obj record.customProps.items) = .ok standing) ∧
      decodeChapterLeader (.obj record.customProps.items) = .ok member.isChapterLeader ∧
        ∃ leads, decodeLeads (.obj record.customProps.items) = .ok leads ∧
          member.leads = leads.dedup := by
  by_cases addressed : Addressed record
  · rw [decodeUser_toJson addressed] at decoded
    obtain ⟨alternateEmail, -, decoded⟩ := bind_ok.mp decoded
    obtain ⟨standing, status, decoded⟩ := bind_ok.mp decoded
    obtain ⟨discordId, -, decoded⟩ := bind_ok.mp decoded
    obtain ⟨isChapterLeader, flag, decoded⟩ := bind_ok.mp decoded
    obtain ⟨leads, led, decoded⟩ := bind_ok.mp decoded
    cases pure_ok.mp decoded
    exact ⟨addressed, ⟨standing, status⟩, flag, leads, led, rfl⟩
  · exact absurd decoded (decodeUser_unaddressed addressed member)

theorem decodeUser_exists (addressed : Addressed record) {standing : Standing}
    (status : decodeStanding (.obj record.customProps.items) = .ok standing) :
    ∃ member, decodeUser record.toJson = .ok member := by
  obtain ⟨alternateEmail, alternate⟩ := decodeAlternateEmail_ok record.customProps.items
  obtain ⟨discordId, discord⟩ := decodeDiscordId_ok record.customProps.items
  obtain ⟨isChapterLeader, flag⟩ := decodeChapterLeader_ok record.customProps.items
  obtain ⟨leads, led⟩ := decodeLeads_ok record.customProps.items
  rw [decodeUser_toJson addressed]
  simp only [alternate, status, discord, flag, led, ok_bind]
  exact ⟨_, rfl⟩

theorem standingByLabel_eq_some {label : Str} {standing : Standing} :
    standingByLabel label = some standing ↔ label = standingLabel standing := by
  constructor
  · intro found
    have same := List.find?_some found
    exact (of_decide_eq_true same).symm
  · rintro rfl
    cases standing <;> decide

/-- A status the mock writes is read as the standing whose label it is. -/
theorem decodeStanding_items {props : Dict Str Json}
    (status : props.get? (str "membership-status") = none ∨
      ∃ label, props.get? (str "membership-status") = some (statusProp label))
        (standing : Standing) :
    decodeStanding (.obj props.items) = .ok standing ↔
      props.get? (str "membership-status") = some (statusProp (standingLabel standing)) := by
  rw [decodeStanding, raising_items, ok_bind]
  rcases status with absent | ⟨label, written⟩
  · rw [absent]
    simp [ok_bind]
  · have own : raising ((selectEntry label).get (str "label")) = .ok (.str label) := rfl
    have same : some (statusProp label) = some (statusProp (standingLabel standing)) ↔
        standingByLabel label = some standing := by
      rw [standingByLabel_eq_some]
      constructor
      · intro same
        exact List.singleton_inj.mp ((labelsOf_selectProp [label]).symm.trans
          ((congrArg labelsOf (Option.some.inj same)).trans (labelsOf_selectProp _)))
      · rintro rfl
        rfl
    rw [written, same]
    simp only [statusProp, selectProp, Option.getD_some, List.map_cons, List.map_nil, own, ok_bind]
    cases standingByLabel label with
    | none => simp
    | some found => simp

end

/-! ### The shape the mock keeps -/

/-- A field that is there lists a body. -/
def Listed (props : Dict Str Json) (field : Str) : Prop :=
  props.get? field = none ∨ ∃ label labels, props.get? field = some (selectProp (label :: labels))

/-- The fields list bodies, and the flag is there exactly with a body. -/
structure Shaped (props : Dict Str Json) : Prop where
  listed : ∀ field ∈ leadershipFields, Listed props field
  flag : props.get? (str "is-chapter-leader") = if bodies props = [] then none
    else some (selectProp [str "Yes"])
  status : props.get? (str "membership-status") = none ∨
    ∃ label, props.get? (str "membership-status") = some (statusProp label)

theorem holds_iff {props : Dict Str Json} {field : Str} (listed : Listed props field) :
    holds props field = true ↔ labelsAt props field ≠ [] := by
  unfold holds labelsAt
  rcases listed with absent | ⟨label, labels, there⟩
  · rw [absent]
    exact iff_of_false Bool.false_ne_true (fun some => some rfl)
  · rw [there, Option.getD_some, labelsOf_selectProp]
    exact iff_of_true rfl (List.cons_ne_nil _ _)

theorem agrees_iff {record : UserJson} (shaped : Shaped record.customProps) :
    (∀ member, decodeUser record.toJson = .ok member →
      (member.isChapterLeader = true ↔ member.leads ≠ [])) ↔
      ¬(Accepted record ∧ Hollow record.customProps) := by
  have flagged : decodeChapterLeader (.obj record.customProps.items) =
      .ok !(bodies record.customProps).isEmpty := by
    rw [decodeChapterLeader_items, labelsAt, shaped.flag]
    by_cases none : bodies record.customProps = []
    · rw [if_pos none, none]
      rfl
    · rw [if_neg none, Option.getD_some, labelsOf_selectProp, List.isEmpty_eq_false_iff.mpr none]
      rfl
  constructor
  · intro agrees both
    obtain ⟨⟨addressed, standing, status⟩, listed, unnamed⟩ := both
    obtain ⟨member, decoded⟩ :=
      decodeUser_exists addressed ((decodeStanding_items shaped.status standing).mpr status)
    obtain ⟨-, -, flag, leads, led, same⟩ := decodeUser_ok decoded
    rw [flagged] at flag
    have empty : leads = [] := (leads_eq_nil led).mpr unnamed
    have marked : member.isChapterLeader = true := by
      rw [← Except.ok.inj flag, List.isEmpty_eq_false_iff.mpr listed]
      rfl
    refine (agrees member decoded).mp marked ?_
    rw [same, empty]
    rfl
  · intro named member decoded
    obtain ⟨addressed, ⟨standing, status⟩, flag, leads, led, same⟩ := decodeUser_ok decoded
    rw [flagged] at flag
    have accepted : Accepted record :=
      ⟨addressed, standing, (decodeStanding_items shaped.status standing).mp status⟩
    have unled : member.leads = [] ↔ ∀ body ∈ bodies record.customProps, body.2 = [] := by
      rw [same, List.dedup_eq_nil, leads_eq_nil led]
    rw [← Except.ok.inj flag, Bool.not_eq_true', List.isEmpty_eq_false_iff,
      ne_eq member.leads, unled]
    constructor
    · exact fun listed unnamed => named ⟨accepted, listed, unnamed⟩
    · intro somebody none
      rw [none] at somebody
      exact somebody fun body listed => absurd listed List.not_mem_nil

/-! ### The personas -/

theorem customProps_lead {persona : Persona} {stId : Nat} {email : Str} {discordId : Option Str}
    {field : Str} (known : field ∈ leadershipFields) :
    (persona.customProps stId email discordId).get? field =
      (persona.leads.find? (·.1 = field)).map fun lead => selectProp [lead.2] := by
  have fields : leadershipFields = [str "committee-leadership", str "working-group-leadership",
    str "branch-leadership", str "campaign-leadership", str "misc-leaderish-roles"] := rfl
  simp only [fields, List.mem_cons, List.not_mem_nil, or_false] at known
  cases persona <;> rcases known with rfl | rfl | rfl | rfl | rfl <;> rfl

theorem bodies_customProps (persona : Persona) (stId : Nat) (email : Str) (discordId : Option Str) :
    bodies (persona.customProps stId email discordId) = persona.leads := by
  cases persona <;> rfl

theorem userJson_listed (persona : Persona) (stId : Nat) (email : Str) (discordId : Option Str)
    {field : Str} (known : field ∈ leadershipFields) :
    Listed (persona.userJson stId email discordId).customProps field := by
  by_cases formed : persona = .malformed
  · rw [formed]
    exact Or.inl rfl
  · rw [userJson_customProps _ _ _ _ formed, Listed, customProps_lead known]
    cases persona.leads.find? (·.1 = field) with
    | none => exact Or.inl rfl
    | some lead => exact Or.inr ⟨lead.2, [], rfl⟩

theorem userJson_shaped {persona : Persona} (named : persona ≠ .markedNoBody) (stId : Nat)
    (email : Str) (discordId : Option Str) :
    Shaped (persona.userJson stId email discordId).customProps := by
  have listed : ∀ field ∈ leadershipFields,
      Listed (persona.userJson stId email discordId).customProps field :=
    fun _ known => userJson_listed persona stId email discordId known
  by_cases formed : persona = .malformed
  · rw [formed]
    exact ⟨fun _ _ => Or.inl rfl, rfl, Or.inl rfl⟩
  rw [userJson_customProps _ _ _ _ formed] at listed ⊢
  refine ⟨listed, ?_, ?_⟩
  · rw [customProps_marked, bodies_customProps]
    cases persona <;> first | rfl | exact absurd rfl named
  · rw [customProps_status]
    cases persona.label with
    | none => exact Or.inl rfl
    | some label => exact Or.inr ⟨label, rfl⟩

theorem userJson_named (persona : Persona) (stId : Nat) (email : Str) (discordId : Option Str) :
    ¬Hollow (persona.userJson stId email discordId).customProps := by
  intro hollow
  obtain ⟨listed, unnamed⟩ := hollow
  by_cases formed : persona = .malformed
  · rw [formed] at listed
    exact listed rfl
  rw [userJson_customProps _ _ _ _ formed, bodies_customProps] at listed unnamed
  have names : ∀ lead ∈ persona.leads, lead.2 ≠ [] := by cases persona <;> decide
  obtain ⟨lead, there⟩ := List.exists_mem_of_ne_nil _ listed
  exact names lead there (unnamed lead there)

/-! ### The operations on the properties -/

theorem bodies_congr {props after : Dict Str Json}
    (same : ∀ field ∈ leadershipFields, after.get? field = props.get? field) :
    bodies after = bodies props := by
  unfold bodies labelsAt
  exact List.flatMap_congr fun field known => by rw [same field known]

theorem withStanding_other {standing : Standing} {props : Dict Str Json} {key : Str}
    (apart : key ≠ str "membership-status") :
    (withStanding standing props).get? key = props.get? key := by
  rw [withStanding, Dict.get?_set, if_neg apart]

theorem field_apart {field : Str} (known : field ∈ leadershipFields) :
    field ≠ str "membership-status" ∧ field ≠ str "is-chapter-leader" := by
  have fields : ∀ field ∈ leadershipFields, field ≠ str "membership-status" ∧
    field ≠ str "is-chapter-leader" := by decide
  exact fields field known

theorem withStanding_bodies (standing : Standing) (props : Dict Str Json) :
    bodies (withStanding standing props) = bodies props :=
  bodies_congr fun _ known => withStanding_other (field_apart known).1

theorem withStanding_listed {props : Dict Str Json} (standing : Standing) {field : Str}
    (known : field ∈ leadershipFields) (listed : Listed props field) :
    Listed (withStanding standing props) field := by
  rw [Listed, withStanding_other (field_apart known).1]
  exact listed

theorem withStanding_shaped {props : Dict Str Json} (shaped : Shaped props) (standing : Standing) :
    Shaped (withStanding standing props) where
  listed field known := withStanding_listed standing known (shaped.listed field known)
  flag := by
    rw [withStanding_other (by decide), withStanding_bodies]
    exact shaped.flag
  status := Or.inr ⟨standingLabel standing, by rw [withStanding, Dict.get?_set, if_pos rfl]⟩

theorem withoutLabel_entries (label : Str) (labels : List Str) :
    withoutLabel label (labels.map selectEntry) = .ok
      ((labels.filter (· ≠ label)).map selectEntry) := by
  induction labels with
  | nil => rfl
  | cons own labels ih =>
    have read : (selectEntry own).get (str "label") = .ok (.str own) := rfl
    rw [List.map_cons, withoutLabel, read, ok_bind, ih, ok_bind]
    by_cases same : own = label
    · rw [List.filter_cons_of_neg (by simp [same])]
      exact congrArg Except.ok (if_pos same)
    · rw [List.filter_cons_of_pos (by simp [same])]
      exact congrArg Except.ok (if_neg same)

/-- The labels of a field once one of them is turned. -/
def turnLabels (label : Str) (present : Bool) (labels : List Str) : List Str :=
  labels.filter (· ≠ label) ++ if present then [label] else []

/-- On the shape the mock keeps, turning a body never raises. -/
theorem turnBody_listed {props : Dict Str Json} {field : Str} (listed : Listed props field)
    (label : Str) (present : Bool) : turnBody props field label present = .ok
      (reflag (relist props field
        ((turnLabels label present (labelsAt props field)).map selectEntry)) present) := by
  have entries : (props.get? field).getD (.arr []) = .arr
      ((labelsAt props field).map selectEntry) := by
    unfold labelsAt
    rcases listed with absent | ⟨first, rest, there⟩
    · rw [absent]
      rfl
    · rw [there, Option.getD_some, Option.getD_some, labelsOf_selectProp]
      rfl
  rw [turnBody, entries, jsonItems, ok_bind, withoutLabel_entries, ok_bind, turnLabels]
  cases present with
  | true => rw [if_pos rfl, if_pos rfl, List.map_append]; rfl
  | false => rw [if_neg Bool.false_ne_true, if_neg Bool.false_ne_true, List.append_nil]; rfl

section
variable {props : Dict Str Json} {field : Str} (listed : Listed props field) (label : Str)
    (present : Bool)
include listed

theorem turned_eq : turned field label present props =
    reflag (relist props field ((turnLabels label present (labelsAt props field)).map selectEntry))
      present := by
  rw [turned, turnBody_listed listed]
  rfl

theorem get?_turned {key : Str} (unmarked : key ≠ str "is-chapter-leader") :
    (turned field label present props).get? key = if key = field then
      (if (turnLabels label present (labelsAt props field)).isEmpty then none
        else some (selectProp (turnLabels label present (labelsAt props field))))
          else props.get? key := by
  rw [turned_eq listed, reflag_other _ _ unmarked, get?_relist, List.isEmpty_map]
  rfl

theorem labelsAt_turned {key : Str} (other : key ∈ leadershipFields) :
    labelsAt (turned field label present props) key =
    if key = field then turnLabels label present (labelsAt props field)
      else labelsAt props key := by
  rw [labelsAt, get?_turned listed _ _ (field_apart other).2]
  split
  · split
    · rename_i empty
      rw [List.isEmpty_iff.mp empty]
      rfl
    · rw [Option.getD_some, labelsOf_selectProp]
  · rfl

theorem turned_listed {key : Str} (other : key ∈ leadershipFields) (before : Listed props key) :
    Listed (turned field label present props) key := by
  rw [Listed, get?_turned listed _ _ (field_apart other).2]
  split
  · cases turnLabels label present (labelsAt props field) with
    | nil => exact Or.inl rfl
    | cons first rest => exact Or.inr ⟨first, rest, rfl⟩
  · exact before

/-- The bodies listed then are those listed before without the one that is turned, and that one
where it is turned on. -/
theorem mem_bodies_turned (known : field ∈ leadershipFields) (body : Str × Str) :
    body ∈ bodies (turned field label present props) ↔
      (body ∈ bodies props ∧ body ≠ (field, label)) ∨ (present = true ∧ body = (field, label)) := by
  obtain ⟨key, name⟩ := body
  rw [mem_bodies, mem_bodies, Prod.mk.injEq, ne_eq, Prod.mk.injEq]
  by_cases other : key ∈ leadershipFields
  · rw [labelsAt_turned listed _ _ other]
    by_cases here : key = field
    · rw [if_pos here, ← here, turnLabels, List.mem_append, List.mem_filter]
      cases present <;> simp [other]
    · simp [here, other]
  · have apart : key ≠ field := fun same => other (same ▸ known)
    simp [other, apart]

end

section
variable {props : Dict Str Json} (shaped : Shaped props) {field : Str}
    (known : field ∈ leadershipFields) (label : Str) (present : Bool)
include shaped known

/-- The flag is looked for again once the field is written, and finds the bodies that are left. -/
theorem any_holds_relist :
    leadershipFields.any
      (holds (relist props field
      ((turnLabels label present (labelsAt props field)).map selectEntry))) =
      true ↔ bodies (turned field label present props) ≠ [] := by
  rw [List.any_eq_true, ne_eq, bodies_eq_nil]
  push Not
  refine exists_congr fun key => and_congr_right fun other => ?_
  rw [← holds_iff (turned_listed (shaped.listed field known) label present other
    (shaped.listed key other)), holds, holds,
    turned_eq (shaped.listed field known), reflag_other _ _ (field_apart other).2]

theorem turned_flag : (turned field label present props).get? (str "is-chapter-leader") =
    if bodies (turned field label present props) = [] then none
      else some (selectProp [str "Yes"]) := by
  have left := any_holds_relist shaped known label present
  have flag : (relist props field
      ((turnLabels label present (labelsAt props field)).map selectEntry)).get?
        (str "is-chapter-leader") = if bodies props = [] then none
          else some (selectProp [str "Yes"]) := by
    rw [get?_relist, if_neg (field_apart known).2.symm, shaped.flag]
  have yes : (some (selectProp [str "Yes"])).any Json.truthy = true := rfl
  have made := mem_bodies_turned (shaped.listed field known) label present known
  rw [turned_eq (shaped.listed field known)] at left made ⊢
  generalize relist props field
    ((turnLabels label present (labelsAt props field)).map selectEntry) = relisted at *
  cases present with
  | true =>
    rw [if_neg (List.ne_nil_of_mem ((made _).mpr (Or.inr ⟨rfl, rfl⟩))), reflag, if_pos rfl,
      holds, flag]
    by_cases unlisted : bodies props = []
    · rw [if_pos unlisted, if_neg (by decide), Dict.get?_set, if_pos rfl]
    · rw [if_neg unlisted, if_pos yes, flag, if_neg unlisted]
  | false =>
    by_cases remaining : bodies (reflag relisted false) = []
    · rw [if_pos remaining, reflag, if_neg Bool.false_ne_true,
        if_neg (fun any => left.mp any remaining), Dict.get?_erase, if_pos rfl]
    · have before : bodies props ≠ [] := by
        obtain ⟨body, there⟩ := List.exists_mem_of_ne_nil _ remaining
        rcases (made _).mp there with ⟨listed, -⟩ | ⟨on, -⟩
        · exact List.ne_nil_of_mem listed
        · cases on
      rw [if_neg remaining, reflag, if_neg Bool.false_ne_true, if_pos (left.mpr remaining), flag,
        if_neg before]

theorem turned_shaped : Shaped (turned field label present props) where
  listed key other := turned_listed (shaped.listed field known) label present other
    (shaped.listed key other)
  flag := turned_flag shaped known label present
  status := by
    rw [get?_turned (shaped.listed field known) _ _ (by decide), if_neg (field_apart known).1.symm]
    exact shaped.status

end

end Rosadmin.MockSt
