import Rosadmin.Foundation.Runs
import Rosadmin.MockSt.Bodies

/-!
# The flag and the leads

`set_leadership` keeps `is-chapter-leader` in step with the fields, and counts
every entry; the decoder drops an entry whose label is empty.
-/

namespace Rosadmin.MockSt
open Foundation

/-! ### Agreement over a run -/

/-- Every record the decoder accepts is a leader's exactly where it has leads. -/
def Agrees (store : RosterStore) : Prop := ∀ record ∈ store.asRecords, ∀ member,
    decodeUser record.toJson = .ok member → (member.isChapterLeader = true ↔ member.leads ≠ [])

/-- The operation leaves an accepted record whose bodies all lack a name: a nameless body is turned
on where no body has a name, the last one with a name is turned off while others are left, or a
record of nameless bodies is given a status. -/
def Hollows (store : RosterStore) : Operation → Prop
  | .setStanding email _ => ∃ record, store.records.get? email = some record ∧ Addressed record ∧
      Hollow record.customProps
  | .setLeadership email _ _ label true => ∃ record, store.records.get? email = some record ∧
      Accepted record ∧ label = [] ∧ ∀ body ∈ bodies record.customProps, body.2 = []
  | .setLeadership email field _ label false => ∃ record, store.records.get? email = some record ∧
      Accepted record ∧ (∃ body ∈ bodies record.customProps, body ≠ (field, label)) ∧
        ∀ body ∈ bodies record.customProps, body ≠ (field, label) → body.2 = []
  | _ => False

def MarksNobody : Operation → Prop
  | .set _ persona _ => persona = .markedNoBody
  | _ => False

def AllShaped (store : RosterStore) : Prop :=
  ∀ email record, store.records.get? email = some record → Shaped record.customProps

theorem agrees_iff_named {store : RosterStore} (shaped : AllShaped store) : Agrees store ↔
    ∀ email record, store.records.get? email = some record →
      ¬(Accepted record ∧ Hollow record.customProps) := by
  constructor
  · intro agrees email record found
    exact (agrees_iff (shaped email record found)).mp
      (agrees record (mem_asRecords.mpr ⟨email, found⟩))
  · intro named record served
    obtain ⟨email, found⟩ := mem_asRecords.mp served
    exact (agrees_iff (shaped email record found)).mpr (named email record found)

theorem apply_shaped {store : RosterStore} (shaped : AllShaped store) {op : Operation}
    (named : ¬MarksNobody op) : AllShaped (store.apply op) := by
  intro email record found
  rcases get?_apply found with before | written
  · exact shaped email record before
  · cases written with
    | generated persona discordId => exact userJson_shaped named _ _ _
    | standing before standing => exact withStanding_shaped (shaped email _ before) standing
    | leadership before known label present =>
        exact turned_shaped (shaped email _ before) known label present

theorem apply_agrees_written {store : RosterStore} (shaped : AllShaped store) {op : Operation}
    (named : ¬MarksNobody op) (agrees : Agrees store) : Agrees (store.apply op) ↔
      ∀ email record, Written store op email record →
        ¬(Accepted record ∧ Hollow record.customProps) := by
  rw [agrees_iff_named (apply_shaped shaped named)]
  constructor
  · exact fun clean email record written => clean email record written.served
  · intro clean email record found
    rcases get?_apply found with before | written
    · exact (agrees_iff_named shaped).mp agrees email record before
    · exact clean email record written

theorem accepted_withStanding {record : UserJson} (standing : Standing) :
    Accepted (record.patch (withStanding standing)) ↔ Addressed record := by
  refine and_iff_left ⟨standing, ?_⟩
  show (withStanding standing record.customProps).get? (str "membership-status") = _
  rw [withStanding, Dict.get?_set, if_pos rfl]

theorem hollow_withStanding {record : UserJson} (standing : Standing) :
    Hollow (record.patch (withStanding standing)).customProps ↔ Hollow record.customProps := by
  show Hollow (withStanding standing record.customProps) ↔ _
  rw [Hollow, withStanding_bodies]
  rfl

section
variable {record : UserJson} (shaped : Shaped record.customProps) {field : Str}
    (known : field ∈ leadershipFields) (label : Str)
include shaped known

theorem accepted_turned (present : Bool) :
    Accepted (record.patch (turned field label present)) ↔ Accepted record := by
  refine and_congr_right fun _ => exists_congr fun standing => ?_
  show (turned field label present record.customProps).get? (str "membership-status") = _ ↔ _
  rw [get?_turned (shaped.listed field known) _ _ (by decide), if_neg (field_apart known).1.symm]

theorem hollow_turned_on : Hollow (turned field label true record.customProps) ↔
    label = [] ∧ ∀ body ∈ bodies record.customProps, body.2 = [] := by
  have made := mem_bodies_turned (shaped.listed field known) label true known
  constructor
  · intro hollow
    have unnamed := hollow.2
    have empty : label = [] := unnamed (field, label) ((made _).mpr (Or.inr ⟨rfl, rfl⟩))
    refine ⟨empty, fun body listed => ?_⟩
    by_cases same : body = (field, label)
    · rw [same]
      exact empty
    · exact unnamed body ((made _).mpr (Or.inl ⟨listed, same⟩))
  · intro named
    obtain ⟨empty, unnamed⟩ := named
    refine ⟨List.ne_nil_of_mem ((made _).mpr (Or.inr ⟨rfl, rfl⟩)), fun body there => ?_⟩
    rcases (made _).mp there with ⟨listed, -⟩ | ⟨-, rfl⟩
    · exact unnamed body listed
    · exact empty

theorem hollow_turned_off : Hollow (turned field label false record.customProps) ↔
    (∃ body ∈ bodies record.customProps, body ≠ (field, label)) ∧
      ∀ body ∈ bodies record.customProps, body ≠ (field, label) → body.2 = [] := by
  have made : ∀ body, body ∈ bodies (turned field label false record.customProps) ↔
      body ∈ bodies record.customProps ∧ body ≠ (field, label) := by
    intro body
    rw [mem_bodies_turned (shaped.listed field known) label false known]
    simp
  constructor
  · intro hollow
    obtain ⟨listed, unnamed⟩ := hollow
    obtain ⟨body, there⟩ := List.exists_mem_of_ne_nil _ listed
    exact ⟨⟨body, (made _).mp there⟩, fun body here apart =>
      unnamed body ((made _).mpr ⟨here, apart⟩)⟩
  · intro left
    obtain ⟨⟨body, here⟩, unnamed⟩ := left
    refine ⟨List.ne_nil_of_mem ((made body).mpr here), fun body there => ?_⟩
    obtain ⟨listed, apart⟩ := (made _).mp there
    exact unnamed body listed apart

end

/-- A step keeps the agreement exactly where it leaves no record without a name. -/
theorem apply_agrees {store : RosterStore} (shaped : AllShaped store) (agrees : Agrees store)
    {op : Operation} (named : ¬MarksNobody op) : Agrees (store.apply op) ↔ ¬Hollows store op := by
  rw [apply_agrees_written shaped named agrees]
  constructor
  · intro clean hollows
    cases op with
    | set email persona discordId => exact hollows
    | delete email => exact hollows
    | setStanding email standing =>
      obtain ⟨record, found, addressed, hollow⟩ := hollows
      exact clean email _ (.standing found standing)
        ⟨(accepted_withStanding standing).mpr addressed, (hollow_withStanding standing).mpr hollow⟩
    | setLeadership email field known label present =>
      cases present with
      | true =>
        obtain ⟨record, found, accepted, unnamed⟩ := hollows
        have shaped := shaped email record found
        exact clean email _ (.leadership found known label true)
          ⟨(accepted_turned shaped known label true).mpr accepted,
            (hollow_turned_on shaped known label).mpr unnamed⟩
      | false =>
        obtain ⟨record, found, accepted, unnamed⟩ := hollows
        have shaped := shaped email record found
        exact clean email _ (.leadership found known label false)
          ⟨(accepted_turned shaped known label false).mpr accepted,
            (hollow_turned_off shaped known label).mpr unnamed⟩
  · intro clean email record written both
    obtain ⟨accepted, hollow⟩ := both
    cases written with
    | generated persona discordId => exact userJson_named _ _ _ _ hollow
    | standing found standing =>
      exact clean ⟨_, found, (accepted_withStanding standing).mp accepted,
        (hollow_withStanding standing).mp hollow⟩
    | leadership found known label present =>
      have shaped := shaped email _ found
      have before := (accepted_turned shaped known label present).mp accepted
      cases present with
      | true => exact clean ⟨_, found, before, (hollow_turned_on shaped known label).mp hollow⟩
      | false => exact clean ⟨_, found, before, (hollow_turned_off shaped known label).mp hollow⟩

theorem start_named {parsed : List RosterEntry}
    (named : ∀ entry ∈ parsed, entry.persona ≠ .markedNoBody) :
    AllShaped (.ofEntries parsed) ∧ Agrees (.ofEntries parsed) := by
  have shaped : AllShaped (.ofEntries parsed) := by
    intro email record found
    obtain ⟨-, entry, last, generated⟩ := generate_record found
    rw [generated]
    exact userJson_shaped (named entry (lastEntry_mem last)) _ _ _
  refine ⟨shaped, (agrees_iff_named shaped).mpr fun email record found hollow => ?_⟩
  obtain ⟨-, entry, last, generated⟩ := generate_record found
  rw [generated] at hollow
  exact userJson_named _ _ _ _ hollow.2

/-- The flag agrees with the leads all along a run exactly where no step leaves an accepted record
whose bodies lack a name. -/
theorem leadership_agrees_iff {parsed : List RosterEntry} {ops : List Operation}
    (entries : ∀ entry ∈ parsed, entry.persona ≠ .markedNoBody)
    (named : ∀ op ∈ ops, ¬MarksNobody op) :
    (∀ reached, reached <+: ops → Agrees (reached.foldl RosterStore.apply (.ofEntries parsed))) ↔
      Guarded RosterStore.apply (fun store op => ¬Hollows store op) (.ofEntries parsed) ops := by
  have kept : ∀ store op, ¬MarksNobody op → AllShaped store → AllShaped (store.apply op) :=
    fun _ _ named shaped => apply_shaped shaped named
  have exact : ∀ store op, ¬MarksNobody op → AllShaped store → Agrees store →
      (Agrees (store.apply op) ↔ ¬Hollows store op) :=
        fun _ _ named shaped agrees => apply_agrees shaped agrees named
  obtain ⟨shaped, agrees⟩ := start_named entries
  exact guarded_iff_among kept exact named shaped agrees

def krisInGoodStanding : List RosterEntry := [⟨str "kris@example.com", .goodStanding, none⟩]

def grantKris (label : Str) : Operation :=
  .setLeadership (str "kris@example.com") (str "committee-leadership") (by decide) label true

theorem leadership_agrees_iff_steering :
    (∀ reached, reached <+: [grantKris (str "Steering")] →
        Agrees (reached.foldl RosterStore.apply (.ofEntries krisInGoodStanding))) ↔
      Guarded RosterStore.apply (fun store op => ¬Hollows store op) (.ofEntries krisInGoodStanding)
        [grantKris (str "Steering")] :=
  leadership_agrees_iff (by decide) fun op member => by
    rw [List.mem_singleton.mp member]
    exact id

/-- A body without a name turns the flag on and is no lead. -/
theorem nameless_body_disagrees : ¬∀ reached : List Operation, reached <+: [grantKris []] →
    Agrees (reached.foldl RosterStore.apply (.ofEntries krisInGoodStanding)) := by
  intro agrees
  have flagged := agrees _ (List.prefix_refl _) _ List.mem_cons_self _ rfl
  exact flagged.mp rfl rfl

end Rosadmin.MockSt
