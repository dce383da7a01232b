import Rosadmin.Foundation.Grouping
import Rosadmin.Web.Authority

/-!
# The rosters of a leader

The groups of a leader come out of one query over all their bodies, whose rows
are filed under their body again. The server may answer the rows of one name in
any order; whichever it is, the groups are the bodies the leader leads, each with
the roster a query of its own would find.
-/

namespace Rosadmin.Web
open Foundation

/-! ### Body by body -/

def rosterEntry (row : LedBodyMemberRow) : GroupMember :=
  ⟨⟨row.memberId, fullName row.firstName row.lastName row.alternateName, row.email⟩, row.role⟩

/-- One body's rows of the joined query. -/
def bodyRows (db : Database) (lb : LeadershipBodiesRow) : List LedBodyMemberRow :=
  (db.bodyMemberships.filter (·.bodyId = lb.id)).flatMap fun other =>
    (db.members.filter (fun m => m.id = other.memberId && !db.banned m.id)).map fun m =>
      { bodyId := lb.id, bodyName := lb.name, bodyType := lb.bodyType, memberId := m.id,
        firstName := m.firstName, lastName := m.lastName, alternateName := m.alternateName,
        email := m.email, role := other.role }

/-- Who is in one body, banned members left out. -/
def rosterOf (db : Database) (bodyId : UUID) : List GroupMember :=
  (db.bodyMemberships.filter (·.bodyId = bodyId)).flatMap fun other =>
    (db.members.filter (fun m => m.id = other.memberId && !db.banned m.id)).map fun m =>
      ⟨⟨m.id, fullName m.firstName m.lastName m.alternateName, m.email⟩, other.role⟩

/-- The groups that the rows of the joined query make. -/
def groupsOf (rows : List LedBodyMemberRow) : List Group :=
  (rows.foldl enroll Dict.empty).items.map fun e =>
    { e.2 with members := e.2.members.insertionSort (fun a b => a.fullName ≤ b.fullName) }

theorem groupsFor_eq (locale : Locale) (db : Database) (principal : Principal) :
    groupsFor locale db principal = do
    let member ← resolveMember db principal
    return groupsOf (db.ledBodiesWithMembers locale member.id) := rfl

/-- The bodies somebody leads, each with its own roster in the order of the names. -/
structure ListsRosters (locale : Locale) (db : Database) (memberId : UUID) (groups : List Group)
    (summaries : List GroupSummary) : Prop where
  once : (groups.map (·.id)).Nodup
  led : ∀ summary, summary ∈ groups.map (·.toGroupSummary) ↔ ∃ body ∈ db.leadershipBodies,
    db.isLeaderOf memberId body.id = true ∧ summary = ⟨body.id, body.name, body.bodyType⟩
  summaries : (groups.map (·.toGroupSummary)).Perm summaries
  rosters : ∀ group ∈ groups, group.members.Perm (rosterOf db group.id)
  sorted : ∀ group ∈ groups, group.members.Pairwise (fun a b => a.fullName ≤ b.fullName)
  ordered : groups.Pairwise (fun a b => locale.le a.name b.name = true)

section
variable {locale : Locale} {db : Database} {memberId : UUID} {rows : List LedBodyMemberRow}

theorem bodyRows_members (db : Database) (lb : LeadershipBodiesRow) :
    (bodyRows db lb).map rosterEntry = rosterOf db lb.id := by
  rw [bodyRows, rosterOf, List.map_flatMap]
  refine List.flatMap_congr fun other _ => ?_
  rw [List.map_map]
  rfl

theorem bodyRows_body {lb : LeadershipBodiesRow} {row : LedBodyMemberRow}
    (there : row ∈ bodyRows db lb) :
    row.bodyId = lb.id ∧ row.bodyName = lb.name ∧ row.bodyType = lb.bodyType := by
  obtain ⟨other, -, there⟩ := List.mem_flatMap.mp there
  obtain ⟨m, -, rfl⟩ := List.mem_map.mp there
  exact ⟨rfl, rfl, rfl⟩

theorem joined_perm (locale : Locale) (db : Database) (memberId : UUID) :
    (db.ledBodiesWithMembers locale memberId).Perm
      (db.leadershipBodies.flatMap fun lb => if db.isLeaderOf memberId lb.id then bodyRows db lb
        else []) :=
  List.mergeSort_perm _ _

/-- The bodies have distinct ids, so the rows of one body are those of its own query. -/
theorem joined_filter (valid : db.Valid) {lb : LeadershipBodiesRow}
    (there : lb ∈ db.leadershipBodies) (led : db.isLeaderOf memberId lb.id = true) :
    (db.leadershipBodies.flatMap fun lb => if db.isLeaderOf memberId lb.id then bodyRows db lb
      else []).filter
      (·.bodyId = lb.id) = bodyRows db lb := by
  obtain ⟨before, after, split⟩ := List.append_of_mem there
  have ids := valid.bodies.ids
  rw [split, List.map_append, List.map_cons] at ids
  have others : ∀ other ∈ before ++ after, other.id ≠ lb.id := by
    intro other present same
    have nodup := List.nodup_middle.mp ids
    exact (List.nodup_cons.mp nodup).1
      (by rw [← List.map_append]; exact same ▸ List.mem_map_of_mem present)
  have none : ∀ part, part ⊆ before ++ after →
      part.flatMap (fun other => (if db.isLeaderOf memberId other.id then bodyRows db other
        else []).filter (·.bodyId = lb.id)) = [] := by
    intro part among
    refine List.flatMap_eq_nil_iff.mpr fun other present =>
      List.filter_eq_nil_iff.mpr fun row here mine => ?_
    split at here
    · exact others other (among present)
        ((bodyRows_body here).1.symm.trans (of_decide_eq_true mine))
    · cases here
  have own : (bodyRows db lb).filter (·.bodyId = lb.id) = bodyRows db lb :=
    List.filter_eq_self.mpr fun row here => decide_eq_true (bodyRows_body here).1
  rw [List.filter_flatMap, split, List.flatMap_append, List.flatMap_cons, if_pos led, own,
    none before (List.subset_append_left _ _), none after (List.subset_append_right _ _),
      List.append_nil, List.nil_append]

/-! ### The entry of a body -/

/-- `enroll`, with the entry it finds. -/
def enlist (found : Option Group) (row : LedBodyMemberRow) : Group :=
  let group := found.getD ⟨⟨row.bodyId, row.bodyName, row.bodyType⟩, []⟩
  { group with members := group.members ++ [rosterEntry row] }

theorem entryOf_enlist (rows : List LedBodyMemberRow) (group : Group) :
    entryOf enlist (some group) rows = some { group with
      members := group.members ++ rows.map rosterEntry } := by
  induction rows generalizing group with
  | nil => rw [List.map_nil, List.append_nil]; rfl
  | cons row rows ih =>
    show entryOf enlist (some (enlist (some group) row)) rows = _
    rw [ih]
    simp [enlist]

/-- The first row of a body brings its name and type, and every row a member. -/
theorem entryOf_body {id : UUID} {group : Group}
    (made : entryOf enlist none (rows.filter (·.bodyId = id)) = some group) :
    group.members = (rows.filter (·.bodyId = id)).map rosterEntry ∧
      ∃ row ∈ rows, row.bodyId = id ∧ group.toGroupSummary = ⟨row.bodyId, row.bodyName,
        row.bodyType⟩ := by
  cases mine : rows.filter (·.bodyId = id) with
  | nil =>
    rw [mine] at made
    cases made
  | cons row rest =>
    rw [mine] at made
    have here : row ∈ rows.filter (·.bodyId = id) := mine ▸ List.mem_cons_self
    have one : entryOf enlist (some (enlist none row)) rest = some group := made
    rw [entryOf_enlist] at one
    cases one
    exact ⟨rfl, row, List.mem_of_mem_filter here, by simpa using List.of_mem_filter here, rfl⟩

theorem mem_joined {row : LedBodyMemberRow}
    (answered : rows.Perm (db.ledBodiesWithMembers locale memberId)) (there : row ∈ rows) :
    ∃ lb ∈ db.leadershipBodies, db.isLeaderOf memberId lb.id = true ∧
      row.bodyId = lb.id ∧ row.bodyName = lb.name ∧ row.bodyType = lb.bodyType := by
  obtain ⟨lb, body, there⟩ :=
    List.mem_flatMap.mp ((answered.trans (joined_perm locale db memberId)).subset there)
  split at there
  · rename_i led
    exact ⟨lb, body, led, bodyRows_body there⟩
  · cases there

/-- A leader who is not banned is in the roster of every body they lead, so the body has a row. -/
theorem led_joined (answered : rows.Perm (db.ledBodiesWithMembers locale memberId)) {m : MembersRow}
    (there : m ∈ db.members) (mine : m.id = memberId) (unbanned : db.banned m.id = false)
    {lb : LeadershipBodiesRow} (body : lb ∈ db.leadershipBodies)
    (led : db.isLeaderOf memberId lb.id = true) : lb.id ∈ rows.map (·.bodyId) := by
  obtain ⟨own, held, leads⟩ := List.any_eq_true.mp led
  simp only [Bool.and_eq_true, decide_eq_true_eq] at leads
  obtain ⟨row, here⟩ : ∃ row, row ∈ bodyRows db lb := by
    refine ⟨_, List.mem_flatMap.mpr ⟨own, List.mem_filter.mpr ⟨held, decide_eq_true leads.1.2⟩,
      List.mem_map.mpr ⟨m, List.mem_filter.mpr ⟨there, ?_⟩, rfl⟩⟩⟩
    simp [mine, leads.1.1, mine ▸ unbanned]
  refine List.mem_map.mpr ⟨row, (answered.trans (joined_perm locale db memberId)).mem_iff.mpr ?_,
    (bodyRows_body here).1⟩
  exact List.mem_flatMap.mpr ⟨lb, body, by rw [if_pos led]; exact here⟩

/-! ### The groups -/

theorem groupsOf_item {group : Group} (listed : group ∈ groupsOf rows) : ∃ filed : Group,
    (filed.id, filed) ∈ (rows.foldl enroll Dict.empty).items ∧
      group = { filed with members := filed.members.insertionSort (fun a b => a.fullName ≤ b.fullName) } ∧
      filed.members = (rows.filter (·.bodyId = filed.id)).map rosterEntry ∧
      ∃ row ∈ rows, row.bodyId = filed.id ∧ filed.toGroupSummary = ⟨row.bodyId, row.bodyName,
        row.bodyType⟩ := by
  obtain ⟨⟨id, filed⟩, item, rfl⟩ := List.mem_map.mp listed
  obtain ⟨-, made⟩ : id ∈ rows.map (·.bodyId) ∧ entryOf enlist none (rows.filter (·.bodyId = id)) =
    some filed :=
    item_fileRows item
  obtain ⟨members, row, there, rfl, summary⟩ := entryOf_body made
  obtain same : filed.id = row.bodyId := congrArg GroupSummary.id summary
  refine ⟨filed, same ▸ item, rfl, same ▸ members, row, there, same.symm, summary⟩

theorem groupsOf_ids (rows : List LedBodyMemberRow) :
    (groupsOf rows).map (·.id) = (rows.foldl enroll Dict.empty).keys := by
  rw [groupsOf, List.map_map]
  refine List.map_congr_left fun e item => ?_
  obtain ⟨id, filed⟩ := e
  obtain ⟨-, made⟩ : id ∈ rows.map (·.bodyId) ∧ entryOf enlist none (rows.filter (·.bodyId = id)) =
    some filed :=
    item_fileRows item
  obtain ⟨-, row, -, rfl, summary⟩ := entryOf_body made
  exact congrArg GroupSummary.id summary

/-- Each group is a body led, with its own roster. -/
theorem groupsOf_body (valid : db.Valid)
    (answered : rows.Perm (db.ledBodiesWithMembers locale memberId)) {group : Group}
    (listed : group ∈ groupsOf rows) : ∃ lb ∈ db.leadershipBodies,
      db.isLeaderOf memberId lb.id = true ∧
      group.toGroupSummary = ⟨lb.id, lb.name, lb.bodyType⟩ ∧ group.members.Perm (rosterOf db lb.id) := by
  obtain ⟨filed, -, rfl, members, row, there, id, summary⟩ := groupsOf_item listed
  obtain ⟨lb, body, led, same, name, bodyType⟩ := mem_joined answered there
  refine ⟨lb, body, led, ?_, ?_⟩
  · show filed.toGroupSummary = _
    rw [summary, same, name, bodyType]
  · have own : (rows.filter (·.bodyId = lb.id)).Perm (bodyRows db lb) := by
      rw [← joined_filter valid body led]
      exact (answered.trans (joined_perm locale db memberId)).filter _
    refine (List.perm_insertionSort _ _).trans ?_
    rw [members, ← id, same, ← bodyRows_members]
    exact own.map rosterEntry

def nameOf (db : Database) (bodyId : UUID) : Str := ((db.bodyLink bodyId).map (·.name)).getD []

theorem nameOf_body (valid : db.Valid) {lb : LeadershipBodiesRow}
    (body : lb ∈ db.leadershipBodies) : nameOf db lb.id = lb.name := by
  have found : db.bodyLink lb.id = some lb := find?_key valid.bodies.ids body
  rw [nameOf, found]
  rfl

theorem groupsOf_ordered (valid : db.Valid)
    (answered : rows.Perm (db.ledBodiesWithMembers locale memberId))
    (ordered : rows.Pairwise fun a b => locale.le a.bodyName b.bodyName = true) :
    (groupsOf rows).Pairwise fun a b => locale.le a.name b.name = true := by
  have named : ∀ row ∈ rows, row.bodyName = nameOf db row.bodyId := by
    intro row there
    obtain ⟨lb, body, -, id, name, -⟩ := mem_joined answered there
    rw [id, name, nameOf_body valid body]
  have keys : (rows.foldl enroll Dict.empty).keys.Pairwise fun a b =>
      locale.le (nameOf db a) (nameOf db b) = true := by
    refine ordered_fileRows (ordered.imp_of_mem fun {a b} here there le => ?_)
    rw [← named a here, ← named b there]
    exact le
  rw [← groupsOf_ids] at keys
  have own : ∀ group ∈ groupsOf rows, nameOf db group.id = group.name := by
    intro group listed
    obtain ⟨lb, body, -, summary, -⟩ := groupsOf_body valid answered listed
    have id : group.id = lb.id := congrArg GroupSummary.id summary
    have name : group.name = lb.name := congrArg GroupSummary.name summary
    rw [id, name, nameOf_body valid body]
  refine (List.pairwise_map.mp keys).imp_of_mem fun {a b} here there le => ?_
  rw [← own a here, ← own b there]
  exact le

end

/-- Whatever order the server answers in, the groups of a leader are the bodies they lead, in the
order of their names, each once and with everyone in it who is not banned; and the summaries are
those of the same bodies. -/
theorem rosters_listed {locale : Locale} {db : Database} {principal : Principal} {actor : MemberRow}
    (valid : db.Valid) (resolved : resolveMember db principal = .ok actor)
    {rows : List LedBodyMemberRow} {bodies : List BodyRow}
    (answered : rows.Perm (db.ledBodiesWithMembers locale actor.id))
    (ordered : rows.Pairwise fun a b => locale.le a.bodyName b.bodyName = true)
    (summarised : bodies.Perm (db.bodiesLedBy locale actor.id)) :
    ListsRosters locale db actor.id (groupsOf rows)
      (bodies.map fun body => ⟨body.id, body.name, body.bodyType⟩) := by
  obtain ⟨m, there, mine, unbanned, -⟩ := resolveMember_acts resolved
  have ids : ((groupsOf rows).map (·.id)).Nodup := by
    rw [groupsOf_ids]
    exact (rows.foldl enroll Dict.empty).nodup
  have led : ∀ summary, summary ∈ (groupsOf rows).map (·.toGroupSummary) ↔
      ∃ body ∈ db.leadershipBodies,
        db.isLeaderOf actor.id body.id = true ∧ summary = ⟨body.id, body.name, body.bodyType⟩ := by
    intro summary
    constructor
    · intro listed
      obtain ⟨group, here, rfl⟩ := List.mem_map.mp listed
      obtain ⟨lb, body, leads, same, -⟩ := groupsOf_body valid answered here
      exact ⟨lb, body, leads, same⟩
    · rintro ⟨lb, body, leads, rfl⟩
      have key : lb.id ∈ (groupsOf rows).map (·.id) := by
        rw [groupsOf_ids]
        exact (mem_keys_fileRows rows Dict.empty lb.id).mpr
          (Or.inr (led_joined answered there mine unbanned body leads))
      obtain ⟨group, listed, same⟩ := List.mem_map.mp key
      obtain ⟨other, body', -, summary, -⟩ := groupsOf_body valid answered listed
      obtain rfl : other = lb := List.inj_on_of_nodup_map valid.bodies.ids body' body
        ((congrArg GroupSummary.id summary).symm.trans same)
      exact summary ▸ List.mem_map_of_mem listed
  refine { once := ids, led, summaries := ?_, rosters := ?_, sorted := ?_, ordered := ?_ }
  · have nodup : ((groupsOf rows).map (·.toGroupSummary)).Nodup := by
      refine List.Nodup.of_map GroupSummary.id ?_
      rw [List.map_map]
      exact ids
    have selected : (bodies.map fun body =>
      (⟨body.id, body.name, body.bodyType⟩ : GroupSummary)).Perm
        ((db.leadershipBodies.filter (fun lb => db.isLeaderOf actor.id lb.id)).map fun lb => ⟨lb.id,
          lb.name, lb.bodyType⟩) := by
      refine ((summarised.trans (List.mergeSort_perm _ _)).map _).trans ?_
      rw [List.map_map]
      exact List.Perm.refl _
    refine List.Perm.trans ?_ selected.symm
    refine (List.perm_ext_iff_of_nodup nodup ?_).mpr fun summary => ?_
    · refine List.Nodup.of_map GroupSummary.id ?_
      rw [List.map_map]
      exact valid.bodies.ids.sublist (List.filter_sublist.map _)
    · rw [led, List.mem_map]
      simp only [List.mem_filter, and_assoc, eq_comm]
  · intro group listed
    obtain ⟨lb, -, -, summary, members⟩ := groupsOf_body valid answered listed
    have same : group.id = lb.id := congrArg GroupSummary.id summary
    exact same ▸ members
  · intro group listed
    obtain ⟨filed, -, rfl, -⟩ := groupsOf_item listed
    have : Std.Total (fun a b : GroupMember => a.fullName ≤ b.fullName) :=
      ⟨fun a b => le_total a.fullName b.fullName⟩
    have : IsTrans GroupMember (fun a b => a.fullName ≤ b.fullName) := ⟨fun _ _ _ => le_trans⟩
    exact List.pairwise_insertionSort _ _
  · exact groupsOf_ordered valid answered ordered

/-- Ana leads two bodies of one name. -/
def namesakes : Database :=
  { Database.empty with
    members := [{ plainMember 0 (str "ana@pdx.org") with discordUserId := some 7 },
      plainMember 1 (str "bo@pdx.org")]
    leadershipBodies := [⟨2, str "Steering", str "Committee", none, none⟩,
      ⟨3, str "Steering", str "Campaign", none, none⟩]
    bodyMemberships := [⟨0, 2, .leader, none, none⟩, ⟨1, 2, .member, none, none⟩,
      ⟨0, 3, .leader, none, none⟩]
    nextId := 4 }

def codePoints : Locale := ⟨lower, fun a b => a ≤ b⟩

/-- The rows of one name mixed, as the server may answer them. -/
def mixedRows : List LedBodyMemberRow :=
  [⟨3, str "Steering", str "Campaign", 0, none, none, none, str "ana@pdx.org", .leader⟩,
    ⟨2, str "Steering", str "Committee", 1, none, none, none, str "bo@pdx.org", .member⟩,
    ⟨2, str "Steering", str "Committee", 0, none, none, none, str "ana@pdx.org", .leader⟩]

theorem rosters_listed_mixed : ListsRosters codePoints namesakes 0 (groupsOf mixedRows)
    [⟨2, str "Steering", str "Committee"⟩, ⟨3, str "Steering", str "Campaign"⟩] := by
  have valid : namesakes.Valid := by
    constructor <;> constructor <;> decide
  obtain ⟨actor, resolved, ana⟩ : ∃ actor, resolveMember namesakes ⟨str "7"⟩ = .ok actor ∧
    actor.id = 0 := ⟨_, rfl, rfl⟩
  have answered : mixedRows.Perm (namesakes.ledBodiesWithMembers codePoints 0) :=
    List.Perm.trans (by decide) (joined_perm codePoints namesakes 0).symm
  have bodies : [(⟨2, str "Steering", str "Committee"⟩ : BodyRow),
      ⟨3, str "Steering", str "Campaign"⟩].Perm
        (namesakes.bodiesLedBy codePoints 0) :=
        List.Perm.trans (by decide) (List.mergeSort_perm _ _).symm
  have listed := rosters_listed valid resolved (ana.symm ▸ answered) (by decide) (ana.symm ▸ bodies)
  exact ana ▸ listed

end Rosadmin.Web
