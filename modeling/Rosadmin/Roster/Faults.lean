import Rosadmin.Membership.Decode
import Rosadmin.Roster.Close

/-!
# What aborts a pull

A pull skips a clash and nothing else. The invariant keeps each gathered pair
a row of both tables, so what is left to fail is a value that no column takes
and a pair gathered twice.
-/

namespace Rosadmin
open Foundation

section
variable {server : Server} {memberId : UUID} {leads : List Leadership} {member : Member}
    {cols : MemberColumns} {work : PullWork}

theorem pairLeadership_total {leadership : Leadership} (held : server.HoldsKey leadership.name) :
    ∃ after, pairLeadership server memberId work leadership = .ok after := by
  rw [pairLeadership, bodyIdOf]
  cases work.bodyIds.get? leadership with
  | some bodyId => exact ⟨_, rfl⟩
  | none => exact ⟨_, by rw [bindKey_ok.mpr ⟨held, rfl⟩]; rfl⟩

theorem pairLeaderships_total (held : ∀ leadership ∈ leads, server.HoldsKey leadership.name) :
    ∃ after, leads.foldlM (pairLeadership server memberId) work = .ok after :=
  foldlM_ok_iff.mpr fun _ leadership _ whole _ _ =>
    pairLeadership_total (held leadership (by simp [whole]))

theorem upsertOne_total (bound : bindMember server member = .ok cols)
    (clear : ¬∃ row ∈ work.db.members, cols.clashesWith row = true)
    (held : ∀ leadership ∈ member.leads, server.HoldsKey leadership.name) :
    ∃ upserted, upsertOne server member work = .ok upserted := by
  rw [upsertOne, bound, ok_bind]
  cases stored : work.db.upsertMember cols with
  | error error => exact absurd (Database.upsertMember_error.mp stored).2 clear
  | ok upserted =>
    obtain ⟨after, paired⟩ : ∃ after, member.leads.foldlM (pairLeadership server upserted.1)
        { work with db := upserted.2 } = .ok after := pairLeaderships_total held
    rw [ok_bind, paired, ok_bind]
    exact ⟨_, rfl⟩

theorem mergeAndRetry_total {roster : List Int}
    (table : MembersTable work.db.members work.db.nextId) (own : cols.stId ∈ roster)
    (bound : bindMember server member = .ok cols) (compares : server.compares member.email = true)
    (free : ¬Blocked roster true work.db cols)
    (held : ∀ leadership ∈ member.leads, server.HoldsKey leadership.name) :
    ∃ retried, mergeAndRetry server roster member work = .ok retried := by
  have clear := mt (clash_after_fold (mergeDuplicates_folded table own)).mp fun ⟨row, present,
    clash, listed⟩ =>
    free ⟨row, present, clash, fun _ => listed⟩
  obtain ⟨upserted, retried⟩ : ∃ upserted, upsertOne server member { work with
      db := mergeInto cols.stId (work.db.mergeDuplicatesOf
        (some cols.email) cols.discordUserId roster) work.db } =
        .ok upserted := upsertOne_total bound clear held
  rw [mergeAndRetry, (mergeDuplicates_ok bound).mpr ⟨compares, rfl⟩, ok_bind, retried, ok_bind]
  exact ⟨_, rfl⟩

end

/-! ### The gathered pairs -/

/-- The constraints a pull relies on. -/
structure Database.Keyed (db : Database) : Prop where
  members : MembersTable db.members db.nextId
  bodies : LeadershipBodiesTable db.leadershipBodies db.nextId

theorem Database.Valid.keyed {db : Database} (valid : db.Valid) : db.Keyed :=
  ⟨valid.members, valid.bodies⟩

/-- Each pair gathered names the row of a roster member and the body of a leadership. -/
structure Gathered (server : Server) (roster : List Int) (s : PullState) : Prop where
  table : MembersTable s.db.members s.db.nextId
  bodies : KnownBodies server s.toPullWork
  pairs : ∀ pair ∈ s.pairs, (∃ row ∈ s.db.members, row.id = pair.1 ∧ row.stId ∈ roster) ∧
    ∃ leadership, s.bodyIds.get? leadership = some pair.2

section
variable {server : Server} {roster : List Int} {completeMerges : Bool} {member : Member}
  {cols : MemberColumns} {id : UUID} {duplicates : List MembersRow} {s t : PullState}

theorem Gathered.start {db : Database} (keyed : db.Keyed) : Gathered server roster (.start db) := by
  refine ⟨keyed.members, ⟨keyed.bodies.ids, keyed.bodies.fresh, ?_, ?_⟩, List.forall_mem_nil _⟩
  · rintro leadership id ⟨⟩
  · rintro leadership ⟨⟩

theorem Taken.keeps (taken : Taken server roster completeMerges member cols id duplicates s t)
    (own : member.stId ∈ roster) {row : MembersRow} (present : row ∈ s.db.members)
    (rostered : row.stId ∈ roster) :
    ∃ kept ∈ t.db.members, kept.id = row.id ∧ kept.stId ∈ roster := by
  by_cases same : row.stId = member.stId
  · have stId : cols.stId ∈ roster := (bindMember_ok taken.bound).2.stId ▸ own
    exact ⟨⟨cols, id⟩, taken.written, (taken.own row present same).symm, stId⟩
  · have unfolded : row ∉ duplicates := fun duplicate => (taken.duplicate row duplicate).2 rostered
    exact ⟨row, (taken.rows row).mpr (Or.inr ⟨present, same, unfolded⟩), rfl, rostered⟩

theorem Gathered.step (gathered : Gathered server roster s) (own : member.stId ∈ roster)
    (turn : pullMember server roster completeMerges s member = .ok t) :
    Gathered server roster t := by
  rcases pullMember_cases gathered.table own turn with ⟨_, -, rfl⟩ | ⟨cols, id, duplicates, taken⟩
  · exact ⟨gathered.table, gathered.bodies, gathered.pairs⟩
  · refine ⟨taken.table, taken.bodies gathered.bodies, fun pair listed => ?_⟩
    rw [taken.pairs] at listed
    rcases List.mem_append.mp listed with before | new
    · obtain ⟨⟨row, present, same, rostered⟩, leadership, known⟩ := gathered.pairs pair before
      obtain ⟨kept, there, keeps, named⟩ := taken.keeps own present rostered
      exact ⟨⟨kept, there, keeps.trans same, named⟩, leadership, taken.known _ _ known⟩
    · obtain ⟨leadership, -, made⟩ := List.mem_filterMap.mp new
      obtain ⟨bodyId, found, rfl⟩ := Option.map_eq_some_iff.mp made
      have stId : cols.stId ∈ roster := (bindMember_ok taken.bound).2.stId ▸ own
      exact ⟨⟨⟨cols, id⟩, taken.written, rfl, stId⟩, leadership, found⟩

theorem Gathered.references (gathered : Gathered server roster s) :
    ∀ pair ∈ s.pairs, pair.1 ∈ s.db.members.map (·.id) ∧
      pair.2 ∈ s.db.leadershipBodies.map (·.id) := by
  intro pair listed
  obtain ⟨⟨row, present, same, -⟩, leadership, known⟩ := gathered.pairs pair listed
  obtain ⟨body, there, bodyId, -⟩ := gathered.bodies.row leadership pair.2 known
  exact ⟨List.mem_map.mpr ⟨row, present, same⟩, List.mem_map.mpr ⟨body, there, bodyId⟩⟩

def Unpaired (member : Member) (s : PullState) : Prop :=
  ∀ leadership ∈ member.leads, ∀ row ∈ s.db.members, row.stId = member.stId →
    ∀ bodyId, s.bodyIds.get? leadership = some bodyId → (row.id, bodyId) ∉ s.pairs

theorem Taken.once_iff (taken : Taken server roster completeMerges member cols id duplicates s t)
    (gathered : Gathered server roster s) (once : s.pairs.Nodup) :
    t.pairs.Nodup ↔ Unpaired member s := by
  have bodies := taken.bodies gathered.bodies
  rw [taken.pairs]
  constructor
  · intro nodup leadership led row present own bodyId known listed
    have made : (row.id, bodyId) ∈ member.leads.filterMap
        (fun l => (t.bodyIds.get? l).map (id, ·)) := by
      refine List.mem_filterMap.mpr ⟨leadership, led, ?_⟩
      rw [taken.known _ _ known, taken.own row present own]
      rfl
    exact (List.nodup_append.mp nodup).2.2 _ listed _ made rfl
  · intro unpaired
    refine List.nodup_append.mpr ⟨once, ?_, ?_⟩
    · apply member.leadsNodup.filterMap
      intro a b pair first second
      obtain ⟨bodyId, found, rfl⟩ := Option.map_eq_some_iff.mp first
      obtain ⟨other, found', same⟩ := Option.map_eq_some_iff.mp second
      cases same
      exact bodies.inj found found'
    · rintro pair listed _ made rfl
      obtain ⟨leadership, led, made⟩ := List.mem_filterMap.mp made
      obtain ⟨bodyId, found, rfl⟩ := Option.map_eq_some_iff.mp made
      obtain ⟨⟨row, present, same, rostered⟩, known, there⟩ := gathered.pairs _ listed
      cases bodies.inj (taken.known _ _ there) found
      have own : row.stId = member.stId := by
        by_contra other
        have kept := (taken.rows row).mpr
          (Or.inr ⟨present, other, fun duplicate => (taken.duplicate row duplicate).2 rostered⟩)
        have one := taken.table.row_of_id kept ((taken.rows ⟨cols, id⟩).mpr (Or.inl rfl)) same
        exact other ((congrArg (·.stId) one).trans (bindMember_ok taken.bound).2.stId)
      have free := unpaired leadership led row present own bodyId there
      rw [same] at free
      exact free listed

/-! ### A harmless turn -/

/-- What a member's turn needs to end well: columns that can hold the record, an email that can be
compared if a merge is tried, and, unless the member is skipped, bodies that can be stored. -/
structure EndsWell (server : Server) (roster : List Int) (completeMerges : Bool) (member : Member)
    (s : PullState) : Prop where
  storable : member.Storable server
  comparable : ∀ cols, member.RecordedAs server cols → completeMerges = true →
    (∃ row ∈ s.db.members, cols.clashesWith row = true) → server.compares member.email = true
  bodies : ∀ cols, member.RecordedAs server cols → Blocked roster completeMerges s.db cols ∨
    ∀ leadership ∈ member.leads, server.HoldsKey leadership.name

theorem endsWell_of_pullMember (gathered : Gathered server roster s) (own : member.stId ∈ roster)
    (turn : pullMember server roster completeMerges s member = .ok t) :
    EndsWell server roster completeMerges member s := by
  rcases pullMember_cases gathered.table own turn with ⟨cols, skipped, -⟩
    | ⟨cols, id, duplicates, taken⟩
  · obtain ⟨storable, record⟩ := bindMember_ok skipped.bound
    refine ⟨storable, fun _ same merging _ => skipped.compared merging, fun _ same => Or.inl ?_⟩
    exact record.unique same ▸ skipped.blocked
  · obtain ⟨storable, record⟩ := bindMember_ok taken.bound
    refine ⟨storable, fun _ same => record.unique same ▸ taken.compared, fun _ _ =>
      Or.inr fun leadership led => ?_⟩
    obtain ⟨bodyId, found⟩ := taken.found leadership led
    exact (taken.bodies gathered.bodies).held leadership (Dict.mem_of_get? found)

theorem pullMember_of_endsWell (table : MembersTable s.db.members s.db.nextId)
    (own : member.stId ∈ roster) (harmless : EndsWell server roster completeMerges member s) :
    ∃ t, pullMember server roster completeMerges s member = .ok t := by
  obtain ⟨storable, comparable, bodies⟩ := harmless
  obtain ⟨cols, bound⟩ := storable_iff.mp storable
  have record := (bindMember_ok bound).2
  have compares := comparable cols record
  by_cases blocked : Blocked roster completeMerges s.db cols
  · have ⟨row, present, clash, _⟩ := blocked
    have skipped : Skipped server roster completeMerges member cols s.db :=
      ⟨bound, blocked, fun merging => compares merging ⟨row, present, clash⟩⟩
    exact ⟨_, pullMember_skip table own skipped⟩
  have held := (bodies cols record).resolve_left blocked
  by_cases clash : ∃ row ∈ s.db.members, cols.clashesWith row = true
  · cases completeMerges with
    | false =>
      obtain ⟨row, present, clash⟩ := clash
      exact absurd ⟨row, present, clash, fun merging => absurd merging (by decide)⟩ blocked
    | true =>
      have tried : upsertOne server member s.toPullWork = .error .uniqueViolation :=
        upsertOne_clash.mpr ⟨cols, bound, clash⟩
      have compared := compares rfl clash
      obtain ⟨stored, retried⟩ :=
        mergeAndRetry_total table (record.stId ▸ own) bound compared blocked held
      have storing : storeMember server roster true member s.toPullWork = .ok stored := by
        rw [storeMember, tried, if_pos rfl, retried]
      exact ⟨_, by rw [pullMember, storing]⟩
  · obtain ⟨upserted, tried⟩ : ∃ upserted, upsertOne server member s.toPullWork = .ok upserted :=
      upsertOne_total bound clash held
    exact ⟨_, by rw [pullMember, storeMember, tried]⟩

/-- A turn that neither aborts the pull nor gathers a pair the closing statement would meet
twice. -/
structure Harmless (server : Server) (roster : List Int) (completeMerges : Bool) (member : Member)
    (s : PullState) : Prop extends EndsWell server roster completeMerges member s where
  once : ∀ cols, member.RecordedAs server cols → Blocked roster completeMerges s.db cols ∨
    Unpaired member s

theorem once_of_harmless (gathered : Gathered server roster s) (own : member.stId ∈ roster)
    (once : s.pairs.Nodup) (harmless : Harmless server roster completeMerges member s)
    (turn : pullMember server roster completeMerges s member = .ok t) : t.pairs.Nodup := by
  rcases pullMember_cases gathered.table own turn with ⟨_, -, rfl⟩ | ⟨cols, id, duplicates, taken⟩
  · exact once
  · exact (taken.once_iff gathered once).mpr
      ((harmless.once cols (bindMember_ok taken.bound).2).resolve_left taken.free)

theorem harmless_of_once (gathered : Gathered server roster s) (own : member.stId ∈ roster)
    (turn : pullMember server roster completeMerges s member = .ok t) (once : t.pairs.Nodup) :
    Harmless server roster completeMerges member s := by
  refine ⟨endsWell_of_pullMember gathered own turn, fun cols record => ?_⟩
  rcases pullMember_cases gathered.table own turn with ⟨cols', skipped, -⟩
    | ⟨cols', id, duplicates, taken⟩
  · exact Or.inl (record.unique (bindMember_ok skipped.bound).2 ▸ skipped.blocked)
  · have before : s.pairs.Nodup := (List.nodup_append.mp (taken.pairs ▸ once)).1
    exact Or.inr ((taken.once_iff gathered before).mp once)

theorem gathered_of_run {members : List Member} {db : Database} (keyed : db.Keyed)
    (own : ∀ member ∈ members, member.stId ∈ roster)
    (run : pullMembers server roster completeMerges members db = .ok s) :
    Gathered server roster s :=
  foldlM_keeps (fun member turn _ _ gathered => gathered.step (own member turn))
    (Gathered.start keyed) run

end

section
variable {server : Server} {members : List Member} {dryRun : Bool} {db : Database}

theorem pullUpTo_at {done rest : List Member} {member : Member} {e : PullState}
    (whole : members = done ++ member :: rest)
    (run : pullUpTo server members dryRun db members = .ok e) :
    ∃ s t, pullUpTo server members dryRun db done = .ok s ∧
      pullMember server (members.map (·.stId)) (completesMerges dryRun (members.map (·.stId)) db) s
        member = .ok t ∧
      rest.foldlM (pullMember server (members.map (·.stId))
        (completesMerges dryRun (members.map (·.stId)) db)) t = .ok e := by
  have split : pullUpTo server members dryRun db (done ++ member :: rest) = .ok e := by
    rw [← whole]
    exact run
  obtain ⟨s, reached, later⟩ := foldlM_append_ok.mp split
  obtain ⟨t, turn, after⟩ := foldlM_cons_ok.mp later
  exact ⟨s, t, reached, turn, after⟩

theorem gathered_at {done rest : List Member} {s : PullState} (keyed : db.Keyed)
    (whole : members = done ++ rest) (reached : pullUpTo server members dryRun db done = .ok s) :
    Gathered server (members.map (·.stId)) s :=
  gathered_of_run keyed (fun m turn => List.mem_map_of_mem (by simp [whole, turn])) reached

theorem commits_of_harmless (keyed : db.Keyed)
    (harmless : ∀ done member rest, members = done ++ member :: rest → ∀ s,
      pullUpTo server members dryRun db done = .ok s →
        Harmless server (members.map (·.stId)) (completesMerges dryRun (members.map (·.stId)) db)
          member s) :
    ∃ result, pullIn server members dryRun db = .ok result := by
  have named : ∀ {done member rest}, members = done ++ member :: rest →
      member.stId ∈ members.map (·.stId) :=
    fun whole => List.mem_map_of_mem (by simp [whole])
  obtain ⟨e, run⟩ : ∃ e, pullUpTo server members dryRun db members = .ok e := by
    apply foldlM_ok_iff.mpr
    intro done member rest whole s reached
    have gathered := gathered_at keyed whole reached
    exact pullMember_of_endsWell gathered.table (named whole)
      (harmless done member rest whole s reached).toEndsWell
  have gathered := gathered_at keyed (List.append_nil members).symm run
  have once : e.pairs.Nodup := by
    suffices step : ∀ done member rest s t, members = done ++ member :: rest →
        pullUpTo server members dryRun db done = .ok s ∧ s.pairs.Nodup →
        pullMember server (members.map (·.stId)) (completesMerges dryRun (members.map (·.stId)) db)
          s member = .ok t →
        pullUpTo server members dryRun db (done ++ [member]) = .ok t ∧ t.pairs.Nodup from
      (foldlM_invariant step ⟨rfl, List.nodup_nil⟩ run).2
    intro done member rest s t whole ⟨reached, once⟩ turn
    refine ⟨foldlM_append_ok.mpr ⟨s, reached, foldlM_cons_ok.mpr ⟨t, turn, rfl⟩⟩, ?_⟩
    have safe := harmless done member rest whole s reached
    exact once_of_harmless (gathered_at keyed whole reached) (named whole) once safe turn
  have ranges : ∀ member ∈ members, inBigint member.stId := by
    intro member listed
    obtain ⟨done, rest, whole⟩ := List.append_of_mem listed
    obtain ⟨s, -, reached, -⟩ := pullUpTo_at whole run
    exact (harmless done member rest whole s reached).storable.stId
  obtain ⟨result, closed⟩ := closePull_total.mpr ⟨once, gathered.references⟩
  exact ⟨result, pullIn_ok.mpr ⟨ranges, e, run, closed⟩⟩

/-- A pull commits when every member it comes to is harmless at its turn, and only then. -/
theorem pull_commits_iff (valid : db.Valid) :
    (∃ result, pullIn server members dryRun db = .ok result) ↔
      ∀ done member rest, members = done ++ member :: rest →
        ∀ s, pullUpTo server members dryRun db done = .ok s →
        Harmless server (members.map (·.stId)) (completesMerges dryRun (members.map (·.stId)) db)
          member s := by
  refine ⟨?_, commits_of_harmless valid.keyed⟩
  have named : ∀ {done member rest}, members = done ++ member :: rest →
      member.stId ∈ members.map (·.stId) :=
    fun whole => List.mem_map_of_mem (by simp [whole])
  rintro ⟨⟨report, after⟩, committed⟩ done member rest whole s reached
  obtain ⟨-, e, run, closed⟩ := pullIn_ok.mp committed
  obtain ⟨once, -⟩ := closePull_total.mp ⟨_, closed⟩
  obtain ⟨s', t, reached', turn, later⟩ := pullUpTo_at whole run
  cases reached.symm.trans reached'
  have gathered := gathered_at valid.keyed whole reached
  have own : ∀ m ∈ rest, m.stId ∈ members.map (·.stId) := fun m after =>
    List.mem_map_of_mem (by simp [whole, after])
  have onward : Onward (members.map (·.stId)) t e :=
    onward_of_run (gathered.step (named whole) turn).table own later
  exact harmless_of_once gathered (named whole) turn (once.sublist onward.pairs.sublist)

end

theorem pull_commits_plain :
    (∃ result, pullIn textServer [plainRecord 7 (str "ana@pdx.org")] false .empty = .ok result) ∧
      Harmless textServer [7] true (plainRecord 7 (str "ana@pdx.org")) (.start .empty) :=
  have commits : ∃ result, pullIn textServer [plainRecord 7 (str "ana@pdx.org")] false .empty =
    .ok result := ⟨_, rfl⟩
  ⟨commits, (pull_commits_iff Database.empty_valid).mp commits [] _ [] rfl _ rfl⟩

def oversizedUser : Json :=
  .obj [(str "id", .int (2 ^ 63)), (str "email", .str (str "ana@pdx.org")),
    (str "custom_user_properties",
      .obj [(str "membership-status", .arr [.obj [(str "label", .str (str "Lapsed"))]])])]

/-- The decoder takes the user, and the pull of that one record aborts. -/
theorem oversized_id_aborts :
    ∃ member, decodeUser oversizedUser = .ok member ∧
      pullIn textServer [member] false .empty = .error .dataError :=
  ⟨_, rfl, rfl⟩

end Rosadmin
