import Rosadmin.Foundation.Runs
import Rosadmin.Roster.Survival
import Rosadmin.Web.Records

/-!
# One person for an email

The search folds case and the table does not, so an email finds one person as
long as no two members' addresses differ in their case alone. Such addresses come
in by the roster: a pull compares them as they are written.
-/

namespace Rosadmin
open Foundation

/-- What the roster's members write to their rows. -/
def Pull.records (server : Server) (pull : Pull) : List MemberColumns :=
  pull.members.filterMap fun member => (bindMember server member).toOption

def MemberColumns.contests (cols other : MemberColumns) : Bool := cols.clashesWith ⟨other, 0⟩

/-- A pull may leave the row as it is: the roster does not name it, or its record wants what another
st_id has. -/
def Pull.mayLeave (server : Server) (db : Database) (pull : Pull) (row : MembersRow) : Bool :=
  row.stId ∉ pull.members.map (·.stId) ||
    (pull.records server).any fun cols => cols.stId = row.stId &&
      (pull.records server ++ db.members.map (·.toMemberColumns)).any cols.contests

/-- What the rows may hold after the pull: each st_id with an address. -/
def Pull.addresses (server : Server) (db : Database) (pull : Pull) : List (Int × Email) :=
  (pull.records server ++ (db.members.filter (pull.mayLeave server db)).map (·.toMemberColumns)).map
    fun cols =>
    (cols.stId, cols.email)

/-- Where the addresses of two members are equal up to case, they are equal. -/
def CaseApart (locale : Locale) (server : Server) (db : Database) (pull : Pull) : Prop :=
  ∀ one ∈ pull.addresses server db, ∀ other ∈ pull.addresses server db, one.1 ≠ other.1 →
    locale.lower one.2 = locale.lower other.2 → one.2 = other.2

instance (locale : Locale) (server : Server) (db : Database) (pull : Pull) :
    Decidable (CaseApart locale server db pull) :=
  inferInstanceAs (Decidable (∀ one ∈ pull.addresses server db, ∀ other ∈ pull.addresses server db,
    one.1 ≠ other.1 → locale.lower one.2 = locale.lower other.2 → one.2 = other.2))

/-- An email finds one person, whichever row the server returns first. -/
structure FindsOne (locale : Locale) (db : Database) : Prop where
  distinct : (db.members.map fun m => locale.lower m.email).Nodup
  atMostOne : ∀ email,
    (db.members.filter fun m => locale.lower m.email = locale.lower email).length ≤ 1
  anyOrder : ∀ members, members.Perm db.members → ∀ email,
    Web.search locale { db with members } email = Web.search locale db email

section
variable {locale : Locale} {server : Server} {db after : Database} {pull : Pull}
    {report : PullReport}

theorem findsOne_of_distinct (distinct : (db.members.map fun m => locale.lower m.email).Nodup) :
    FindsOne locale db where
  distinct := distinct
  atMostOne email := filter_key_length distinct (locale.lower email)
  anyOrder := by
    intro members perm email
    have same : ({ db with members } : Database).memberByEmail locale email =
        db.memberByEmail locale email := by
      unfold Database.memberByEmail
      rw [find?_perm perm distinct]
      rfl
    unfold Web.search
    rw [same]

/-! ### What a pull writes -/

/-- Each row holds a record of the roster, or is one the pull found and, once its member's turn is
over, may leave. -/
def Accounted (server : Server) (pull : Pull) (db : Database) (done : List Member) (s : PullState) :
    Prop :=
  ∀ row ∈ s.db.members, row.toMemberColumns ∈ pull.records server ∨
    (row ∈ db.members ∧ (row.stId ∈ done.map (·.stId) → pull.mayLeave server db row = true))

theorem record_listed {member : Member} {cols : MemberColumns} (listed : member ∈ pull.members)
    (bound : bindMember server member = .ok cols) : cols ∈ pull.records server :=
  List.mem_filterMap.mpr ⟨member, listed, by rw [bound]; rfl⟩

theorem accounted_skip {completeMerges : Bool} {member : Member} {cols : MemberColumns}
    {done : List Member} {s : PullState} {skippedStIds : List Int} (listed : member ∈ pull.members)
    (accounted : Accounted server pull db done s)
    (skipped : Skipped server (pull.members.map (·.stId)) completeMerges member cols s.db) :
    Accounted server pull db (done ++ [member]) { s with skippedStIds } := by
  intro row present
  rcases accounted row present with written | ⟨before, left⟩
  · exact Or.inl written
  refine Or.inr ⟨before, fun turned => ?_⟩
  rw [List.map_append, List.mem_append] at turned
  rcases turned with earlier | now
  · exact left earlier
  -- The member's own turn: what blocked it is a record of the roster or a row the pull found.
  have own : row.stId = member.stId := List.mem_singleton.mp now
  obtain ⟨blocking, held, clash, -⟩ := skipped.blocked
  have known : blocking.toMemberColumns ∈ pull.records server ++
      db.members.map (·.toMemberColumns) := by
    rcases accounted blocking held with written | ⟨found, -⟩
    · exact List.mem_append_left _ written
    · exact List.mem_append_right _ (List.mem_map_of_mem found)
  have contested : (pull.records server ++ db.members.map (·.toMemberColumns)).any cols.contests =
      true :=
    List.any_eq_true.mpr ⟨_, known, clash⟩
  have stId : cols.stId = row.stId := (bindMember_ok skipped.bound).2.stId.trans own.symm
  have wanted : ((pull.records server).any fun cols => cols.stId = row.stId &&
      (pull.records server ++ db.members.map (·.toMemberColumns)).any cols.contests) = true :=
    List.any_eq_true.mpr ⟨cols, record_listed listed skipped.bound, by simp [stId, contested]⟩
  rw [Pull.mayLeave, wanted, Bool.or_true]

theorem accounted_taken {completeMerges : Bool} {member : Member} {cols : MemberColumns} {id : UUID}
    {duplicates : List MembersRow} {done : List Member} {s t : PullState}
    (listed : member ∈ pull.members)
    (accounted : Accounted server pull db done s)
    (taken : Taken server (pull.members.map (·.stId)) completeMerges member cols id
      duplicates s t) :
    Accounted server pull db (done ++ [member]) t := by
  intro row present
  rcases (taken.rows row).mp present with rfl | ⟨before, others, -⟩
  · exact Or.inl (record_listed listed taken.bound)
  · refine (accounted row before).imp_right fun ⟨found, left⟩ => ⟨found, fun turned => left ?_⟩
    rw [List.map_append, List.mem_append] at turned
    exact turned.resolve_right fun now => others (List.mem_singleton.mp now)

/-- Every row a committed pull leaves holds an address it may hold. -/
theorem pull_addresses (keyed : db.Keyed)
    (pulled : pullIn server pull.members pull.dryRun db = .ok (report, after)) :
    ∀ row ∈ after.members, (row.stId, row.email) ∈ pull.addresses server db := by
  obtain ⟨-, s, run, closing⟩ := pullIn_ok.mp pulled
  let holds (done : List Member) (s : PullState) : Prop :=
    MembersTable s.db.members s.db.nextId ∧ Accounted server pull db done s
  have each : ∀ done member rest s t, pull.members = done ++ member :: rest → holds done s →
      pullMember server (pull.members.map (·.stId))
        (completesMerges pull.dryRun (pull.members.map (·.stId)) db) s member =
        .ok t → holds (done ++ [member]) t := by
    rintro done member rest s t whole ⟨table, accounted⟩ turn
    have listed : member ∈ pull.members := by simp [whole]
    rcases pullMember_cases table (List.mem_map_of_mem listed) turn with
      ⟨cols, skipped, rfl⟩ | ⟨cols, id, duplicates, taken⟩
    · exact ⟨table, accounted_skip listed accounted skipped⟩
    · exact ⟨taken.table, accounted_taken listed accounted taken⟩
  have start : holds [] (.start db) :=
    ⟨keyed.members, fun row present =>
      Or.inr ⟨present, fun turned => absurd turned List.not_mem_nil⟩⟩
  have stored := (foldlM_invariant each start run).2
  intro row present
  rw [(closePull_ok closing).members] at present
  obtain ⟨old, before, rfl⟩ := List.mem_map.mp present
  have same : (closeRow (lapseFuseTrips db (pull.members.map (·.stId)))
      (pull.members.map (·.stId)) old).email = old.email := by
    unfold closeRow
    split <;> rfl
  rw [same, closeRow_keys.2]
  refine List.mem_map.mpr ⟨old.toMemberColumns, ?_, rfl⟩
  rcases stored old before with written | ⟨found, left⟩
  · exact List.mem_append_left _ written
  · have may : pull.mayLeave server db old = true := by
      by_cases named : old.stId ∈ pull.members.map (·.stId)
      · exact left named
      · simp [Pull.mayLeave, named]
    exact List.mem_append_right _ (List.mem_map_of_mem (List.mem_filter.mpr ⟨found, may⟩))

theorem keyed_of_run (keyed : db.Keyed) : (pull.run server db).Keyed := by
  cases pulled : pullIn server pull.members pull.dryRun db with
  | error failure => rwa [Pull.run_aborted pulled]
  | ok result =>
    rw [Pull.run_committed pulled]
    exact keyed_of_pull keyed pulled

theorem pull_distinct (keyed : db.Keyed) (apart : CaseApart locale server db pull)
    (distinct : (db.members.map fun m => locale.lower m.email).Nodup) :
    ((pull.run server db).members.map fun m => locale.lower m.email).Nodup := by
  cases pulled : pullIn server pull.members pull.dryRun db with
  | error failure =>
    rw [Pull.run_aborted pulled]
    exact distinct
  | ok result =>
    obtain ⟨report, after⟩ := result
    rw [Pull.run_committed pulled]
    have table := (keyed_of_pull keyed pulled).members
    have held := pull_addresses keyed pulled
    refine List.Nodup.map_on (fun a present b present' same => ?_) table.nodup
    by_contra other
    have stIds : a.stId ≠ b.stId := fun same => other (table.row_of_stId present present' same)
    exact other (List.inj_on_of_nodup_map table.emails present present'
      (apart _ (held a present) _ (held b present') stIds same))

/-- Over pulls that bring no two members' addresses that differ in case alone, an email finds one
person. -/
theorem email_finds_one {pulls : List Pull} (keyed : db.Keyed)
    (distinct : (db.members.map fun m => locale.lower m.email).Nodup)
    (apart : Guarded (fun db pull => pull.run server db) (CaseApart locale server) db pulls) :
    ∀ reached, reached <+: pulls → FindsOne locale (runPulls server reached db) := by
  intro reached early
  have step : ∀ (db : Database) (pull : Pull),
      (db.Keyed ∧ (db.members.map fun m => locale.lower m.email).Nodup) →
        CaseApart locale server db pull →
          (pull.run server db).Keyed ∧
            ((pull.run server db).members.map fun m => locale.lower m.email).Nodup := by
    rintro db pull ⟨keyed, distinct⟩ apart
    exact ⟨keyed_of_run keyed, pull_distinct keyed apart distinct⟩
  exact findsOne_of_distinct (run_invariant step ⟨keyed, distinct⟩ (guarded_of_early early apart)).2

end

/-! ### Two pulls -/

def foldingLocale : Locale := ⟨lower, fun a b => a ≤ b⟩

/-- Two members join; then one leaves, and the other's address comes in another case. -/
def recasedPulls : List Pull :=
  [⟨[plainRecord 1 (str "ana@pdx.org"), plainRecord 2 (str "cyd@pdx.org")], false⟩,
    ⟨[plainRecord 1 (str "Ana@pdx.org")], false⟩]

theorem email_finds_one_recased :
    FindsOne foldingLocale (runPulls textServer recasedPulls .empty) := by
  have apart : Guarded (fun db pull => pull.run textServer db)
      (CaseApart foldingLocale textServer) .empty recasedPulls :=
    ⟨by decide +kernel, by decide +kernel, trivial⟩
  exact email_finds_one Database.empty_valid.keyed List.nodup_nil apart recasedPulls List.prefix_rfl

/-- Two members of one pull whose addresses differ in their case alone. -/
theorem email_finds_two : ¬FindsOne foldingLocale
    (runPulls textServer [⟨[plainRecord 1 (str "ana@pdx.org"), plainRecord 2 (str "Ana@pdx.org")],
      false⟩] .empty) := by
  intro one
  exact absurd one.distinct (by decide +kernel)

end Rosadmin
