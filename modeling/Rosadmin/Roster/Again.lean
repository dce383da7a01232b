import Mathlib.Logic.Function.Iterate
import Rosadmin.Roster.Effect
import Rosadmin.Roster.Faults

/-!
# The same roster again

A pull that fails is rolled back and one that commits keeps the tables keyed,
so one roster can be pulled any number of times. What the roster has lost is
merged or lapsed by a pull whose fuse held, and left alone by any other.
-/

namespace Rosadmin
open Foundation

/-- One pull; its error is a rollback. -/
def pullOnce (server : Server) (members : List Member) (db : Database) : Database :=
  match pullIn server members false db with
  | .ok result => result.2
  | .error _ => db

/-- The database after a number of pulls, and nothing else between them. -/
def again (server : Server) (members : List Member) (n : Nat) (db : Database) : Database :=
  (pullOnce server members)^[n] db

def Commits (server : Server) (members : List Member) (db : Database) : Prop :=
  ∃ result, pullIn server members false db = .ok result

section
variable {server : Server} {members : List Member} {db after : Database} {report : PullReport}

theorem pullOnce_committed (pulled : pullIn server members false db = .ok (report, after)) :
    pullOnce server members db = after := by
  rw [pullOnce, pulled]

theorem pullOnce_aborted (aborts : ¬Commits server members db) :
    pullOnce server members db = db := by
  cases pulled : pullIn server members false db with
  | ok result => exact absurd ⟨result, pulled⟩ aborts
  | error error => rw [pullOnce, pulled]

theorem again_succ (n : Nat) : again server members (n + 1) db = pullOnce server members
    (again server members n db) :=
  Function.iterate_succ_apply' (pullOnce server members) n db

end

/-! ### The bodies stay keyed -/

theorem LeadershipBodiesTable.grow {bodies : List LeadershipBodiesRow} {nextId later : UUID}
    (table : LeadershipBodiesTable bodies nextId) (grown : nextId ≤ later) :
    LeadershipBodiesTable bodies later :=
  { table with fresh := fun body present => lt_of_lt_of_le (table.fresh body present) grown }

theorem upsertBody_table {db : Database} {name bodyType : Str}
    (table : LeadershipBodiesTable db.leadershipBodies db.nextId) :
    LeadershipBodiesTable (db.upsertBody name bodyType).2.leadershipBodies
      (db.upsertBody name bodyType).2.nextId := by
  have upserted : BodyUpserted name bodyType _ db (db.upsertBody name bodyType).2 := upsertBody_upserted
  obtain ⟨ids, fresh⟩ := upserted.ids table.ids table.fresh
  cases found : db.leadershipBodies.find? (fun b => b.name = name && b.bodyType = bodyType) with
  | some body =>
    rw [Database.upsertBody, found]
    exact table
  | none =>
    have unnamed : ∀ body ∈ db.leadershipBodies, body.name = name → body.bodyType ≠ bodyType := by
      simpa using List.find?_eq_none.mp found
    have rows : (db.upsertBody name bodyType).2.leadershipBodies =
        db.leadershipBodies ++ [⟨db.nextId, name, bodyType, none, none⟩] := by
      rw [Database.upsertBody, found]
    rw [rows] at ids fresh ⊢
    refine { ids, names := ?_, linkedPair := ?_, leaderGroupEmails := ?_, memberGroupEmails := ?_, fresh }
    · rw [List.map_append]
      refine List.nodup_append.mpr ⟨table.names, List.nodup_singleton _, ?_⟩
      rintro key old _ new rfl
      obtain ⟨body, present, rfl⟩ := List.mem_map.mp old
      obtain ⟨sameName, sameType⟩ := Prod.mk.inj (List.mem_singleton.mp new)
      exact unnamed body present sameName sameType
    · intro body member
      rcases List.mem_append.mp member with old | new
      · exact table.linkedPair body old
      · cases List.mem_singleton.mp new
        rfl
    · rw [List.filterMap_append]
      exact (List.append_nil _).symm ▸ table.leaderGroupEmails
    · rw [List.filterMap_append]
      exact (List.append_nil _).symm ▸ table.memberGroupEmails

/-- What holds of the bodies through a pull: it survives the supply of ids moving on, and the upsert
of a body. -/
structure BodiesRule (holds : List LeadershipBodiesRow → UUID → Prop) : Prop where
  grow : ∀ bodies nextId later, holds bodies nextId → nextId ≤ later → holds bodies later
  upsert : ∀ (db : Database) name bodyType, holds db.leadershipBodies db.nextId →
    holds (db.upsertBody name bodyType).2.leadershipBodies (db.upsertBody name bodyType).2.nextId

theorem BodiesRule.table : BodiesRule LeadershipBodiesTable :=
  ⟨fun _ _ _ => LeadershipBodiesTable.grow, fun _ _ _ => upsertBody_table⟩

theorem BodiesRule.kept (bodies : List LeadershipBodiesRow) :
    BodiesRule (fun now _ => bodies ⊆ now) :=
  ⟨fun _ _ _ kept _ => kept, fun _ _ _ kept => List.Subset.trans kept upsertBody_upserted.kept⟩

theorem mergeInto_frame {stId : Int} {duplicates : List MembersRow} {db : Database} :
    (mergeInto stId duplicates db).leadershipBodies = db.leadershipBodies ∧
      (mergeInto stId duplicates db).nextId = db.nextId := by
  fun_cases mergeInto stId duplicates db with
  | case1 => exact Database.foldAll_frame
  | case2 => exact ⟨rfl, rfl⟩
  | case3 => exact Database.foldAll_frame

theorem upsertMember_frame {db after : Database} {cols : MemberColumns} {id : UUID}
    (upserted : db.upsertMember cols = .ok (id, after)) :
    after.leadershipBodies = db.leadershipBodies ∧ db.nextId ≤ after.nextId := by
  obtain ⟨_, -, upserted⟩ := bind_ok.mp upserted
  split at upserted
  · cases upserted
    exact ⟨rfl, le_refl _⟩
  · cases upserted
    exact ⟨rfl, Nat.le_succ _⟩

section
variable {server : Server} {roster : List Int} {completeMerges : Bool} {member : Member}
    {work work' : PullWork} {s t : PullState} {holds : List LeadershipBodiesRow → UUID → Prop}

theorem pairLeadership_bodies {memberId : UUID} {leadership : Leadership} (rule : BodiesRule holds)
    (table : holds work.db.leadershipBodies work.db.nextId)
    (paired : pairLeadership server memberId work leadership = .ok work') :
    holds work'.db.leadershipBodies work'.db.nextId := by
  obtain ⟨⟨id, u⟩, found, paired⟩ := bind_ok.mp paired
  cases pure_ok.mp paired
  rw [bodyIdOf] at found
  split at found
  · cases found
    exact table
  · obtain ⟨name, -, found⟩ := bind_ok.mp found
    cases pure_ok.mp found
    exact rule.upsert _ _ _ table

theorem upsertOne_bodies {stored : UUID × LeadershipAssessment} (rule : BodiesRule holds)
    (table : holds work.db.leadershipBodies work.db.nextId)
    (upserted : upsertOne server member work = .ok (stored, work')) :
    holds work'.db.leadershipBodies work'.db.nextId := by
  obtain ⟨cols, -, upserted⟩ := bind_ok.mp upserted
  obtain ⟨⟨id, db⟩, wrote, upserted⟩ := bind_ok.mp upserted
  obtain ⟨u, paired, upserted⟩ := bind_ok.mp upserted
  cases pure_ok.mp upserted
  obtain ⟨bodies, grown⟩ := upsertMember_frame wrote
  have written : holds db.leadershipBodies db.nextId := bodies ▸ rule.grow _ _ _ table grown
  have keeps : ∀ leadership ∈ member.leads, ∀ s t : PullWork,
      holds s.db.leadershipBodies s.db.nextId → pairLeadership server id s leadership = .ok t →
      holds t.db.leadershipBodies t.db.nextId := fun _ _ _ _ => pairLeadership_bodies rule
  have kept := foldlM_keeps keeps written paired
  exact kept

theorem mergeAndRetry_bodies {stored : Stored} (rule : BodiesRule holds)
    (table : holds work.db.leadershipBodies work.db.nextId)
    (retried : mergeAndRetry server roster member work = .ok (stored, work')) :
    holds work'.db.leadershipBodies work'.db.nextId := by
  obtain ⟨⟨merges, db⟩, merged, retried⟩ := bind_ok.mp retried
  obtain ⟨⟨result, u⟩, upserted, retried⟩ := bind_ok.mp retried
  cases pure_ok.mp retried
  obtain ⟨email, -, merged⟩ := bind_ok.mp merged
  cases pure_ok.mp merged
  obtain ⟨bodies, nextId⟩ : (mergeInto member.stId
    (work.db.mergeDuplicatesOf email member.discordId roster)
      work.db).leadershipBodies = work.db.leadershipBodies ∧ _ = work.db.nextId := mergeInto_frame
  refine upsertOne_bodies rule ?_ upserted
  rw [bodies, nextId]
  exact table

theorem pullMember_bodies (rule : BodiesRule holds)
    (table : holds s.db.leadershipBodies s.db.nextId)
    (turn : pullMember server roster completeMerges s member = .ok t) :
    holds t.db.leadershipBodies t.db.nextId := by
  rw [pullMember] at turn
  split at turn
  · rename_i stored attempt
    cases turn
    rw [storeMember] at attempt
    split at attempt
    · rename_i upserted first
      cases attempt
      exact upsertOne_bodies rule table first
    · split at attempt
      · exact mergeAndRetry_bodies rule table attempt
      · cases attempt
    · cases attempt
  · cases turn
    exact table
  · cases turn

end

/-! ### The tables stay keyed -/

section
variable {fuseTripped : Bool} {refused : Nat} {roster : List Int} {s : PullState}
    {report : PullReport} {after : Database}

theorem closePull_frame (closed : closePull fuseTripped refused roster s = .ok (report, after)) :
    after.nextId = s.db.nextId ∧ after.memberBans = s.db.memberBans ∧
      report.lapseRefused = if fuseTripped then refused else 0 := by
  obtain ⟨led, inserted, closed⟩ := bind_ok.mp closed
  obtain ⟨-, rfl⟩ := insertLeaderRows_ok.mp inserted
  cases pure_ok.mp closed
  cases fuseTripped <;> exact ⟨rfl, rfl, rfl⟩

theorem MembersTable.close {rows : List MembersRow} {nextId : UUID}
    (table : MembersTable rows nextId) :
    MembersTable (rows.map (closeRow fuseTripped roster)) nextId := by
  obtain ⟨apart, fresh⟩ := membersTable_iff.mp table
  have columns : ∀ row : MembersRow, (closeRow fuseTripped roster row).email = row.email ∧
      (closeRow fuseTripped roster row).discordUserId = row.discordUserId := by
    intro row
    rw [closeRow]
    split <;> exact ⟨rfl, rfl⟩
  refine membersTable_iff.mpr ⟨List.pairwise_map.mpr (apart.imp fun {a b} distinct => ?_),
    List.forall_mem_map.mpr ?_⟩
  · have keys : ∀ row : MembersRow, (closeRow fuseTripped roster row).id = row.id ∧
        (closeRow fuseTripped roster row).stId = row.stId := fun _ => closeRow_keys
    constructor
    · rw [(keys a).1, (keys b).1]
      exact distinct.id
    · rw [(keys a).2, (keys b).2]
      exact distinct.stId
    · rw [(columns a).1, (columns b).1]
      exact distinct.email
    · rw [(columns a).2, (columns b).2]
      exact distinct.discordId
  · intro row present
    rw [closeRow_keys.1]
    exact fresh row present

end

section
variable {server : Server} {members : List Member} {dryRun : Bool} {db after : Database}
    {report : PullReport}

theorem keyed_of_pull (keyed : db.Keyed)
    (pulled : pullIn server members dryRun db = .ok (report, after)) : after.Keyed := by
  obtain ⟨-, s, run, closing⟩ := pullIn_ok.mp pulled
  have gathered := gathered_at keyed (List.append_nil members).symm run
  have bodies : LeadershipBodiesTable s.db.leadershipBodies s.db.nextId := by
    have start : LeadershipBodiesTable (PullState.start db).db.leadershipBodies
        (PullState.start db).db.nextId :=
      keyed.bodies
    have kept := foldlM_keeps (fun _ _ _ _ => pullMember_bodies BodiesRule.table) start run
    exact kept
  have closed := closePull_ok closing
  obtain ⟨nextId, -⟩ := closePull_frame closing
  constructor
  · rw [closed.members, nextId]
    exact gathered.table.close
  · rw [closed.bodies, nextId]
    exact bodies

theorem keyed_again (keyed : db.Keyed) (n : Nat) : (again server members n db).Keyed := by
  induction n with
  | zero => exact keyed
  | succ n ih =>
    rw [again_succ]
    cases pulled : pullIn server members false (again server members n db) with
    | ok result =>
      rw [pullOnce_committed pulled]
      exact keyed_of_pull ih pulled
    | error error =>
      rw [pullOnce, pulled]
      exact ih

end

/-! ### The rows the roster has lost -/

section
variable {server : Server} {roster : List Int} {members : List Member} {db after : Database}
    {report : PullReport} {row : MembersRow} {s t : PullState}

theorem absent_of_run (table : MembersTable s.db.members s.db.nextId)
    (own : ∀ member ∈ members, member.stId ∈ roster) (gone : row.stId ∉ roster)
    (run : members.foldlM (pullMember server roster false) s = .ok t) :
    row ∈ t.db.members ↔ row ∈ s.db.members := by
  suffices step : ∀ member ∈ members, ∀ t u,
      MembersTable t.db.members t.db.nextId ∧ (row ∈ t.db.members ↔ row ∈ s.db.members) →
      pullMember server roster false t member = .ok u →
      MembersTable u.db.members u.db.nextId ∧ (row ∈ u.db.members ↔ row ∈ s.db.members) from
    (foldlM_keeps step ⟨table, Iff.rfl⟩ run).2
  intro member listed t u ⟨table, same⟩ turn
  rcases pullMember_cases table (own member listed) turn with ⟨_, -, rfl⟩
    | ⟨cols, id, duplicates, taken⟩
  · exact ⟨table, same⟩
  · have none : duplicates = [] := by
      by_contra some
      exact Bool.false_ne_true (taken.merging some)
    have stId : cols.stId ∈ roster := (bindMember_ok taken.bound).2.stId ▸ own member listed
    refine ⟨taken.table, (taken.rows row).trans
      (Iff.trans ⟨?_, fun present => Or.inr ⟨present, ?_, ?_⟩⟩ same)⟩
    · rintro (rfl | ⟨present, -⟩)
      · exact absurd stId gone
      · exact present
    · exact fun mine => gone (mine ▸ own member listed)
    · rw [none]
      exact List.not_mem_nil

theorem absent_of_tripped (keyed : db.Keyed)
    (pulled : pullIn server members false db = .ok (report, after))
    (tripped : lapseFuseTrips db (members.map (·.stId)) = true)
    (gone : row.stId ∉ members.map (·.stId)) :
    row ∈ after.members ↔ row ∈ db.members := by
  obtain ⟨-, s, run, closing⟩ := pullIn_ok.mp pulled
  have closed := closePull_ok closing
  rw [pullUpTo, completesMerges, tripped, Bool.or_true, Bool.not_true] at run
  have same : s.db.members.map (closeRow true (members.map (·.stId))) = s.db.members :=
    (List.map_congr_left fun _ _ => closeRow_tripped).trans (List.map_id _)
  rw [closed.members, tripped, same]
  exact absent_of_run keyed.members (fun _ => List.mem_map_of_mem) gone run

theorem lapsed_of_held (pulled : pullIn server members false db = .ok (report, after))
    (held : lapseFuseTrips db (members.map (·.stId)) = false) (present : row ∈ after.members) :
    Database.lapses (members.map (·.stId)) row = false := by
  obtain ⟨-, s, -, closing⟩ := pullIn_ok.mp pulled
  have closed := closePull_ok closing
  rw [closed.members, held] at present
  obtain ⟨old, -, rfl⟩ := List.mem_map.mp present
  rw [closeRow]
  split
  · rfl
  · rename_i kept
    exact eq_false_of_ne_true fun lapses => kept ⟨rfl, lapses⟩

theorem lapseFuseTrips_iff :
    lapseFuseTrips db roster = true ↔ lapseBudget (goodStandingTotal db) < wouldLapse db roster :=
      decide_eq_true_iff

theorem wouldLapse_congr {a b : Database} (keyed : a.Keyed) (keyed' : b.Keyed)
    (same : ∀ row : MembersRow, row.stId ∉ roster → (row ∈ a.members ↔ row ∈ b.members)) :
    wouldLapse a roster = wouldLapse b roster := by
  rw [wouldLapse, wouldLapse, List.countP_eq_length_filter, List.countP_eq_length_filter]
  refine List.Perm.length_eq ((List.perm_ext_iff_of_nodup (keyed.members.nodup.filter _)
    (keyed'.members.nodup.filter _)).mpr fun row => ?_)
  rw [List.mem_filter, List.mem_filter]
  refine and_congr_left fun lapses => same row ?_
  exact of_decide_eq_true ((Bool.and_eq_true _ _).mp lapses).2

end

end Rosadmin
