import Rosadmin.Roster.Moved

/-!
# Bans over a run of pulls

A pull that commits carries each ban with the id it hangs off, and one that
fails is rolled back. So over any run of pulls the banned ids are those the
banned ids of the start have come to.
-/

namespace Rosadmin
open Foundation

structure Pull where
  members : List Member
  dryRun : Bool

def Pull.run (server : Server) (pull : Pull) (db : Database) : Database :=
  match pullIn server pull.members pull.dryRun db with
  | .ok result => result.2
  | .error _ => db

def runPulls (server : Server) (pulls : List Pull) (db : Database) : Database :=
  pulls.foldl (fun db pull => pull.run server db) db

/-- The report has the id merged into a survivor whose row is another. -/
structure FoldedOnto (report : PullReport) (after : Database) (id into : UUID) : Prop where
  gone : id ∉ after.members.map (·.id)
  merged : ∃ merge ∈ report.merges, merge.duplicateMemberId = id ∧
    ∃ row ∈ after.members, row.stId = merge.survivorStId ∧ row.id = into

/-- Where the pulls leave a row: under its own id, or that of the row it was folded into. -/
inductive Followed (server : Server) : Database → List Pull → UUID → UUID → Prop
  | done {db : Database} {id : UUID} (present : id ∈ db.members.map (·.id)) : Followed server
      db [] id id
  | kept {db : Database} {pull : Pull} {pulls : List Pull} {id last : UUID}
      (still : id ∈ (pull.run server db).members.map (·.id))
      (rest : Followed server (pull.run server db) pulls id last) :
        Followed server db (pull :: pulls) id last
  | folded {db after : Database} {pull : Pull} {pulls : List Pull} {report : PullReport}
      {id into last : UUID}
      (pulled : pullIn server pull.members pull.dryRun db = .ok (report, after))
      (onto : FoldedOnto report after id into) (rest : Followed server after pulls into last) :
      Followed server db (pull :: pulls) id last

section
variable {server : Server} {members : List Member} {dryRun : Bool} {db after : Database}
    {report : PullReport} {pull : Pull}

theorem Pull.run_committed
    (pulled : pullIn server pull.members pull.dryRun db = .ok (report, after)) :
    pull.run server db = after := by
  rw [Pull.run, pulled]

theorem Pull.run_aborted {error : DbError}
    (failed : pullIn server pull.members pull.dryRun db = .error error) :
    pull.run server db = db := by
  rw [Pull.run, failed]

theorem Database.banned_iff {id : UUID} : db.banned id = true ↔
    id ∈ db.memberBans.map (·.memberId) :=
  List.contains_iff_mem

/-- What a committed pull does, with the folds of all its turns. -/
theorem pull_moved (keyed : db.Keyed)
    (pulled : pullIn server members dryRun db = .ok (report, after)) :
    ∃ s folds, pullUpTo server members dryRun db members = .ok s ∧
      Closed (lapseFuseTrips db (members.map (·.stId))) (members.map (·.stId)) s report after ∧
      after.memberBans = s.db.memberBans ∧ Moved (members.map (·.stId)) db s folds := by
  obtain ⟨-, s, run, closing⟩ := pullIn_ok.mp pulled
  obtain ⟨folds, moved⟩ := moved_of_pullMembers keyed.members (fun _ => List.mem_map_of_mem) run
  exact ⟨s, folds, run, closePull_ok closing, (closePull_frame closing).2.1, moved⟩

theorem Closed.ids {fuseTripped : Bool} {roster : List Int} {s : PullState}
    (closed : Closed fuseTripped roster s report after) :
    after.members.map (·.id) = s.db.members.map (·.id) := by
  rw [closed.members, List.map_map]
  exact List.map_congr_left fun _ _ => closeRow_keys.1

/-- Each id stays or is folded, and each ban goes with its id. -/
structure BansMoved (db after : Database) (report : PullReport) (goes : UUID → UUID) : Prop where
  ids : ∀ id ∈ db.members.map (·.id), (id ∈ after.members.map (·.id) ∧ goes id = id) ∨
    FoldedOnto report after id (goes id)
  onto : ∀ id into, FoldedOnto report after id into → into = goes id
  banned : ∀ id, after.banned id = true ↔ ∃ old, db.banned old = true ∧ goes old = id

theorem Moved.foldedOnto_iff {roster : List Int} {s : PullState} {folds : List Fold}
    {fuseTripped : Bool} {id into : UUID} (moved : Moved roster db s folds)
    (closed : Closed fuseTripped roster s report after)
    (table : MembersTable after.members after.nextId) :
    FoldedOnto report after id into ↔ id ∈ folds.map (·.source) ∧ names folds id = into := by
  have merged : ∀ merge ∈ report.merges, ∃ row ∈ after.members, row.stId = merge.survivorStId ∧
      row.id = names folds merge.duplicateMemberId := by
    intro merge noted
    obtain ⟨-, row, there, stId, rostered, goes, -⟩ := moved.merged merge (closed.merges ▸ noted)
    exact ⟨row, (closed.mem_rostered rostered).mpr there, stId, goes⟩
  constructor
  · rintro ⟨gone, merge, noted, rfl, survivor, present, stId, rfl⟩
    obtain ⟨row, there, same, goes⟩ := merged merge noted
    cases table.row_of_stId there present (same.trans stId.symm)
    obtain ⟨before, -⟩ := moved.merged merge (closed.merges ▸ noted)
    obtain ⟨old, there, same⟩ := List.mem_map.mp before
    exact ⟨same ▸ (moved.kept old there).resolve_left (same ▸ closed.ids ▸ gone), goes.symm⟩
  · rintro ⟨folded, rfl⟩
    obtain ⟨f, listed, rfl⟩ := List.mem_map.mp folded
    obtain ⟨merge, noted, named⟩ := moved.named f listed
    have noted : merge ∈ report.merges := closed.merges.symm ▸ noted
    obtain ⟨survivor, present, stId, goes⟩ := merged merge noted
    exact ⟨closed.ids ▸ (moved.gone f listed).2, merge, noted, named, survivor, present, stId,
      named ▸ goes⟩

theorem pull_bans (keyed : db.Keyed)
    (pulled : pullIn server members dryRun db = .ok (report, after)) :
    ∃ goes, BansMoved db after report goes := by
  obtain ⟨s, folds, -, closed, bans, moved⟩ := pull_moved keyed pulled
  have onto : ∀ {id into}, FoldedOnto report after id into ↔
      id ∈ folds.map (·.source) ∧ names folds id = into :=
    moved.foldedOnto_iff closed (keyed_of_pull keyed pulled).members
  refine ⟨names folds, ⟨fun id present => ?_, fun id into folded => (onto.mp folded).2.symm,
    fun id => ?_⟩⟩
  · by_cases folded : id ∈ folds.map (·.source)
    · exact Or.inr (onto.mpr ⟨folded, rfl⟩)
    · obtain ⟨row, there, rfl⟩ := List.mem_map.mp present
      rw [closed.ids]
      exact Or.inl ⟨(moved.kept row there).resolve_right folded, names_other folded⟩
  · have attached : after.memberBans = (db.attached.foldAll folds).bans :=
      bans.trans (congrArg (·.bans) moved.attached)
    have sent : id ∈ (db.attached.foldAll folds).bans.map (·.memberId) ↔
        ∃ old ∈ db.attached.bans.map (·.memberId), names folds old = id :=
      banned_foldAll fun f listed => moved.tidy.apart f listed f listed
    rw [Database.banned_iff, attached, sent]
    simp only [Database.banned_iff, Database.attached]

/-! ### Any run of pulls -/

/-- What a run of pulls keeps: the keys, and that a ban is on a member. -/
structure Database.Banning (db : Database) : Prop where
  keyed : db.Keyed
  member : ∀ id, db.banned id = true → id ∈ db.members.map (·.id)

theorem Database.Valid.banning (valid : db.Valid) : db.Banning := by
  refine ⟨valid.keyed, fun id banned => ?_⟩
  obtain ⟨ban, there, rfl⟩ := List.mem_map.mp (Database.banned_iff.mp banned)
  exact valid.bans.member ban there

section
variable {goes : UUID → UUID} {pulls : List Pull} {id last : UUID}

theorem BansMoved.present (moved : BansMoved db after report goes)
    (present : id ∈ db.members.map (·.id)) : goes id ∈ after.members.map (·.id) := by
  rcases moved.ids id present with ⟨still, same⟩ | onto
  · exact same.symm ▸ still
  · obtain ⟨merge, -, -, survivor, there, -, same⟩ := onto.merged
    exact List.mem_map.mpr ⟨survivor, there, same⟩

theorem Database.Banning.pulled (banning : db.Banning)
    (pulled : pullIn server members dryRun db = .ok (report, after)) : after.Banning := by
  refine ⟨keyed_of_pull banning.keyed pulled, fun id banned => ?_⟩
  obtain ⟨goes, moved⟩ := pull_bans banning.keyed pulled
  obtain ⟨old, before, rfl⟩ := (moved.banned id).mp banned
  exact moved.present (banning.member old before)

/-- One more pull in front. -/
theorem followed_committed
    (pulled : pullIn server pull.members pull.dryRun db = .ok (report, after))
    (moved : BansMoved db after report goes) (present : id ∈ db.members.map (·.id)) :
    Followed server db (pull :: pulls) id last ↔ Followed server after pulls (goes id) last := by
  have run := Pull.run_committed pulled
  constructor
  · intro followed
    cases followed with
    | kept still rest =>
      rw [run] at still rest
      rcases moved.ids id present with ⟨-, same⟩ | onto
      · exact same.symm ▸ rest
      · exact absurd still onto.gone
    | folded pulled' onto rest =>
      cases pulled.symm.trans pulled'
      exact moved.onto _ _ onto ▸ rest
  · intro rest
    rcases moved.ids id present with ⟨still, same⟩ | onto
    · exact Followed.kept (run ▸ still) (run.symm ▸ same ▸ rest)
    · exact Followed.folded pulled onto rest

theorem followed_aborted {error : DbError}
    (failed : pullIn server pull.members pull.dryRun db = .error error)
    (present : id ∈ db.members.map (·.id)) :
    Followed server db (pull :: pulls) id last ↔ Followed server db pulls id last := by
  have run := Pull.run_aborted failed
  constructor
  · intro followed
    cases followed with
    | kept still rest => exact run ▸ rest
    | folded pulled onto rest => cases failed.symm.trans pulled
  · exact fun rest => Followed.kept (run.symm ▸ present) (run.symm ▸ rest)

end

/-- One pull, committed or not: it moves each id, its ban and whatever follows it on together. -/
theorem Database.Banning.next (server : Server) (banning : db.Banning) (pull : Pull) : ∃ goes :
    UUID → UUID, (pull.run server db).Banning ∧
    (∀ id, (pull.run server db).banned id = true ↔ ∃ old, db.banned old = true ∧ goes old = id) ∧
    ∀ id ∈ db.members.map (·.id), ∀ pulls last,
      Followed server db (pull :: pulls) id last ↔
        Followed server (pull.run server db) pulls (goes id) last := by
  cases pulled : pullIn server pull.members pull.dryRun db with
  | error error =>
    rw [Pull.run_aborted pulled]
    exact ⟨id, banning, fun id => by simp, fun _ present _ _ => followed_aborted pulled present⟩
  | ok result =>
    obtain ⟨report, after⟩ := result
    obtain ⟨goes, moved⟩ := pull_bans banning.keyed pulled
    rw [Pull.run_committed pulled]
    exact ⟨goes, banning.pulled pulled, moved.banned, fun _ present _ _ =>
      followed_committed pulled moved present⟩

/-- No run of pulls lifts a ban, and none bans anyone else. -/
theorem pulls_keep_bans (valid : db.Valid) (pulls : List Pull) :
    (∀ id, db.banned id = true →
      ∃ last, Followed server db pulls id last ∧
        last ∈ (runPulls server pulls db).members.map (·.id)) ∧
    ∀ last, (runPulls server pulls db).banned last = true ↔
      ∃ id, db.banned id = true ∧ Followed server db pulls id last := by
  have banning := valid.banning
  clear valid
  induction pulls generalizing db with
  | nil =>
    refine ⟨fun id banned => ?_, fun last => ⟨fun banned => ?_, ?_⟩⟩
    · have present := banning.member id banned
      exact ⟨id, Followed.done present, present⟩
    · exact ⟨last, banned, Followed.done (banning.member last banned)⟩
    · rintro ⟨id, banned, followed⟩
      cases followed
      exact banned
  | cons pull pulls ih =>
    obtain ⟨goes, next, moved, followed⟩ := banning.next server pull
    obtain ⟨survive, only⟩ := ih next
    constructor
    · intro id banned
      obtain ⟨last, rest, there⟩ := survive (goes id) ((moved _).mpr ⟨id, banned, rfl⟩)
      exact ⟨last, (followed id (banning.member id banned) pulls last).mpr rest, there⟩
    · intro last
      refine (only last).trans ⟨?_, ?_⟩
      · rintro ⟨mid, between, rest⟩
        obtain ⟨id, banned, rfl⟩ := (moved mid).mp between
        exact ⟨id, banned, (followed id (banning.member id banned) pulls last).mpr rest⟩
      · rintro ⟨id, banned, rest⟩
        exact ⟨goes id, (moved _).mpr ⟨id, banned, rfl⟩,
          (followed id (banning.member id banned) pulls last).mp rest⟩

end

/-- The first of three members is banned; each address moves on to the next. -/
def bannedChain : Database :=
  { Database.empty with
    members := [plainMember 0 (str "ana@pdx.org"), plainMember 1 (str "cyd@pdx.org"),
      plainMember 2 (str "dee@pdx.org")]
    memberBans := [⟨0, 0, str "spam"⟩], nextId := 3 }

def chainPulls : List Pull :=
  [⟨[plainRecord 1 (str "ana@pdx.org")], false⟩, ⟨[plainRecord 2 (str "ana@pdx.org")], false⟩]

/-- Folded into the second row by one pull and with it into the third by the next. -/
theorem pulls_keep_bans_chained : (runPulls textServer chainPulls bannedChain).banned 2 = true ∧
    ∃ id, bannedChain.banned id = true ∧ Followed textServer bannedChain chainPulls id 2 := by
  have valid : bannedChain.Valid := by
    constructor <;> constructor <;> decide
  have banned : (runPulls textServer chainPulls bannedChain).banned 2 = true := rfl
  exact ⟨banned, ((pulls_keep_bans valid chainPulls).2 2).mp banned⟩

end Rosadmin
