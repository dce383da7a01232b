import Rosadmin.GoogleSync
import Rosadmin.Roster.Repeat
import Rosadmin.Sweep.Minting
import Rosadmin.Sweep.Whole

/-!
# Rehearsals

A dry run pulls, provisions and sweeps like any other. Each thing it could not
take back is held off where it would happen: the merges in the pull, the creation
in the provisioner, the links and the markers and the statuses at their writes,
the memberships in the mirror. So no outcome of any stage changes one of them.
-/

namespace Rosadmin
open Foundation

/-! ### The stand-ins -/

section
variable {σ : Type}

def dryRunOutcome (groupEmail : Option Email) (memberEmail : Email) : SyncOutcome :=
  match skipGate groupEmail memberEmail with
  | .error outcome => outcome
  | .ok _ => .skippedDryRun

def dryRunGroupSync : GroupSync σ where
  add := fun groupEmail memberEmail port => (dryRunOutcome groupEmail memberEmail, port)
  remove := fun groupEmail memberEmail port => (dryRunOutcome groupEmail memberEmail, port)

/-- Real existence reads, and creations that only answer what they would set. -/
def recordingProvisioner (inner : GroupProvisioner σ) : GroupProvisioner σ where
  groupExists := inner.groupExists
  ensure := fun _ _ port => (.ok ⟨secureSettings, securityLabel⟩, port)

/-- `GoogleGroupProvisioner` reads a group's existence as the lister does. -/
def directoryProvisioner (directory : Directory σ)
    (ensure : Email → Str → σ → Except Failure ProvisionedGroup × σ) : GroupProvisioner σ where
  groupExists := fun groupEmail port =>
    (((googleGroupLister directory).groupExists groupEmail port).1.mapError .http,
      ((googleGroupLister directory).groupExists groupEmail port).2)
  ensure := ensure

/-- The Admin Directory and the creations behind it, where the environment does not forbid Google
altogether. -/
structure GoogleAccess (σ : Type) where
  directory : Directory σ
  ensure : Email → Str → σ → Except Failure ProvisionedGroup × σ

/-- The run as `sync run --dry-run` wires it. -/
def Wiring.rehearsing (wiring : Wiring σ) (config : ProvisionConfig)
    (google : Option (GoogleAccess σ)) : Wiring σ :=
  { wiring with
    lister := google.map fun google => googleGroupLister google.directory
    sync := dryRunGroupSync
    provisioner := google.map fun google =>
      recordingProvisioner (directoryProvisioner google.directory google.ensure)
    provision := some config
    dryRun := true }

theorem dryRunOutcome_skipped (groupEmail : Option Email) (memberEmail : Email) :
    (dryRunOutcome groupEmail memberEmail).skipped = true := by
  unfold dryRunOutcome skipGate
  cases groupEmail with
  | none => rfl
  | some groupEmail =>
    dsimp only
    split
    · rename_i gated
      split at gated <;> cases gated
      rfl
    · rfl

end

/-! ### The pull -/

/-- What a pull that completes no merge keeps of the tables. -/
structure KeepsRows (before after : Database) : Prop where
  members : ∀ row ∈ before.members, ∃ kept ∈ after.members, kept.id = row.id ∧ kept.stId = row.stId
  memberBans : after.memberBans = before.memberBans
  bodies : ∃ added, after.leadershipBodies = before.leadershipBodies ++ added ∧
    ∀ body ∈ added, body.leaderGoogleGroupEmail = none ∧ body.memberGoogleGroupEmail = none

section
variable {a b c : Database}

theorem KeepsRows.refl (db : Database) : KeepsRows db db where
  members row present := ⟨row, present, rfl, rfl⟩
  memberBans := rfl
  bodies := ⟨[], (List.append_nil _).symm, nofun⟩

theorem KeepsRows.trans (first : KeepsRows a b) (second : KeepsRows b c) : KeepsRows a c where
  members := by
    intro row present
    obtain ⟨kept, there, id, stId⟩ := first.members row present
    obtain ⟨last, here, id', stId'⟩ := second.members kept there
    exact ⟨last, here, id'.trans id, stId'.trans stId⟩
  memberBans := second.memberBans.trans first.memberBans
  bodies := by
    obtain ⟨some, grown, unlinked⟩ := first.bodies
    obtain ⟨more, grown', unlinked'⟩ := second.bodies
    refine ⟨some ++ more, by rw [grown', grown, List.append_assoc], fun body member => ?_⟩
    exact (List.mem_append.mp member).elim (unlinked body) (unlinked' body)

theorem keeps_update {holds : MembersRow → Bool} {set : MembersRow → MembersRow}
    {memberships : List BodyMembershipsRow}
    {rows : List MembersRow} {nextId : UUID} (db : Database)
    (same : rows = update holds set db.members)
    (keys : ∀ row ∈ db.members, holds row = true → (set row).id = row.id ∧
      (set row).stId = row.stId) :
    KeepsRows db { db with members := rows, bodyMemberships := memberships, nextId } where
  members := by
    intro row present
    refine ⟨if holds row then set row else row, same ▸ List.mem_map_of_mem present, ?_⟩
    split
    · rename_i here
      exact keys row present here
    · exact ⟨rfl, rfl⟩
  memberBans := rfl
  bodies := ⟨[], (List.append_nil _).symm, nofun⟩

theorem upsertMember_keeps {db after : Database} {cols : MemberColumns} {id : UUID}
    (upserted : db.upsertMember cols = .ok (id, after)) : KeepsRows db after := by
  obtain ⟨_, -, upserted⟩ := bind_ok.mp upserted
  split at upserted
  · cases upserted
    exact keeps_update db rfl fun row _ held => ⟨rfl, (of_decide_eq_true held).symm⟩
  · cases upserted
    exact ⟨fun row present => ⟨row, List.mem_append_left _ present, rfl, rfl⟩, rfl, [],
      (List.append_nil _).symm, nofun⟩

theorem upsertBody_keeps (db : Database) (name bodyType : Str) :
    KeepsRows db (db.upsertBody name bodyType).2 := by
  unfold Database.upsertBody
  split
  · exact .refl db
  · refine ⟨fun row present => ⟨row, present, rfl, rfl⟩, rfl, _, rfl, fun body single => ?_⟩
    obtain rfl := List.mem_singleton.mp single
    exact ⟨rfl, rfl⟩

theorem pairLeadership_keeps {server : Server} {memberId : UUID} {work after : PullWork}
    {leadership : Leadership}
    (paired : pairLeadership server memberId work leadership = .ok after) :
    KeepsRows work.db after.db := by
  obtain ⟨found, looked, rest⟩ := bind_ok.mp paired
  obtain rfl := pure_ok.mp rest
  unfold bodyIdOf at looked
  split at looked
  · cases looked
    exact .refl work.db
  · obtain ⟨_, -, rest⟩ := bind_ok.mp looked
    obtain rfl := pure_ok.mp rest
    exact upsertBody_keeps _ _ _

theorem upsertOne_keeps {server : Server} {member : Member} {work after : PullWork}
    {stored : UUID × LeadershipAssessment}
    (upserted : upsertOne server member work = .ok (stored, after)) :
    KeepsRows work.db after.db := by
  obtain ⟨cols, -, rest⟩ := bind_ok.mp upserted
  obtain ⟨⟨id, db⟩, own, rest⟩ := bind_ok.mp rest
  obtain ⟨paired, leads, rest⟩ := bind_ok.mp rest
  cases pure_ok.mp rest
  let keeps : PullWork → Prop := fun s => KeepsRows work.db s.db
  have each : ∀ leadership ∈ member.leads, ∀ s t, keeps s →
      pairLeadership server id s leadership = .ok t → keeps t :=
    fun _ _ s t kept paired => kept.trans (pairLeadership_keeps paired)
  have start : keeps { work with db } := upsertMember_keeps own
  exact @foldlM_keeps _ _ _ _ _ _ _ keeps each start leads

/-- With merges off a clash is a skip, and a skip changes nothing. -/
theorem pullMember_keeps {server : Server} {roster : List Int} {s t : PullState} {member : Member}
    (pulled : pullMember server roster false s member = .ok t) :
    KeepsRows s.db t.db ∧ (s.merges = [] → t.merges = []) := by
  unfold pullMember at pulled
  split at pulled
  · rename_i stored answer
    obtain rfl := Except.ok.inj pulled
    unfold storeMember at answer
    split at answer
    · rename_i upserted own
      cases answer
      refine ⟨upsertOne_keeps own, fun none => ?_⟩
      show s.merges ++ [] = []
      rw [none, List.append_nil]
    · rw [if_neg Bool.false_ne_true] at answer
      cases answer
    · cases answer
  · cases pulled
    exact ⟨.refl _, id⟩
  · cases pulled

theorem closePull_keeps {fuseTripped : Bool} {refused : Nat} {roster : List Int} {s : PullState}
    {report : PullReport} {after : Database}
    (closed : closePull fuseTripped refused roster s = .ok (report, after)) :
    KeepsRows s.db after := by
  obtain ⟨led, inserted, rest⟩ := bind_ok.mp closed
  obtain ⟨-, rfl⟩ := insertLeaderRows_ok.mp inserted
  cases pure_ok.mp rest
  split
  · have same : update (fun _ => true) id s.db.members = s.db.members :=
      update_self fun row _ _ => rfl
    exact keeps_update s.db same.symm fun row _ _ => ⟨rfl, rfl⟩
  · exact keeps_update s.db rfl fun row _ _ => ⟨rfl, rfl⟩

/-- A dry run's pull merges nothing, and what it stores leaves every row where it was. -/
theorem dryRun_pull {server : Server} {members : List Member} {db after : Database}
    {report : PullReport} (pulled : pullIn server members true db = .ok (report, after)) :
    KeepsRows db after ∧ report.merges = [] := by
  obtain ⟨-, s, run, closed⟩ := pullIn_ok.mp pulled
  have each : ∀ member ∈ members, ∀ u v : PullState, KeepsRows db u.db ∧ u.merges = [] →
      pullMember server (members.map (·.stId)) false u member = .ok v →
        KeepsRows db v.db ∧ v.merges = [] := by
    intro member _ u v kept turn
    obtain ⟨rows, merges⟩ := pullMember_keeps turn
    exact ⟨kept.1.trans rows, merges kept.2⟩
  have start : KeepsRows db (PullState.start db).db ∧ (PullState.start db).merges = [] :=
    ⟨.refl db, rfl⟩
  obtain ⟨rows, merges⟩ := foldlM_keeps each start run
  exact ⟨rows.trans (closePull_keeps closed), (closePull_ok closed).merges.trans merges⟩

end

/-! ### The provisioning -/

section
variable {σ G : Type} {observe : σ → G} {inner : GroupProvisioner σ}

theorem linkBody_dryRun (entries : List (UUID × BodyLinks)) (state : Nat × Database) :
    (entries.foldl (linkBody true) state).2 = state.2 := by
  have each : ∀ s e, s.2 = state.2 → (linkBody true s e).2 = state.2 := by
    intro s e same
    unfold linkBody
    split
    · exact same
    · exact same
  exact invariant_of_forall each rfl entries

theorem missingGroups_observe (reads : ∀ email s, observe (inner.groupExists email s).2 = observe s)
    (groups : List PlannedGroup) (port : σ) :
    observe (missingGroups inner groups port).2 = observe port := by
  induction groups generalizing port with
  | nil => rfl
  | cons group groups ih =>
    have read := reads group.email port
    unfold missingGroups
    generalize inner.groupExists group.email port = answer at read ⊢
    obtain ⟨found, after⟩ := answer
    cases found with
    | error failure => exact read
    | ok found =>
      have rest := (ih after).trans read
      dsimp only [andThen]
      generalize missingGroups inner groups after = answer at rest ⊢
      obtain ⟨missing, last⟩ := answer
      cases missing <;> exact rest

/-- A rehearsed provisioning writes no table and creates nothing. -/
theorem provision_rehearsed (reads : ∀ email s, observe (inner.groupExists email s).2 = observe s)
    (locale : Locale) (config : ProvisionConfig) (mainEmail : Email) (db : Database)
    (bootstrapped : Bool) (port : σ) :
    let done := provision (recordingProvisioner inner) locale config mainEmail true db
      bootstrapped port
    done.db = db ∧ done.bootstrapped = bootstrapped ∧ observe done.port = observe port := by
  have recorded : ∀ email s, observe ((recordingProvisioner inner).groupExists email s).2 =
    observe s := reads
  have sized : observe (missingGroups (recordingProvisioner inner)
    (planPending config mainEmail (db.allBodies locale)).1
      port).2 = observe port := missingGroups_observe recorded _ _
  unfold provision
  dsimp only
  generalize missingGroups (recordingProvisioner inner) _ port = answer at sized
  obtain ⟨verdict, after⟩ := answer
  cases verdict with
  | error failure => exact ⟨rfl, rfl, sized⟩
  | ok toCreate =>
    dsimp only at sized ⊢
    split
    · exact ⟨rfl, rfl, sized⟩
    · have minted : ∀ (m : Minting σ) group, m.port = after →
          (mintGroup (recordingProvisioner inner) (toCreate.map (·.email)) m group).port = after :=
        fun m group here => (mintGroup_port _ _ m group).trans here
      refine ⟨linkBody_dryRun _ _, by rw [Bool.not_true, Bool.and_false, Bool.or_false], ?_⟩
      exact (congrArg observe (invariant_of_forall minted rfl _)).trans sized

/-! ### The sweep -/

variable {ports : Ports σ}

/-- The mirror of a dry run: it skips everything and asks nobody. -/
structure SkipsAll (ports : Ports σ) : Prop where
  add : ∀ group member s, (ports.sync.add group member s).1.skipped = true ∧
    (ports.sync.add group member s).2 = s
  remove : ∀ group member s, (ports.sync.remove group member s).1.skipped = true ∧
    (ports.sync.remove group member s).2 = s

theorem skipped_cases {outcome : SyncOutcome} (skipped : outcome.skipped = true) :
    outcome ≠ .applied ∧ outcome ≠ .addressNotFound ∧ outcome ≠ .alreadyConverged ∧
      outcome.unmirrorable = false := by
  cases outcome <;> simp [SyncOutcome.skipped, SyncOutcome.unmirrorable] at skipped ⊢

theorem applyAdds_skipped (skips : SkipsAll ports) (plan : GroupPlan) (adds : List PlannedAdd)
    (l : AddLoop σ) :
    ∃ m, applyAdds ports plan adds l = .ok m ∧ m.port = l.port ∧ m.found = l.found := by
  induction adds generalizing l with
  | nil => exact ⟨l, rfl, rfl, rfl⟩
  | cons a adds ih =>
    obtain ⟨skipped, quiet⟩ := skips.add (some plan.groupEmail) a.address l.port
    obtain ⟨unapplied, readable, -, unfound⟩ := skipped_cases skipped
    rcases answer : ports.sync.add (some plan.groupEmail) a.address l.port with ⟨outcome, port⟩
    rw [answer] at unapplied readable unfound quiet
    obtain rfl : port = l.port := quiet
    have turn : applyAdd ports plan l a = .ok (settleAdd ports plan a outcome l) := by
      unfold applyAdd
      rw [answer]
      exact if_neg readable
    obtain ⟨m, run, port, found⟩ := ih (settleAdd ports plan a outcome l)
    refine ⟨m, foldlM_cons_ok.mpr ⟨_, turn, run⟩, port.trans ?_, found.trans ?_⟩
    · rw [settleAdd_port, if_neg unapplied]
    · rw [settleAdd_found, unfound, if_neg Bool.false_ne_true]

theorem applyRemoves_skipped (skips : SkipsAll ports) (plan : GroupPlan) (tally : List SyncOutcome)
    (port : σ) : (applyRemoves ports plan tally port).2 = port := by
  have quiet : ∀ (l : RemoveLoop σ) address, l.converged = 0 ∧ l.port = port →
      (applyRemove ports plan l address).converged = 0 ∧
        (applyRemove ports plan l address).port = port := by
    intro l address here
    obtain ⟨skipped, quiet⟩ := skips.remove (some plan.groupEmail) address l.port
    obtain ⟨unapplied, -, unconverged, -⟩ := skipped_cases skipped
    unfold applyRemove
    rcases answer : ports.sync.remove (some plan.groupEmail) address l.port with ⟨outcome, after⟩
    rw [answer] at unapplied unconverged quiet
    obtain rfl : after = l.port := quiet
    dsimp only
    rw [if_neg unapplied, if_neg unconverged]
    exact here
  have still := invariant_of_forall quiet
    (⟨rfl, rfl⟩ : (⟨tally, 0, port⟩ : RemoveLoop σ).converged = 0 ∧ _ = port) plan.removes
  unfold applyRemoves
  dsimp only
  rw [if_neg]
  · exact still.2
  · rintro ⟨some, all, -⟩
    rw [still.1] at all
    exact some (List.length_eq_zero_iff.mp all.symm)

theorem apply_skipped (skips : SkipsAll ports) (plan : GroupPlan) (unmirrorable : List Str)
    (refusals : List Refusal) (accepted : List Email) (port : σ) :
    (apply ports plan unmirrorable refusals accepted port).port = port := by
  obtain ⟨m, run, quiet, found⟩ :=
    applyAdds_skipped skips plan plan.adds (loopStart unmirrorable accepted port)
  have confirmed : confirmAdds ports plan m = .ok m := by
    unfold confirmAdds
    rw [found]
    rfl
  unfold apply
  rw [run, ok_bind, confirmed]
  exact (applyRemoves_skipped skips plan _ _).trans quiet

theorem sweepGroup_skipped (skips : SkipsAll ports)
    (lists : ∀ email s, observe (ports.lister.list email s).2 = observe s)
    (pool : ∀ s, (ports.pool s).2 = s) (mainGroupEmail : Email) (statuses : EmailStatuses)
    (allowMassRemoval : Bool) (s : RunState σ) (audience : Email × Audience) :
    observe (sweepGroup ports mainGroupEmail statuses allowMassRemoval s audience).port =
      observe s.port := by
  have listed := lists audience.1 s.port
  unfold sweepGroup
  generalize ports.lister.list audience.1 s.port = answer at listed ⊢
  obtain ⟨actual, port⟩ := answer
  cases actual with
  | error failure => exact listed
  | ok actual =>
    dsimp only
    rw [apply_skipped skips]
    have same : (rechecked ports mainGroupEmail statuses
        (s.plan allowMassRemoval audience actual) port).2 = port := by
      unfold rechecked
      split
      · exact pool port
      · rfl
    rw [same]
    exact listed

end

/-! ### The whole run -/

section
variable {γ G : Type}

/-- Google's answers to a listing and to a `get` leave what `observe` sees of it as it is. -/
structure Directory.ReadsOnly (directory : Directory γ) (observe : γ → G) : Prop where
  listMembers : ∀ groupEmail s, observe (directory.listMembers groupEmail s).2 = observe s
  getGroup : ∀ groupEmail s, observe (directory.getGroup groupEmail s).2 = observe s

/-- What a rehearsal leaves as it was. -/
structure Rehearsed (observe : γ → G) (before after : Deployment γ) : Prop where
  google : observe after.outside = observe before.outside
  links : ∀ id body, before.db.bodyLink id = some body → after.db.bodyLink id = some body
  unlinked : ∀ id body, before.db.bodyLink id = none → after.db.bodyLink id = some body →
    body.leaderGoogleGroupEmail = none ∧ body.memberGoogleGroupEmail = none
  bootstrapped : after.bootstrappedGroupProvisioning = before.bootstrappedGroupProvisioning
  /-- The statuses and the marker of their learning. -/
  googleEmailStatus : after.googleEmailStatus = before.googleEmailStatus
  memberBans : after.db.memberBans = before.db.memberBans
  auditLog : after.auditLog = before.auditLog
  members : ∀ row ∈ before.db.members, ∃ kept ∈ after.db.members,
    kept.id = row.id ∧ kept.stId = row.stId

variable {observe : γ → G} {before d after : Deployment γ}

/-- What a stage keeps that may only add rows to the tables. -/
theorem Rehearsed.of_rows (google : observe after.outside = observe before.outside)
    (rows : KeepsRows before.db after.db)
    (bootstrapped : after.bootstrappedGroupProvisioning = before.bootstrappedGroupProvisioning)
    (statuses : after.googleEmailStatus = before.googleEmailStatus)
    (log : after.auditLog = before.auditLog) :
    Rehearsed observe before after := by
  obtain ⟨added, grown, fresh⟩ := rows.bodies
  have link : ∀ id, after.db.bodyLink id = (before.db.bodyLink id).or
      (added.find? (·.id = id)) := by
    intro id
    rw [Database.bodyLink, grown, List.find?_append]
    rfl
  refine ⟨google, ?_, ?_, bootstrapped, statuses, rows.memberBans, log, rows.members⟩
  · intro id body found
    rw [link, found]
    rfl
  · intro id body absent found
    rw [link, absent] at found
    exact fresh body (List.mem_of_find?_eq_some found)

theorem Rehearsed.refl (d : Deployment γ) : Rehearsed observe d d :=
  .of_rows rfl (.refl d.db) rfl rfl rfl

theorem Rehearsed.trans (first : Rehearsed observe before d) (second : Rehearsed observe d after) :
    Rehearsed observe before after where
  google := second.google.trans first.google
  links id body found := second.links id body (first.links id body found)
  unlinked := by
    intro id body absent found
    cases middle : d.db.bodyLink id with
    | none => exact second.unlinked id body middle found
    | some old =>
      obtain rfl := Option.some.inj ((second.links id old middle).symm.trans found)
      exact first.unlinked id old absent middle
  bootstrapped := second.bootstrapped.trans first.bootstrapped
  googleEmailStatus := second.googleEmailStatus.trans first.googleEmailStatus
  memberBans := second.memberBans.trans first.memberBans
  auditLog := second.auditLog.trans first.auditLog
  members := by
    intro row present
    obtain ⟨kept, there, id, stId⟩ := first.members row present
    obtain ⟨last, here, id', stId'⟩ := second.members kept there
    exact ⟨last, here, id'.trans id, stId'.trans stId⟩

variable {wiring : Wiring γ} {config : ProvisionConfig} {google : Option (GoogleAccess γ)}

theorem andThen_rehearsed {α β : Type} {x : Except SweepFailure α × Deployment γ}
    {next : α → Deployment γ → Except SweepFailure β × Deployment γ}
    (first : Rehearsed observe before x.2) (rest : ∀ a d, Rehearsed observe d (next a d).2) :
    Rehearsed observe before (andThen x next).2 := by
  obtain ⟨result, d⟩ := x
  cases result with
  | error failure => exact first
  | ok a => exact first.trans (rest a d)

theorem pullRoster_rehearsed (members : List Member) (d : Deployment γ) :
    Rehearsed observe d (pullRoster (wiring.rehearsing config google) members d).2 := by
  unfold pullRoster
  split
  · exact .refl d
  · rename_i report db pulled
    obtain ⟨rows, merges⟩ := dryRun_pull pulled
    rw [merges]
    exact .of_rows rfl rows rfl rfl rfl

theorem pullStage_rehearsed (d : Deployment γ) :
    Rehearsed observe d (pullStage (wiring.rehearsing config google) d).2 := by
  unfold pullStage
  split
  · exact .refl d
  · exact .refl d
  · refine andThen_rehearsed (pullRoster_rehearsed _ d) fun report d => ?_
    split <;> exact .refl d

theorem groupExists_observe {directory : Directory γ} (reads : directory.ReadsOnly observe)
    (email : Email) (s : γ) :
    observe ((googleGroupLister directory).groupExists email s).2 = observe s := by
  have read := reads.getGroup email s
  unfold googleGroupLister
  dsimp only
  generalize directory.getGroup email s = answer at read ⊢
  obtain ⟨found, after⟩ := answer
  cases found <;> exact read

theorem provisionStage_rehearsed (reads : ∀ access ∈ google, access.directory.ReadsOnly observe)
    (d : Deployment γ) :
    Rehearsed observe d (provisionStage (wiring.rehearsing config google) d).2 := by
  cases google with
  | none => exact .refl d
  | some access =>
    have sizes : ∀ email s,
      observe ((directoryProvisioner access.directory access.ensure).groupExists email s).2 =
        observe s := groupExists_observe (reads access rfl)
    obtain ⟨db, bootstrapped, outside⟩ :=
      provision_rehearsed sizes wiring.locale config wiring.mainGroupEmail d.db
      d.bootstrappedGroupProvisioning d.outside
    have same : (provisionStage (wiring.rehearsing config (some access)) d).2.db = d.db := db
    have rows : KeepsRows d.db (provisionStage (wiring.rehearsing config (some access))
        d).2.db := by
      rw [same]
      exact .refl d.db
    exact .of_rows outside rows bootstrapped rfl rfl

/-- What the closing sees of the outside and of the audit log. -/
def observed (observe : γ → G) (port : γ × List AuditRow) : G × List AuditRow :=
  (observe port.1, port.2)

theorem reconcileStage_rehearsed (reads : ∀ access ∈ google, access.directory.ReadsOnly observe)
    (now : Time) (pull : Option PullReport) (provision : Option ProvisionReport)
    (d : Deployment γ) :
    Rehearsed observe d (reconcileStage (wiring.rehearsing config google) now pull
      provision d).2 := by
  cases google with
  | none => exact .refl d
  | some access =>
    let ports := (wiring.rehearsing config (some access)).ports
      (googleGroupLister access.directory) d.db
    have skips : SkipsAll ports :=
      ⟨fun _ _ _ => ⟨dryRunOutcome_skipped _ _, rfl⟩, fun _ _ _ => ⟨dryRunOutcome_skipped _ _, rfl⟩⟩
    have lists : ∀ email s, observed observe (ports.lister.list email s).2 = observed observe s :=
      fun email s => Prod.ext ((reads access rfl).listMembers email s.1) rfl
    have swept : ∀ s audience, observed observe s.port = observed observe (d.outside, d.auditLog) →
        observed observe (sweepGroup ports wiring.mainGroupEmail
          (emailStatuses d.googleEmailStatus now)
          wiring.allowMassRemoval s audience).port = observed observe (d.outside, d.auditLog) :=
      fun s audience here =>
        (sweepGroup_skipped skips lists (fun _ => rfl) _ _ _ s audience).trans here
    have run := invariant_of_forall swept
      (s := .start (emailStatuses d.googleEmailStatus now) (d.outside, d.auditLog)) rfl
      (audiencesIn (emailStatuses d.googleEmailStatus now) d.db wiring.mainGroupEmail).sorted
    exact .of_rows (congrArg Prod.fst run) (.refl d.db) rfl rfl (congrArg Prod.snd run)

/-- Whatever its stages meet, a rehearsal changes nothing that a later run could not undo. -/
theorem rehearsal_frame (wiring : Wiring γ) (config : ProvisionConfig)
    (reads : ∀ access ∈ google, access.directory.ReadsOnly observe) (locked : Bool) (now : Time)
    (d : Deployment γ) :
    Rehearsed observe d (runSweep (wiring.rehearsing config google) locked now d).2 := by
  unfold runSweep
  split
  · exact .refl d
  · refine andThen_rehearsed (pullStage_rehearsed d) fun pull d => ?_
    exact andThen_rehearsed (provisionStage_rehearsed reads d) fun provision d =>
      reconcileStage_rehearsed reads now pull provision d

end

/-! ### A rehearsal of everything -/

structure Tenant where
  groups : Dict Email RemoteGroup
  members : Dict Email (List GroupMemberEntry)

def tenantDirectory : Directory Tenant where
  insertMember := fun group address t => match t.members.get? group with
    | some entries => (.ok (), { t with
        members := t.members.set group (entries ++
          [⟨address, .member, some (str "ACTIVE"), some (str "USER")⟩]) })
    | none => (.error ⟨404, [some (str "notFound")]⟩, t)
  deleteMember := fun group address t => match t.members.get? group with
    | some entries => (.ok (),
        { t with members := t.members.set group (entries.filter (·.email ≠ address)) })
    | none => (.error ⟨404, [some (str "notFound")]⟩, t)
  listMembers := fun group t => match t.members.get? group with
    | some entries => (.ok entries, t)
    | none => (.error ⟨404, [some (str "notFound")]⟩, t)
  getGroup := fun group t => (if group ∈ t.groups then .ok () else .error ⟨404, []⟩, t)

def tenantAccess : GoogleAccess Tenant where
  directory := tenantDirectory
  ensure := fun email name t =>
    (.ok ⟨secureSettings, securityLabel⟩,
      { groups := t.groups.set email ⟨name, provisionDescription, secureSettings, securityLabel⟩
        members := t.members.setDefault email [] })

theorem tenant_readsOnly : tenantDirectory.ReadsOnly id where
  listMembers groupEmail t := by
    unfold tenantDirectory
    dsimp only
    split <;> rfl
  getGroup _ _ := rfl

/-- A main group that holds somebody the records do not know, and an empty database. -/
def strangersOnly : Deployment Tenant where
  db := Database.empty
  bootstrappedGroupProvisioning := false
  googleEmailStatus := ⟨Dict.empty, false⟩
  auditLog := []
  outside :=
    { groups := Dict.empty.set (str "everyone@pdx.org") ⟨str "Everyone", [], Dict.empty, Dict.empty⟩
      members := Dict.empty.set (str "everyone@pdx.org")
        [⟨str "eve@pdx.org", .member, some (str "ACTIVE"), some (str "USER")⟩] }

/-- A leader the roster has and the tables do not: a body to provision, an add and a removal. -/
def leaderPulled : Wiring Tenant := { quietWiring with source := some (some [leaderRecord]) }

theorem rehearsal_frame_leader :
    let run := runSweep (leaderPulled.rehearsing ⟨str "pdx.org", str "Everyone", 10⟩
      (some tenantAccess)) false 0 strangersOnly
    run.1.isOk = true ∧ run.2.db.members.length = 1 ∧ Rehearsed id strangersOnly run.2 := by
  have reads : ∀ access ∈ some tenantAccess, access.directory.ReadsOnly id := by
    rintro access ⟨⟩
    exact tenant_readsOnly
  exact ⟨by decide +kernel, by decide +kernel, rehearsal_frame leaderPulled _ reads false 0 strangersOnly⟩

end Rosadmin
