import Rosadmin.Roster.Leaders
import Rosadmin.Sweep.CleanRun
import Rosadmin.Sweep.Converged
import Rosadmin.Sweep.Rehearsal
import Rosadmin.Sweep.Withheld

/-!
# From the records to the groups

A sweep begins at the records upstream and ends at the groups. Its stages are
followed one after another: the tables a pull leaves, the links a provisioning
adds to them, and the groups a green sweep brings to what the tables then say.
-/

namespace Rosadmin
open Foundation

/-! ### A green sweep -/

section
variable {σ : Type}

/-- What a sweep of the tables asks of Google, call after call. -/
def sweepCalls (ports : Ports σ) (mainGroupEmail : Email) (allowMassRemoval : Bool)
    (statuses : EmailStatuses) (db : Database) (world : σ) : List (Entry σ) :=
  (sweepAudiences ports.recorded mainGroupEmail statuses allowMassRemoval
    (audiencesIn statuses db mainGroupEmail) ⟨world, []⟩).port.calls

variable {directory : Directory σ} {audit : AuditEvent → σ → σ} {pool : σ → Database × σ}

/-- A green sweep of groups without plain strangers at the example domain leaves each with what the
tables want there, save for what is withheld. -/
theorem swept_converged {db : Database} {held : σ → Email → Set GroupMemberEntry}
    {writer : StatusWriter σ}
    (faithful : Faithful directory audit pool db held)
    (writes : ∀ key status s, held (writer.write key status s).2 = held s)
    (mainGroupEmail : Email) (allowMassRemoval : Bool) (pull : Option PullReport)
    (provision : Option ProvisionReport)
    (store : StatusStore) (now : Time) {world : σ}
    (tidy : ∀ g, ∀ e ∈ held world g, e.plain = true → isExample e.email = false) {swept : Swept σ}
    (sweeps : swept = sweepLocked (realPorts directory audit pool) writer mainGroupEmail
      allowMassRemoval false pull provision
      store now world) (clean : swept.report.hasFailures = false) :
    Converged (held swept.port) (Withheld (emailStatuses store now)
      (sweepCalls (realPorts directory audit pool)
        mainGroupEmail allowMassRemoval (emailStatuses store now) db (pool world).2))
      (audiencesIn (emailStatuses store now) db mainGroupEmail) := by
  have tables : (pool world).1 = db := faithful.tables world
  have began : held (pool world).2 = held world := faithful.pools world
  have recorded := run_unrecorded (realPorts directory audit pool) mainGroupEmail
    (emailStatuses store now) allowMassRemoval
    (audiencesIn (emailStatuses store now) db mainGroupEmail) (pool world).2
  have outcomes : swept.report.groups =
      (sweepAudiences (realPorts directory audit pool).recorded mainGroupEmail
        (emailStatuses store now) allowMassRemoval
          (audiencesIn (emailStatuses store now) db mainGroupEmail)
        ⟨(pool world).2, []⟩).outcomes := by
    rw [sweeps]
    show (sweepAudiences (realPorts directory audit pool) mainGroupEmail
      (emailStatuses store now) allowMassRemoval
      (audiencesIn (emailStatuses store now) (pool world).1 mainGroupEmail)
        (pool world).2).outcomes = _
    rw [tables, recorded]
    rfl
  have ended : held swept.port = held
      (sweepAudiences (realPorts directory audit pool).recorded mainGroupEmail
        (emailStatuses store now) allowMassRemoval
          (audiencesIn (emailStatuses store now) db mainGroupEmail)
        ⟨(pool world).2, []⟩).port.world := by
    have closed : ∀ run : RunState σ,
        held (closeRun (emailStatuses store now) writer false run store).2.2 = held run.port :=
      fun run => closeRun_keeps (fun key status s before => (writes key status s).trans before) rfl
    rw [sweeps]
    show held (closeRun (emailStatuses store now) writer false
      (sweepAudiences (realPorts directory audit pool)
      mainGroupEmail (emailStatuses store now) allowMassRemoval
      (audiencesIn (emailStatuses store now) (pool world).1 mainGroupEmail)
        (pool world).2) store).2.2 = _
    rw [closed, tables, recorded]
    rfl
  have progress : Progress held (audiencesIn (emailStatuses store now) db mainGroupEmail)
      (ExcludedIn (realPorts directory audit pool).recorded mainGroupEmail
        (emailStatuses store now) allowMassRemoval
        (audiencesIn (emailStatuses store now) db mainGroupEmail)
          (.start (emailStatuses store now) ⟨(pool world).2, []⟩))
      ((audiencesIn (emailStatuses store now) db mainGroupEmail).sorted.map (·.1))
        ⟨(pool world).2, []⟩
      (sweepAudiences (realPorts directory audit pool).recorded mainGroupEmail
        (emailStatuses store now) allowMassRemoval
        (audiencesIn (emailStatuses store now) db mainGroupEmail) ⟨(pool world).2, []⟩).port :=
    progress_run faithful _ (List.append_nil _).symm (outcomes ▸ green_of_report clean)
  rw [ended]
  refine (converged_of_progress progress ?_).mpr fun g _ e here plain _ =>
    tidy g e (began ▸ here) plain
  rintro g key (left | refused)
  · exact withheld_of_excluded left
  · exact .refused g key refused rfl

end

/-! ### The links a provisioning writes -/

/-- The tables as they were, but for the links of the bodies. -/
structure LinksOnly (before after : Database) : Prop where
  members : after.members = before.members
  memberships : after.bodyMemberships = before.bodyMemberships
  bans : after.memberBans = before.memberBans
  names : after.leadershipBodies.map (fun b => (b.id, b.name, b.bodyType)) =
    before.leadershipBodies.map (fun b => (b.id, b.name, b.bodyType))
  table : LeadershipBodiesTable before.leadershipBodies before.nextId →
    LeadershipBodiesTable after.leadershipBodies after.nextId

section
variable {before between after : Database}

theorem LinksOnly.refl (db : Database) : LinksOnly db db := ⟨rfl, rfl, rfl, rfl, id⟩

theorem LinksOnly.trans (first : LinksOnly before between) (second : LinksOnly between after) :
    LinksOnly before after where
  members := second.members.trans first.members
  memberships := second.memberships.trans first.memberships
  bans := second.bans.trans first.bans
  names := second.names.trans first.names
  table := second.table ∘ first.table

theorem linkBody_only (failed : Nat) (db : Database) (entry : UUID × BodyLinks) :
    LinksOnly db (linkBody false (failed, db) entry).2 := by
  obtain ⟨bodyId, leaders, editors⟩ := entry
  unfold linkBody
  cases leaders with
  | none => exact LinksOnly.refl db
  | some leaders =>
    cases editors with
    | none => exact LinksOnly.refl db
    | some editors =>
      dsimp only
      rw [if_neg Bool.false_ne_true]
      cases set : db.setBodyLink bodyId leaders editors with
      | none => exact LinksOnly.refl db
      | some answer =>
        obtain ⟨matched, linked⟩ := answer
        rcases setBodyLink_some.mp set with ⟨-, relinks⟩ | ⟨-, -, rfl⟩
        · have table := relinks.table
          obtain ⟨-, -, rfl⟩ := relinks
          exact ⟨rfl, rfl, rfl, relinked_same _ fun _ => rfl, table⟩
        · exact LinksOnly.refl linked

theorem linkBodies_only (entries : List (UUID × BodyLinks)) (state : Nat × Database) :
    LinksOnly state.2 (entries.foldl (linkBody false) state).2 := by
  induction entries generalizing state with
  | nil => exact LinksOnly.refl _
  | cons entry entries ih => exact (linkBody_only state.1 state.2 entry).trans (ih _)

/-- The leaders of a body are those of its name and type, whatever its links. -/
theorem LinksOnly.leadsBody (only : LinksOnly before after) (member : Member) (bodyId : UUID) :
    member.LeadsBody after bodyId ↔ member.LeadsBody before bodyId := by
  have named : ∀ db : Database, member.LeadsBody db bodyId ↔ ∃ leadership ∈ member.leads,
      (bodyId, leadership.name, leadership.bodyType.value) ∈ db.leadershipBodies.map
        (fun b => (b.id, b.name, b.bodyType)) := by
    intro db
    simp only [Member.LeadsBody, List.mem_map, Prod.mk.injEq]
  rw [named, named, only.names]

end

section
variable {σ G : Type} {observe : σ → G} {inner : GroupProvisioner σ}

theorem mintGroup_observe (ensures : ∀ email name s,
    observe (inner.ensure email name s).2 = observe s)
    (creating : List Email) (m : Minting σ) (group : PlannedGroup) :
    observe (mintGroup inner creating m group).port = observe m.port := by
  have ensured := ensures group.email group.name m.port
  unfold mintGroup
  generalize inner.ensure group.email group.name m.port = answer at ensured ⊢
  obtain ⟨seen, port⟩ := answer
  cases seen with
  | error failure => exact ensured
  | ok seen =>
    dsimp only
    split <;> split <;> exact ensured

/-- A provisioning changes the links alone, and outside what creating a group changes. -/
theorem provision_only (reads : ∀ email s, observe (inner.groupExists email s).2 = observe s)
    (ensures : ∀ email name s, observe (inner.ensure email name s).2 = observe s) (locale : Locale)
    (config : ProvisionConfig) (mainEmail : Email) (db : Database) (bootstrapped : Bool)
    (port : σ) :
    let done := provision inner locale config mainEmail false db bootstrapped port
    LinksOnly db done.db ∧ observe done.port = observe port := by
  have sized : observe (missingGroups inner (planPending config mainEmail (db.allBodies locale)).1
      port).2 = observe port :=
    missingGroups_observe reads _ _
  unfold provision
  dsimp only
  generalize missingGroups inner _ port = answer at sized
  obtain ⟨verdict, between⟩ := answer
  cases verdict with
  | error failure => exact ⟨LinksOnly.refl db, sized⟩
  | ok toCreate =>
    dsimp only at sized ⊢
    split
    · exact ⟨LinksOnly.refl db, sized⟩
    · have minted : ∀ (m : Minting σ) group, observe m.port = observe between →
          observe (mintGroup inner (toCreate.map (·.email)) m group).port = observe between :=
        fun m group here => (mintGroup_observe ensures _ m group).trans here
      exact ⟨linkBodies_only _ (_, db), (invariant_of_forall minted rfl _).trans sized⟩

end

/-! ### Whom the records call into a group -/

/-- The records put the member of the row into the group: the record was stored, is in good standing
and not banned, and the group is the main one, the leader group of a body the record leads, or the
member group of a body the row is added to. -/
structure Called (server : Server) (members : List Member) (report : PullReport) (db : Database)
    (mainGroupEmail g : Email) (member : Member) (row : MembersRow) : Prop where
  listed : member ∈ members
  stored : member.stId ∉ report.skippedStIds
  present : row ∈ db.members
  recorded : member.RecordedAs server row.toMemberColumns
  standing : member.standing = .goodStanding
  unbanned : db.banned row.id = false
  link : g = mainGroupEmail ∨ ∃ body ∈ db.leadershipBodies,
    (body.leaderGoogleGroupEmail = some g ∧ member.LeadsBody db body.id) ∨
      (body.memberGoogleGroupEmail = some g ∧
        ∃ added ∈ db.bodyMemberships, added.memberId = row.id ∧ added.bodyId = body.id ∧
          added.role = .member)

section
variable {server : Server} {members : List Member} {db pulled after : Database}
  {report : PullReport} {s : PullState} {folds : List Fold} {member : Member} {row : MembersRow}
  {mainGroupEmail g : Email} (reconciled : Reconciled server members false db report pulled s folds)
  (keyed : db.Keyed) (distinct : (members.map (·.stId)).Nodup) (only : LinksOnly pulled after)
include reconciled

/-- Where the fuse has not tripped, everyone in good standing is on the roster. -/
theorem Reconciled.rostered (untripped : lapseFuseTrips db (members.map (·.stId)) = false)
    (there : row ∈ pulled.members) (standing : row.standing = .goodStanding) :
    row.stId ∈ members.map (·.stId) := by
  by_contra absent
  have closed := reconciled.closed.members
  rw [untripped] at closed
  obtain ⟨old, -, rfl⟩ := List.mem_map.mp (closed ▸ there)
  rw [closeRow_keys.2] at absent
  rw [closeRow] at standing
  split at standing
  · cases standing
  · rename_i kept
    exact kept ⟨rfl, by simp [Database.lapses, standing, absent]⟩

include keyed distinct only

/-- A leader row of a member stored is one that its record asks for. -/
theorem Reconciled.leads_iff (listed : member ∈ members)
    (stored : member.stId ∉ report.skippedStIds) (present : row ∈ after.members)
    (same : row.stId = member.stId) (bodyId : UUID) :
    Leads after.bodyMemberships (row.id, bodyId) ↔ member.LeadsBody after bodyId := by
  have there : row ∈ pulled.members := only.members ▸ present
  have mine : row.id ∈ s.presentMemberIds := by
    refine (reconciled.present_iff keyed distinct there).mpr ⟨?_, same.symm ▸ stored⟩
    exact same.symm ▸ List.mem_map_of_mem listed
  rw [only.memberships, only.leadsBody, ← reconciled.pair_iff distinct listed stored there same]
  exact ⟨fun leads => reconciled.closed.pair_of_leads leads mine, reconciled.closed.leads⟩

theorem Reconciled.admitted
    (called : Called server members report after mainGroupEmail g member row) :
    after.LinkAdmits mainGroupEmail g row := by
  refine called.link.imp_right ?_
  rintro ⟨body, held, ⟨column, leads⟩ | ⟨column, added, there, mine, here, role⟩⟩
  · obtain ⟨led, there, mine, here, role⟩ :=
      (reconciled.leads_iff keyed distinct only called.listed called.stored
      called.present called.recorded.stId body.id).mpr leads
    exact ⟨led, there, mine, body, held, here.symm, Or.inl ⟨role, column⟩⟩
  · exact ⟨added, there, mine, body, held, here.symm, Or.inr ⟨role, column⟩⟩

/-- Whomever the tables admit the records call, unless the record was skipped. -/
theorem Reconciled.called (untripped : lapseFuseTrips db (members.map (·.stId)) = false)
    (present : row ∈ after.members) (standing : row.standing = .goodStanding)
    (unbanned : after.banned row.id = false) (admits : after.LinkAdmits mainGroupEmail g row) :
    row.stId ∈ report.skippedStIds ∨
      ∃ member, Called server members report after mainGroupEmail g member row := by
  by_cases skipped : row.stId ∈ report.skippedStIds
  · exact Or.inl skipped
  have there : row ∈ pulled.members := only.members ▸ present
  obtain ⟨member, listed, same⟩ := List.mem_map.mp (reconciled.rostered untripped there standing)
  have stored : member.stId ∉ report.skippedStIds := same.symm ▸ skipped
  obtain ⟨written, held, recorded, -⟩ := reconciled.stored_row listed stored
  cases reconciled.keyed.members.row_of_stId held there (recorded.stId.trans same)
  refine Or.inr ⟨member, listed, stored, present, recorded, recorded.standing.symm.trans standing,
    unbanned, ?_⟩
  refine admits.imp_right ?_
  rintro ⟨bm, held, mine, body, there, here, ⟨role, column⟩ | ⟨role, column⟩⟩
  · refine ⟨body, there, Or.inl ⟨column, ?_⟩⟩
    exact (reconciled.leads_iff keyed distinct only listed stored present same.symm body.id).mp
      ⟨bm, held, mine, here.symm, role⟩
  · exact ⟨body, there, Or.inr ⟨column, bm, held, mine, here.symm, role⟩⟩

end

/-! ### The stages of a whole run -/

section
variable {γ : Type}

/-- The directory's calls, beside the audit log. -/
def Directory.beside (directory : Directory γ) : Directory (γ × List AuditRow) where
  insertMember groupEmail memberEmail := aside (directory.insertMember groupEmail memberEmail)
  deleteMember groupEmail memberEmail := aside (directory.deleteMember groupEmail memberEmail)
  listMembers groupEmail := aside (directory.listMembers groupEmail)
  getGroup groupEmail := aside (directory.getGroup groupEmail)

theorem mirrored_beside (perform : Email → Email → γ → Except HttpError Unit × γ)
    (read : HttpError → SyncOutcome) (groupEmail : Option Email) (memberEmail : Email) :
    aside (mirrored perform read groupEmail memberEmail) =
      mirrored (fun groupEmail memberEmail => aside (perform groupEmail memberEmail)) read
        groupEmail memberEmail := by
  funext port
  unfold mirrored
  cases skipGate groupEmail memberEmail with
  | error outcome => rfl
  | ok gated =>
    unfold aside
    dsimp only
    generalize perform gated memberEmail port.1 = answer
    obtain ⟨result, after⟩ := answer
    cases result <;> rfl

/-- The run of an operator who has the real Google wired in, and a roster to pull. -/
def Wiring.reconciling (wiring : Wiring γ) (members : List Member) (directory : Directory γ) :
    Wiring γ :=
  { wiring with
    source := some (some members), lister := some (googleGroupLister directory),
    sync := googleGroupSync directory, dryRun := false }

theorem reconciling_ports (wiring : Wiring γ) (members : List Member) (directory : Directory γ)
    (db : Database) :
    (wiring.reconciling members directory).ports (googleGroupLister directory) db =
      realPorts directory.beside (fun event port => (port.1, wiring.audit (.sweep event) port.2))
        (fun port => (db, port)) := by
  have sync : (googleGroupSync directory.beside : GroupSync (γ × List AuditRow)) =
      { add := fun groupEmail memberEmail =>
        aside ((googleGroupSync directory).add groupEmail memberEmail)
        remove := fun groupEmail memberEmail => aside
          ((googleGroupSync directory).remove groupEmail memberEmail) } := by
    unfold googleGroupSync
    congr 1
    · funext groupEmail memberEmail
      exact (mirrored_beside _ _ groupEmail memberEmail).symm
    · funext groupEmail memberEmail
      exact (mirrored_beside _ _ groupEmail memberEmail).symm
  have lister : (googleGroupLister directory.beside : GroupLister (γ × List AuditRow)) =
      { list := fun groupEmail => aside ((googleGroupLister directory).list groupEmail)
        groupExists := fun groupEmail => aside
          ((googleGroupLister directory).groupExists groupEmail) } := by
    unfold googleGroupLister
    congr 1
    funext groupEmail port
    show _ = aside _ port
    unfold aside Directory.beside aside
    dsimp only
    generalize directory.getGroup groupEmail port.1 = answer
    obtain ⟨result, after⟩ := answer
    cases result with
    | ok found => rfl
    | error error => rfl
  unfold realPorts
  rw [sync, lister]
  rfl

section
variable {directory : Directory γ} {held : γ → Email → Set GroupMemberEntry} {db : Database}

/-- What Google does, it does beside the audit log too. -/
theorem Faithful.beside
    (faithful : Faithful directory (fun _ world => world) (fun world => (db, world)) db held)
    (audit : AuditEvent → List AuditRow → List AuditRow) (now : Database) :
    Faithful directory.beside (fun event port => (port.1, audit event port.2))
      (fun port => (now, port)) now
      (fun port => held port.1) where
  lists g port := faithful.lists g port.1
  listing g port := faithful.listing g port.1
  gets g port := faithful.gets g port.1
  there g port := faithful.there g port.1
  audits _ _ := rfl
  pools _ := rfl
  tables _ := rfl
  elsewhere g a port := faithful.elsewhere g a port.1
  inserted g a port := faithful.inserted g a port.1
  refused g a port := faithful.refused g a port.1
  deleted g a port := faithful.deleted g a port.1
  kept g a port := faithful.kept g a port.1

end

/-- The records have reached the groups. -/
structure RecordsReached (server : Server) (members : List Member) (report : PullReport)
    (statuses : EmailStatuses) (db : Database) (mainGroupEmail : Email)
    (held : Email → Set GroupMemberEntry) (withheld : Email → Str → Prop) : Prop where
  stored : ∀ member ∈ members, member.stId ∉ report.skippedStIds →
    ∃ row ∈ db.members, member.RecordedAs server row.toMemberColumns
  /-- Whom the records call into a group is there. -/
  reached : ∀ g member row, Called server members report db mainGroupEmail g member row →
    ∀ key, Admits statuses (Database.desiredRow row) key → ¬withheld g key → ∃ e ∈ held g,
      casefold e.email = key
  /-- A plain entry of a group the sweep fills is that of somebody the records call there, or of one
  skipped. -/
  only : ∀ g, g = mainGroupEmail ∨ db.Linked g → ∀ e ∈ held g, e.plain = true → ∃ row ∈ db.members,
    Admits statuses (Database.desiredRow row) (casefold e.email) ∧ (row.stId ∈ report.skippedStIds ∨
      ∃ member, Called server members report db mainGroupEmail g member row)

variable {wiring : Wiring γ} {members : List Member} {directory : Directory γ}
    {held : γ → Email → Set GroupMemberEntry} {d next : Deployment γ}

theorem pullStage_ok {pull : Option PullReport}
    (done : pullStage (wiring.reconciling members directory) d = (.ok pull, next)) :
    ∃ report, pull = some report ∧
      pullIn wiring.server members false d.db = .ok (report, next.db) ∧ report.lapseRefused = 0 ∧
      next.outside = d.outside ∧ next.googleEmailStatus = d.googleEmailStatus := by
  change andThen (pullRoster (wiring.reconciling members directory) members d) _ = _ at done
  cases pulled : pullIn wiring.server members false d.db with
  | error error =>
    have failed : pullRoster (wiring.reconciling members directory) members d =
        (.error (.database error), d) := by
      rw [pullRoster, Wiring.reconciling, pulled]
    rw [failed] at done
    cases done
  | ok result =>
    obtain ⟨report, db⟩ := result
    have committed : (pullRoster (wiring.reconciling members directory) members d).1 = .ok report ∧
        (pullRoster (wiring.reconciling members directory) members d).2.db = db ∧
        (pullRoster (wiring.reconciling members directory) members d).2.outside = d.outside ∧
        (pullRoster (wiring.reconciling members directory) members d).2.googleEmailStatus =
          d.googleEmailStatus := by
      rw [pullRoster, Wiring.reconciling, pulled]
      exact ⟨rfl, rfl, rfl, rfl⟩
    obtain ⟨reported, rfl, outside, statuses⟩ := committed
    rw [← Prod.eta (pullRoster (wiring.reconciling members directory) members d), reported] at done
    dsimp only [andThen] at done
    split at done
    · cases done
    · rename_i trusted
      cases done
      exact ⟨report, rfl, rfl, Nat.eq_zero_of_not_pos trusted, outside, statuses⟩

theorem provisionStage_only {wiring : Wiring γ} (real : wiring.dryRun = false)
    (provisions : ∀ provisioner ∈ wiring.provisioner,
      (∀ email world, held (provisioner.groupExists email world).2 = held world) ∧
      ∀ email name world, held (provisioner.ensure email name world).2 = held world) :
    LinksOnly d.db (provisionStage wiring d).2.db ∧
      held (provisionStage wiring d).2.outside = held d.outside ∧
      (provisionStage wiring d).2.googleEmailStatus = d.googleEmailStatus := by
  unfold provisionStage
  cases given : wiring.provisioner with
  | none => exact ⟨LinksOnly.refl _, rfl, rfl⟩
  | some provisioner =>
    cases wiring.provision with
    | none => exact ⟨LinksOnly.refl _, rfl, rfl⟩
    | some config =>
      dsimp only
      rw [real]
      obtain ⟨reads, ensures⟩ := provisions provisioner given
      obtain ⟨only, same⟩ :=
        provision_only reads ensures wiring.locale config wiring.mainGroupEmail d.db
        d.bootstrappedGroupProvisioning d.outside
      exact ⟨only, same, rfl⟩

/-- The stages of a run that ended with a report. -/
theorem runSweep_ok {now : Time} {report : SweepReport} {after : Deployment γ}
    (ran : runSweep wiring false now d = (.ok report, after)) :
    ∃ pull pulled provision, pullStage wiring d = (.ok pull, pulled) ∧
      (provisionStage wiring pulled).1 = .ok provision ∧
      reconcileStage wiring now pull provision (provisionStage wiring pulled).2 =
        (report, after) := by
  rw [runSweep, if_neg Bool.false_ne_true] at ran
  cases pulling : pullStage wiring d with
  | mk pull pulled =>
    rw [pulling] at ran
    cases pull with
    | error failure => cases ran
    | ok pull =>
      dsimp only [andThen] at ran
      cases provisioning : provisionStage wiring pulled with
      | mk provision provisioned =>
        rw [provisioning] at ran
        cases provision with
        | error failure => cases ran
        | ok provision =>
          refine ⟨pull, pulled, provision, rfl, by rw [provisioning], ?_⟩
          rw [provisioning]
          cases ran
          rfl

theorem reconcileStage_swept (wiring : Wiring γ) (members : List Member) (directory : Directory γ)
    (now : Time) (pull : Option PullReport) (provision : Option ProvisionReport)
    (d : Deployment γ) :
    ∃ swept : Swept (γ × List AuditRow), swept = sweepLocked
        (realPorts directory.beside (fun event port => (port.1, wiring.audit (.sweep event) port.2))
          (fun port => (d.db, port)))
        wiring.statusWriter wiring.mainGroupEmail wiring.allowMassRemoval false pull provision
          d.googleEmailStatus now
        (d.outside, d.auditLog) ∧
      swept.report.pull = pull ∧
      reconcileStage (wiring.reconciling members directory) now pull provision d = (swept.report,
        { d with
          googleEmailStatus := swept.store, outside := swept.port.1,
          auditLog := swept.port.2 }) := by
  refine ⟨_, rfl, rfl, ?_⟩
  rw [← reconciling_ports wiring members directory d.db]
  rfl

end

/-- What the run asks of Google, over the tables that its pull and its provisioning leave. -/
def Wiring.runCalls {γ : Type} (wiring : Wiring γ) (members : List Member) (directory : Directory γ)
    (now : Time) (d : Deployment γ) : List (Entry (γ × List AuditRow)) :=
  let run := wiring.reconciling members directory
  let linked := (provisionStage run (pullStage run d).2).2
  sweepCalls (realPorts directory.beside
      (fun event port => (port.1, wiring.audit (.sweep event) port.2)) (fun port =>
        (linked.db, port)))
    wiring.mainGroupEmail wiring.allowMassRemoval
      (emailStatuses linked.googleEmailStatus now) linked.db
    (linked.outside, linked.auditLog)

theorem untripped_of_report {server : Server} {members : List Member} {db after : Database}
    {report : PullReport} (pulled : pullIn server members false db = .ok (report, after))
    (none : report.lapseRefused = 0) :
    lapseFuseTrips db (members.map (·.stId)) = false := by
  obtain ⟨-, s, -, closed⟩ := pullIn_ok.mp pulled
  have refused := (closePull_frame closed).2.2
  cases tripped : lapseFuseTrips db (members.map (·.stId)) with
  | false => rfl
  | true =>
    rw [tripped, if_pos rfl, none] at refused
    have exceeded : lapseBudget (goodStandingTotal db) < wouldLapse db (members.map (·.stId)) :=
      of_decide_eq_true tripped
    omega

theorem mem_of_at {audiences : Audiences} {g : Email} {key : Str} (desired : key ∈ audiences.at g) :
    g ∈ audiences := by
  rw [Audiences.at] at desired
  cases found : audiences.get? g with
  | none =>
    rw [found] at desired
    exact absurd desired (Dict.not_mem_empty key)
  | some audience => exact Dict.mem_iff_item.mpr ⟨audience, Dict.get?_eq_some_iff.mp found⟩

/-- The sweep fills the main group and every address a body holds. -/
theorem linked_swept (statuses : EmailStatuses) {db : Database} {mainGroupEmail g : Email}
    (pairs : ∀ b ∈ db.leadershipBodies, b.leaderGoogleGroupEmail.isNone =
      b.memberGoogleGroupEmail.isNone)
    (linked : g = mainGroupEmail ∨ db.Linked g) : g ∈ audiencesIn statuses db mainGroupEmail := by
  unfold audiencesIn
  rw [mem_foldl_setDefault]
  rcases linked with rfl | ⟨body, there, column⟩
  · have main : g ∈ (db.linkedLeaderRows ++ db.linkedMemberRows).foldl (admitLinked statuses)
        (Dict.empty.set g Dict.empty) :=
          mem_admitLinkedRows.mpr (Or.inr (Dict.mem_set.mpr (Or.inl rfl)))
    exact Or.inr ((mem_admitRows main).mpr main)
  · have pair := pairs body there
    refine Or.inl (Database.mem_allLinkedGroups.mpr ⟨body, there, ?_, column⟩)
    rcases column with leader | plain
    · rw [leader]
      rfl
    · rw [plain, Option.isNone_some] at pair
      simpa using pair

/-- Every group is there to be adopted. -/
def adopting : Wiring Groupings :=
  { quietWiring with
    provisioner := some ⟨fun _ port => (.ok true, port), fun _ _ port =>
      (.ok ⟨secureSettings, securityLabel⟩, port)⟩
    provision := some ⟨str "pdx.org", str "Everyone", 10⟩ }

/-- A member the tables know by an id the roster has replaced, and a stranger in every group. -/
def strangerEverywhere : Deployment Groupings where
  db := oneInStanding
  bootstrappedGroupProvisioning := true
  googleEmailStatus := ⟨Dict.empty, true⟩
  auditLog := []
  outside := fun _ => [insertedEntry (str "eve@pdx.org")]

end Rosadmin
