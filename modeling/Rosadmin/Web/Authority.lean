import Rosadmin.Foundation.Runs
import Rosadmin.Roster.Repeat
import Rosadmin.Roster.Writers
import Rosadmin.Web.Records

/-!
# What a panel write was authorized by

A request reads three times before its claim: who acts, whether they lead the
body, whom the write is about. Pulls, bans and other claims commit in between;
a pull or a ban may take back what a read has found, and a claim never does.
-/

namespace Rosadmin.Web
open Foundation

structure PanelRequest where
  operation : MirrorOperation
  principal : Principal
  groupId : UUID
  memberId : UUID

/-- How far a request has come. -/
inductive Handling where
  | waiting
  | resolved (request : PanelRequest) (actor : MemberRow)
  | leading (request : PanelRequest) (actor : MemberRow)
  | targeted (request : PanelRequest) (actor target : MemberRow)
  | answered

structure Traffic where
  db : Database
  handlings : Nat → Handling

/-- A committed statement, of a request or of another writer. -/
inductive TrafficEvent where
  | resolve (i : Nat) (request : PanelRequest)
  | lead (i : Nat)
  | target (i : Nat)
  | claim (i : Nat) (now : Time)
  | pull (roster : Pull)
  | ban (row : MemberBansRow)

def Traffic.put (s : Traffic) (i : Nat) (handling : Handling) : Traffic :=
  { s with handlings := fun j => if j = i then handling else s.handlings j }

def PanelRequest.write (request : PanelRequest) (actorId : UUID) (now : Time) : Write :=
  match request.operation with
  | .add => .add request.groupId request.memberId actorId now
  | .remove => .remove request.groupId request.memberId

/-- What `add_member` asks of its target; `remove_member` asks that it be there. -/
def PanelRequest.accepts (request : PanelRequest) (target : MemberRow) : Bool :=
  match request.operation with
  | .add => !target.banned && target.standing = .goodStanding
  | .remove => true

/-- `INSERT INTO member_bans`, under the constraints of the table. -/
def banMember (row : MemberBansRow) (db : Database) : Database :=
  if row.memberId ∈ db.members.map (·.id) ∧ db.banned row.memberId = false ∧ row.note ≠ []
  then { db with memberBans := db.memberBans ++ [row] } else db

section
variable (server : Server)

/-- One event; one that cannot happen changes nothing. -/
def Traffic.step (s : Traffic) : TrafficEvent → Traffic
  | .resolve i request => match s.handlings i with
    | .waiting => match resolveMember s.db request.principal with
      | .ok actor => s.put i (.resolved request actor)
      | .error _ => s.put i .answered
    | _ => s
  | .lead i => match s.handlings i with
    | .resolved request actor =>
      s.put i (if s.db.isLeaderOf actor.id request.groupId then .leading request actor
        else .answered)
    | _ => s
  | .target i => match s.handlings i with
    | .leading request actor => match s.db.memberRowById request.memberId with
      | some target => s.put i (if request.accepts target then .targeted request actor target
          else .answered)
      | none => s.put i .answered
    | _ => s
  | .claim i now => match s.handlings i with
    | .targeted request actor _ =>
        { s with db := (request.write actor.id now).step server s.db }.put i .answered
    | _ => s
  | .pull roster => { s with db := roster.run server s.db }
  | .ban row => { s with db := banMember row s.db }

def trafficRun (start : Traffic) (events : List TrafficEvent) : Traffic :=
  events.foldl (Traffic.step server) start

/-- No pull and no ban. -/
def TrafficEvent.Quiet : TrafficEvent → Prop
  | .pull _ | .ban _ => False
  | _ => True

/-- What the reads of a request depend on. -/
structure SameStanding (db later : Database) : Prop where
  members : later.members = db.members
  bans : later.memberBans = db.memberBans
  leaders : later.leaderRows = db.leaderRows

/-- The member who acts, not banned. -/
def Acts (principal : Principal) (actorId : UUID) (db : Database) : Prop :=
  ∃ row ∈ db.members, row.id = actorId ∧ db.banned row.id = false ∧
    ∃ discordId, intOfStr principal.discordId = some discordId ∧ row.discordUserId = some discordId

/-- The member a request is about; to be added, in good standing and not banned. -/
def Targets (request : PanelRequest) (db : Database) : Prop :=
  ∃ row ∈ db.members, row.id = request.memberId ∧
    (request.operation = .add → row.standing = .goodStanding ∧ db.banned row.id = false)

/-- The event read something that then held, and that still holds if neither a pull nor a ban has
come since. -/
def Found (start : Traffic) (events : List TrafficEvent) (read : TrafficEvent)
    (held : Database → Prop) : Prop :=
  ∃ before after, events = before ++ read :: after ∧ held (trafficRun server start before).db ∧
    ((∀ e ∈ after, e.Quiet) → held (trafficRun server start events).db)

end

section
variable {server : Server}

@[simp] theorem Traffic.put_db (s : Traffic) (i : Nat) (handling : Handling) :
    (s.put i handling).db = s.db := rfl

@[simp] theorem Traffic.put_handlings (s : Traffic) (i : Nat) (handling : Handling) (j : Nat) :
    (s.put i handling).handlings j = if j = i then handling else s.handlings j := rfl

theorem SameStanding.refl (db : Database) : SameStanding db db := ⟨rfl, rfl, rfl⟩

theorem write_sameStanding {db : Database} (request : PanelRequest) (actorId : UUID) (now : Time) :
    SameStanding db ((request.write actorId now).step server db) := by
  cases operation : request.operation with
  | add =>
    rw [PanelRequest.write, operation]
    simp only [Write.step]
    split
    · refine ⟨claimAndAddMember_frame.1, ?_, claimAndAddMember_leaders⟩
      cases claim : db.claimAndAddMember request.groupId request.memberId now actorId with
      | mk claimed after =>
        rcases Database.claimAndAddMember_cases claim with ⟨-, -, rfl⟩ | ⟨-, rfl⟩ <;> rfl
    · exact SameStanding.refl db
  | remove =>
    rw [PanelRequest.write, operation]
    refine ⟨claimAndRemoveMember_frame.1, ?_, claimAndRemoveMember_leaders⟩
    simp only [Write.step]
    cases claim : db.claimAndRemoveMember request.groupId request.memberId with
    | mk removed after =>
      rcases Database.claimAndRemoveMember_cases claim with ⟨-, -, rfl⟩ | ⟨-, rfl⟩ <;> rfl

theorem step_quiet {e : TrafficEvent} (quiet : e.Quiet) (s : Traffic) :
    SameStanding s.db (s.step server e).db := by
  cases e with
  | resolve i request =>
    simp only [Traffic.step]
    split
    · split <;> exact SameStanding.refl s.db
    · exact SameStanding.refl s.db
  | lead i =>
    simp only [Traffic.step]
    split <;> exact SameStanding.refl s.db
  | target i =>
    simp only [Traffic.step]
    split
    · split <;> exact SameStanding.refl s.db
    · exact SameStanding.refl s.db
  | claim i now =>
    simp only [Traffic.step]
    split
    · exact write_sameStanding _ _ now
    · exact SameStanding.refl s.db
  | pull roster => exact quiet.elim
  | ban row => exact quiet.elim

theorem isLeaderOf_leaderRows (db : Database) (memberId bodyId : UUID) :
    db.isLeaderOf memberId bodyId =
    db.leaderRows.any (fun r => r.memberId = memberId && r.bodyId = bodyId) := by
  rw [Database.isLeaderOf, Database.leaderRows, List.any_filter]
  congr 1
  funext row
  rw [Bool.and_comm]

/-- What the members, the bans and the leader rows settle. -/
def Readable (held : Database → Prop) : Prop := ∀ db later, SameStanding db later →
    held db → held later

theorem readable_acts (principal : Principal) (actorId : UUID) :
    Readable (Acts principal actorId) := by
  intro db later same acts
  rw [Acts, same.members]
  simpa only [Acts, Database.banned, same.bans] using acts

theorem readable_targets (request : PanelRequest) : Readable (Targets request) := by
  intro db later same targets
  rw [Targets, same.members]
  simpa only [Targets, Database.banned, same.bans] using targets

theorem readable_leads (memberId bodyId : UUID) :
    Readable (fun db => db.isLeaderOf memberId bodyId = true) := by
  intro db later same leads
  rw [isLeaderOf_leaderRows, same.leaders, ← isLeaderOf_leaderRows]
  exact leads

theorem trafficRun_concat (start : Traffic) (events : List TrafficEvent) (e : TrafficEvent) :
    trafficRun server start (events ++ [e]) = (trafficRun server start events).step server e := by
  rw [trafficRun, List.foldl_append]
  rfl

variable {start : Traffic} {events : List TrafficEvent} {read : TrafficEvent}
    {held : Database → Prop}

theorem Found.later (found : Found server start events read held) (readable : Readable held)
    (e : TrafficEvent) : Found server start (events ++ [e]) read held := by
  obtain ⟨before, after, rfl, then_, now⟩ := found
  refine ⟨before, after ++ [e], by simp, then_, fun quiet => ?_⟩
  rw [trafficRun_concat]
  exact readable _ _ (step_quiet (quiet e (by simp)) _) (now fun e' there =>
    quiet e' (List.mem_append_left _ there))

theorem found_now (holds : held (trafficRun server start events).db)
    (reads : ((trafficRun server start events).step server read).db =
      (trafficRun server start events).db) :
    Found server start (events ++ [read]) read held := by
  refine ⟨events, [], rfl, holds, fun _ => ?_⟩
  rw [trafficRun_concat, reads]
  exact holds

/-- What is behind a request that has come so far. -/
def Behind (server : Server) (start : Traffic) (events : List TrafficEvent) (i : Nat) :
    Handling → Prop
  | .waiting | .answered => True
  | .resolved request actor => Found server start events (.resolve i request)
      (Acts request.principal actor.id)
  | .leading request actor => Found server start events (.resolve i request)
      (Acts request.principal actor.id) ∧
      Found server start events (.lead i) (fun db => db.isLeaderOf actor.id request.groupId = true)
  | .targeted request actor _ => Found server start events (.resolve i request)
      (Acts request.principal actor.id) ∧
      Found server start events (.lead i) (fun db =>
        db.isLeaderOf actor.id request.groupId = true) ∧
      Found server start events (.target i) (Targets request)

theorem Behind.later {i : Nat} {handling : Handling}
    (behind : Behind server start events i handling) (e : TrafficEvent) :
    Behind server start (events ++ [e]) i handling := by
  cases handling with
  | waiting => trivial
  | answered => trivial
  | resolved request actor => exact Found.later behind (readable_acts _ _) e
  | leading request actor => exact ⟨behind.1.later (readable_acts _ _) e,
      behind.2.later (readable_leads _ _) e⟩
  | targeted request actor target =>
    exact ⟨behind.1.later (readable_acts _ _) e, behind.2.1.later (readable_leads _ _) e,
      behind.2.2.later (readable_targets _) e⟩

theorem resolveMember_acts {db : Database} {principal : Principal} {actor : MemberRow}
    (resolved : resolveMember db principal = .ok actor) : Acts principal actor.id db := by
  rw [resolveMember] at resolved
  cases number : intOfStr principal.discordId with
  | none =>
    rw [number] at resolved
    cases resolved
  | some discordId =>
    cases found : db.members.find? (fun m => m.discordUserId = some discordId) with
    | none =>
      simp only [number, Database.memberByDiscord, found, Option.map_none] at resolved
      cases resolved
    | some row =>
      simp only [number, Database.memberByDiscord, found, Option.map_some] at resolved
      split at resolved
      · cases resolved
      · rename_i unbanned
        cases resolved
        refine ⟨row, List.mem_of_find?_eq_some found, rfl,
          by simpa [Database.memberRow] using unbanned, discordId, number, ?_⟩
        simpa using List.find?_some found

theorem accepts_targets {db : Database} {request : PanelRequest} {target : MemberRow}
    (there : db.memberRowById request.memberId = some target)
    (accepted : request.accepts target = true) :
    Targets request db := by
  obtain ⟨row, found, same⟩ := Option.map_eq_some_iff.mp there
  subst same
  have mine : row.id = request.memberId := by simpa using List.find?_some found
  refine ⟨row, List.mem_of_find?_eq_some found, mine, fun operation => ?_⟩
  simp only [PanelRequest.accepts, operation, Bool.and_eq_true, decide_eq_true_eq,
    Bool.not_eq_true'] at accepted
  exact ⟨accepted.2, accepted.1⟩

section
variable (behind : ∀ i, Behind server start events i ((trafficRun server start events).handlings i))
include behind

/-- A request keeps what is behind it when another event, or none of its own, moves. -/
theorem behind_stays (e : TrafficEvent) (i : Nat) :
    Behind server start (events ++ [e]) i ((trafficRun server start events).handlings i) :=
      (behind i).later e

theorem behind_put {e : TrafficEvent} {j : Nat} {handling : Handling}
    (here : Behind server start (events ++ [e]) j handling) (i : Nat) :
    Behind server start (events ++ [e]) i
      (((trafficRun server start events).put j handling).handlings i) := by
  rw [Traffic.put_handlings]
  split
  · rename_i mine
    exact mine ▸ here
  · exact behind_stays behind e i

theorem behind_resolve (j : Nat) (request : PanelRequest) (i : Nat) :
    Behind server start (events ++ [.resolve j request]) i
      (((trafficRun server start events).step server (.resolve j request)).handlings i) := by
  cases stage : (trafficRun server start events).handlings j with
  | waiting =>
    cases resolved : resolveMember (trafficRun server start events).db request.principal with
    | ok actor =>
      simp only [Traffic.step, stage, resolved]
      refine behind_put behind ?_ i
      exact found_now (resolveMember_acts resolved) (by simp [Traffic.step, stage, resolved])
    | error fault =>
      simp only [Traffic.step, stage, resolved]
      refine behind_put behind ?_ i
      trivial
  | resolved | leading | targeted | answered =>
    simp only [Traffic.step, stage]
    exact behind_stays behind _ i

theorem behind_lead (j : Nat) (i : Nat) :
    Behind server start (events ++ [.lead j]) i
      (((trafficRun server start events).step server (.lead j)).handlings i) := by
  have known := behind j
  cases stage : (trafficRun server start events).handlings j with
  | resolved request actor =>
    rw [stage] at known
    simp only [Traffic.step, stage]
    refine behind_put behind ?_ i
    split
    · rename_i leads
      exact ⟨Found.later known (readable_acts _ _) _,
        found_now leads (by simp [Traffic.step, stage])⟩
    · trivial
  | waiting | leading | targeted | answered =>
    simp only [Traffic.step, stage]
    exact behind_stays behind _ i

theorem behind_target (j : Nat) (i : Nat) :
    Behind server start (events ++ [.target j]) i
      (((trafficRun server start events).step server (.target j)).handlings i) := by
  have known := behind j
  cases stage : (trafficRun server start events).handlings j with
  | leading request actor =>
    rw [stage] at known
    cases there : (trafficRun server start events).db.memberRowById request.memberId with
    | none =>
      simp only [Traffic.step, stage, there]
      refine behind_put behind ?_ i
      trivial
    | some target =>
      simp only [Traffic.step, stage, there]
      refine behind_put behind ?_ i
      split
      · rename_i accepted
        exact ⟨known.1.later (readable_acts _ _) _, known.2.later (readable_leads _ _) _,
          found_now (accepts_targets there accepted) (by simp [Traffic.step, stage, there])⟩
      · trivial
  | waiting | resolved | targeted | answered =>
    simp only [Traffic.step, stage]
    exact behind_stays behind _ i

theorem behind_claim (j : Nat) (now : Time) (i : Nat) :
    Behind server start (events ++ [.claim j now]) i
      (((trafficRun server start events).step server (.claim j now)).handlings i) := by
  cases stage : (trafficRun server start events).handlings j with
  | targeted request actor target =>
    simp only [Traffic.step, stage]
    refine behind_put behind ?_ i
    trivial
  | waiting | resolved | leading | answered =>
    simp only [Traffic.step, stage]
    exact behind_stays behind _ i

/-- One event moves one request at most, and that one by a read it has behind it then. -/
theorem behind_step (e : TrafficEvent) (i : Nat) :
    Behind server start (events ++ [e]) i
      ((trafficRun server start (events ++ [e])).handlings i) := by
  rw [trafficRun_concat]
  cases e with
  | resolve j request => exact behind_resolve behind j request i
  | lead j => exact behind_lead behind j i
  | target j => exact behind_target behind j i
  | claim j now => exact behind_claim behind j now i
  | pull roster => exact behind_stays behind _ i
  | ban row => exact behind_stays behind _ i

end

theorem behind_run (idle : ∀ i, start.handlings i = .waiting) (events : List TrafficEvent)
    (i : Nat) : Behind server start events i ((trafficRun server start events).handlings i) := by
  induction events using List.reverseRecOn generalizing i with
  | nil =>
    show Behind server start [] i (start.handlings i)
    rw [idle i]
    trivial
  | append_singleton events e ih => exact behind_step ih e i

/-- A claim that writes is a request's whose actor was not banned when resolved, led the body
when that was checked, and whose target, to be added, was in good standing and not banned when
read; each of the three holds at the claim still if neither a pull nor a ban has committed since
its own read. -/
theorem panel_writes_authorized (idle : ∀ i, start.handlings i = .waiting)
    (events : List TrafficEvent) (i : Nat)
    (now : Time) (wrote : ((trafficRun server start events).step server (.claim i now)).db ≠
      (trafficRun server start events).db) :
    ∃ request actorId, ((trafficRun server start events).step server (.claim i now)).db =
        (request.write actorId now).step server (trafficRun server start events).db ∧
      Found server start events (.resolve i request) (Acts request.principal actorId) ∧
      Found server start events (.lead i) (fun db => db.isLeaderOf actorId request.groupId = true) ∧
      Found server start events (.target i) (Targets request) := by
  have behind : Behind server start events i _ := behind_run idle events i
  cases stage : (trafficRun server start events).handlings i with
  | targeted request actor target =>
    rw [stage] at behind
    exact ⟨request, actor.id, by simp [Traffic.step, stage], behind⟩
  | waiting | resolved | leading | answered =>
    simp [Traffic.step, stage] at wrote

/-! ### A request with nothing in between -/

/-- The four statements of a request. -/
def PanelRequest.statements (request : PanelRequest) (i : Nat) (now : Time) : List TrafficEvent :=
  [.resolve i request, .lead i, .target i, .claim i now]

/-- The handler of the request, as one transaction. -/
def PanelRequest.handler (request : PanelRequest) (now : Time) (panel : Panel) : Panel :=
  match request.operation with
  | .add => (addMember now request.principal request.groupId request.memberId panel).2
  | .remove => (removeMember request.principal request.groupId request.memberId panel).2

theorem resolveMember_mem {db : Database} {principal : Principal} {actor : MemberRow}
    (resolved : resolveMember db principal = .ok actor) : actor.id ∈ db.members.map (·.id) := by
  obtain ⟨row, there, same, -⟩ := resolveMember_acts resolved
  exact List.mem_map.mpr ⟨row, there, same⟩

theorem memberRowById_mem {db : Database} {memberId : UUID} {target : MemberRow}
    (found : db.memberRowById memberId = some target) : memberId ∈ db.members.map (·.id) := by
  obtain ⟨row, search, -⟩ := Option.map_eq_some_iff.mp found
  have mine : row.id = memberId := by simpa using List.find?_some search
  exact List.mem_map.mpr ⟨row, List.mem_of_find?_eq_some search, mine⟩

theorem addMember_db {s : Panel} {now : Time} {principal : Principal} {groupId memberId : UUID}
    {actor target : MemberRow}
    (eligible : eligibleAdd s.db principal groupId memberId = .ok (actor, target)) :
    (addMember now principal groupId memberId s).2.db =
      (s.db.claimAndAddMember groupId memberId now actor.id).2 := by
  rw [addMember, eligible]
  dsimp only
  split <;> rename_i claim <;> rw [claim]

theorem removeMember_db {s : Panel} {principal : Principal} {groupId memberId : UUID}
    {actor target : MemberRow}
    (eligible : eligibleRemove s.db principal groupId memberId = .ok (actor, target)) :
    (removeMember principal groupId memberId s).2.db =
      (s.db.claimAndRemoveMember groupId memberId).2 := by
  rw [removeMember, eligible]
  dsimp only
  split <;> rename_i claim <;> rw [claim]

section
variable {db : Database} {request : PanelRequest} {now : Time} {mirrorTasks : List Mirror}
    {actor target : MemberRow}

theorem handler_refused {fault : Fault}
    (refusal : requireLeader db request.principal request.groupId = .error fault) :
    (request.handler now ⟨db, mirrorTasks⟩).db = db := by
  cases operation : request.operation <;>
    simp [PanelRequest.handler, operation, addMember, removeMember, eligibleAdd, eligibleRemove,
      refusal, bind, Except.bind]

variable (leader : requireLeader db request.principal request.groupId = .ok actor)
include leader

theorem handler_unfound (unfound : db.memberRowById request.memberId = none) :
    (request.handler now ⟨db, mirrorTasks⟩).db = db := by
  cases operation : request.operation <;>
    simp [PanelRequest.handler, operation, addMember, removeMember, eligibleAdd, eligibleRemove,
      leader, unfound, bind, Except.bind]

variable (found : db.memberRowById request.memberId = some target)
include found

theorem handler_ineligible (unaccepted : request.accepts target = false) :
    (request.handler now ⟨db, mirrorTasks⟩).db = db := by
  cases operation : request.operation with
  | add =>
    have ineligible : target.banned = true ∨ target.standing ≠ .goodStanding := by
      cases banned : target.banned <;> simp_all [PanelRequest.accepts]
    simp [PanelRequest.handler, operation, addMember, eligibleAdd, leader, found, ineligible, bind,
      Except.bind]
  | remove => simp [PanelRequest.accepts, operation] at unaccepted

theorem handler_writes (present : actor.id ∈ db.members.map (·.id))
    (accepted : request.accepts target = true) :
    (request.handler now ⟨db, mirrorTasks⟩).db = (request.write actor.id now).step server db := by
  cases operation : request.operation with
  | add =>
    have eligible : ¬(target.banned = true ∨ target.standing ≠ .goodStanding) := by
      cases banned : target.banned <;> simp_all [PanelRequest.accepts]
    have passed : eligibleAdd db request.principal request.groupId request.memberId =
        .ok (actor, target) := by
      simp [eligibleAdd, leader, found, eligible, bind, Except.bind]
    rw [PanelRequest.handler, operation, PanelRequest.write, operation, Write.step,
      if_pos ⟨memberRowById_mem found, present⟩]
    exact addMember_db passed
  | remove =>
    have passed : eligibleRemove db request.principal request.groupId request.memberId =
        .ok (actor, target) := by
      simp [eligibleRemove, leader, found, bind, Except.bind]
    rw [PanelRequest.handler, operation, PanelRequest.write, operation, Write.step]
    exact removeMember_db passed

end

/-- Uninterrupted, the statements leave the tables as the handler does in one transaction. -/
theorem uninterrupted_request {s : Traffic} {i : Nat} (waiting : s.handlings i = .waiting)
    (request : PanelRequest) (now : Time) (mirrorTasks : List Mirror) :
    (trafficRun server s (request.statements i now)).db =
      (request.handler now ⟨s.db, mirrorTasks⟩).db := by
  cases resolved : resolveMember s.db request.principal with
  | error fault =>
    have refusal : requireLeader s.db request.principal request.groupId = .error fault := by
      simp [requireLeader, resolved, bind, Except.bind]
    rw [handler_refused refusal]
    simp [trafficRun, PanelRequest.statements, Traffic.step, waiting, resolved]
  | ok actor =>
    cases leads : s.db.isLeaderOf actor.id request.groupId with
    | false =>
      have refusal : requireLeader s.db request.principal request.groupId =
          .error unknownGroup := by
        simp [requireLeader, resolved, leads, ensure, bind, Except.bind]
      rw [handler_refused refusal]
      simp [trafficRun, PanelRequest.statements, Traffic.step, waiting, resolved, leads]
    | true =>
      have leader : requireLeader s.db request.principal request.groupId = .ok actor := by
        simp [requireLeader, resolved, leads, ensure, bind, Except.bind, pure, Except.pure]
      cases found : s.db.memberRowById request.memberId with
      | none =>
        rw [handler_unfound leader found]
        simp [trafficRun, PanelRequest.statements, Traffic.step, waiting, resolved, leads, found]
      | some target =>
        cases accepted : request.accepts target with
        | false =>
          rw [handler_ineligible leader found accepted]
          simp [trafficRun, PanelRequest.statements, Traffic.step, waiting, resolved, leads,
            found, accepted]
        | true =>
          have writes : (request.handler now ⟨s.db, mirrorTasks⟩).db =
              (request.write actor.id now).step server s.db :=
            handler_writes leader found (resolveMember_mem resolved) accepted
          rw [writes]
          simp [trafficRun, PanelRequest.statements, Traffic.step, waiting, resolved, leads,
            found, accepted]

end

/-! ### A leader who steps down between the check and the claim -/

def steeringLeader : Rosadmin.Member := { leaderRecord with discordId := some 42 }

/-- The records name a leader of a body, and a member who is in no body. -/
def steeringStart : Traffic :=
  ⟨runPulls textServer [⟨[steeringLeader, plainRecord 8 (str "kris@pdx.org")], false⟩] .empty,
    fun _ => .waiting⟩

/-- The next records name the same member as no leader. -/
def stepsDown : TrafficEvent :=
  .pull ⟨[{ steeringLeader with
    isChapterLeader := false, leads := [], leadsNodup := List.nodup_nil },
    plainRecord 8 (str "kris@pdx.org")], false⟩

def steeringAdd : PanelRequest := ⟨.add, ⟨str "42"⟩, 1, 2⟩

def steeringReads : List TrafficEvent := [.resolve 0 steeringAdd, .lead 0, .target 0]

theorem former_leader_adds :
    (trafficRun textServer steeringStart (steeringReads ++ [stepsDown])).db.isLeaderOf 0 1 = false ∧
    (trafficRun textServer steeringStart (steeringReads ++ [stepsDown])).db.hasMemberRow 1 2 =
      false ∧
    (trafficRun textServer steeringStart (steeringReads ++ [stepsDown, .claim 0 9])).db.hasMemberRow
      1 2 = true := by
  decide +kernel

/-- With nothing in between, the tables are left as the handler leaves them. -/
theorem panel_writes_authorized_steering :
    (trafficRun textServer steeringStart (steeringReads ++ [.claim 0 9])).db =
        (steeringAdd.handler 9 ⟨steeringStart.db, []⟩).db ∧
      ∃ request actorId,
        Found textServer steeringStart steeringReads (.resolve 0 request)
          (Acts request.principal actorId) ∧
        Found textServer steeringStart steeringReads (.lead 0)
          (fun db => db.isLeaderOf actorId request.groupId = true) := by
  have wrote : ((trafficRun textServer steeringStart steeringReads).step textServer
    (.claim 0 9)).db ≠ (trafficRun textServer steeringStart steeringReads).db := by decide +kernel
  obtain ⟨request, actorId, -, resolved, led, -⟩ :=
    panel_writes_authorized (fun _ => rfl) steeringReads 0 9 wrote
  exact ⟨uninterrupted_request rfl steeringAdd 9 [], request, actorId, resolved, led⟩

end Rosadmin.Web
