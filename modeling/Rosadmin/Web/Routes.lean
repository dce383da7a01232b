import Rosadmin.Web.Records

/-!
# The leader-facing resource routes

A request passes the origin guard, the rate limit of its endpoint, the wiring
and the session, in that order, and only then reaches its handler. A banned
principal gets nothing from a handler that resolves it; the search does not.
-/

namespace Rosadmin.Web
open Foundation

inductive Resource where
  | me
  | myGroups
  | searchMembers (email : Str)
  | addMember (groupId memberId : UUID)
  | removeMember (groupId memberId : UUID)

namespace Resource

/-- The endpoints that carry `rate_limited`, by their route template. -/
def limitedPattern : Resource → Option Str
  | me | myGroups => none
  | searchMembers _ => some (str "/api/members/search")
  | addMember _ _ => some (str "/api/groups/\x7bgroup_id\x7d/members")
  | removeMember _ _ => some (str "/api/groups/\x7bgroup_id\x7d/members/\x7bmember_id\x7d")

def mutating : Resource → Bool
  | me | myGroups => false
  | searchMembers _ | addMember _ _ | removeMember _ _ => true

end Resource

structure Request where
  origin : Option Str
  /-- The header the proxy sets, and the peer of the socket. -/
  realClientIp : Option Str
  peerHost : Option Str
  sessionCookie : Option Str
  resource : Resource

structure App where
  allowedOrigin : Option Str
  directory : Bool
  groupModify : Bool
  locale : Locale
  sha256 : Str → Str

structure Service extends Panel where
  sessions : List SessionsRow
  /-- `rate_limit_counters`, by bucket and window. -/
  rateLimitCounters : Str → Time → Nat

def authRateLimit : Nat := 20

section
variable (app : App) (now : Time) (request : Request)

def foreignOrigin : Bool :=
  request.resource.mutating && app.allowedOrigin.isSome && request.origin.isSome &&
    request.origin != app.allowedOrigin

/-- An empty header falls back to the peer. -/
def clientIp : Option Str :=
  match request.realClientIp with
  | some (c :: rest) => some (c :: rest)
  | _ => request.peerHost

/-- The counter a request is held against: none for an unlimited endpoint, and none without an
address. -/
def bucket : Option Str := do
  let pattern ← request.resource.limitedPattern
  let ip ← clientIp request
  return str "auth:" ++ pattern ++ str ":" ++ ip

/-- `date_trunc('minute', now())` -/
def windowStart : Time := now - now % 60000000

def hit (key : Str) (counters : Str → Time → Nat) : Nat × (Str → Time → Nat) :=
  let count := counters key (windowStart now) + 1
  (count, Function.update counters key (Function.update (counters key) (windowStart now) count))

def rateLimited (s : Service) : Except Fault Unit × Service :=
  match bucket request with
  | none => (.ok (), s)
  | some key =>
    let counted := hit now key s.rateLimitCounters
    (ensure (counted.1 ≤ authRateLimit) (.raise 429 .rateLimited (str "too many requests")),
      { s with rateLimitCounters := counted.2 })

/-- `require_directory` for the reads, `require_group_modify` for the mutations. -/
def wired : Resource → Except Fault Unit
  | .me | .myGroups | .searchMembers _ =>
    ensure app.directory (.raise 501 .readsNotAvailable (str "reads are not yet available"))
  | .addMember _ _ | .removeMember _ _ =>
    ensure app.groupModify (.raise 501 .mutationsNotAvailable
      (str "mutations are not yet available"))

def requireSession (s : Service) : Except Fault Principal × Service :=
  match request.sessionCookie with
  | none => (.error (.raise 401 .notAuthenticated (str "no session")), s)
  | some token =>
    let resolved := resolveSession app.sha256 now token s.sessions
    (match resolved.1 with
      | none => .error (.raise 401 .notAuthenticated (str "session expired or unknown"))
      | some principal => .ok principal,
      { s with sessions := resolved.2 })

/-- What stands before every handler, and the principal it hands on. -/
def passGuards (s : Service) : Except Fault Principal × Service :=
  if foreignOrigin app request
    then (.error (.raise 403 .forbiddenOrigin (str "cross-origin request refused")), s)
  else match rateLimited now request s with
    | (.error fault, s) => (.error fault, s)
    | (.ok (), s) => match wired app request.resource with
      | .error fault => (.error fault, s)
      | .ok () => requireSession app now request s

def answer {α : Type} (respond : α → Response) : Except Fault α → Response
  | .ok a => respond a
  | .error fault => .failed fault

def me (db : Database) (principal : Principal) : Except Fault MeResponse := do
  let displayName ← displayNameFor db principal
  let groups ← summariesFor app.locale db principal
  return ⟨displayName, groups⟩

def serve (principal : Principal) (resource : Resource) (s : Service) : Response × Service :=
  match resource with
  | .me => (answer .me (me app s.db principal), s)
  | .myGroups => (answer .groups (groupsFor app.locale s.db principal), s)
  -- the principal is not used
  | .searchMembers email => (answer .search (search app.locale s.db email), s)
  | .addMember groupId memberId =>
    let added := addMember now principal groupId memberId s.toPanel
    (answer .created added.1, { s with toPanel := added.2 })
  | .removeMember groupId memberId =>
    let removed := removeMember principal groupId memberId s.toPanel
    (answer (fun _ => .noContent) removed.1, { s with toPanel := removed.2 })

def handle (s : Service) : Response × Service :=
  match passGuards app now request s with
  | (.error fault, s) => (.failed fault, s)
  | (.ok principal, s) => serve app now principal request.resource s

def reaches (s : Service) : Bool :=
  !foreignOrigin app request &&
    (bucket request).all (fun key => s.rateLimitCounters key (windowStart now) < authRateLimit) &&
    (match request.resource with
      | .me | .myGroups | .searchMembers _ => app.directory
      | .addMember _ _ | .removeMember _ _ => app.groupModify)

end

def finds (locale : Locale) (db : Database) (email : Str) : Bool :=
  sendable email && (db.memberByEmail locale email).any (fun row =>
    !row.banned && row.standing = .goodStanding)

/-! ### A principal that is banned -/

section
variable {app : App} {now : Time} {request : Request} {s : Service} {principal : Principal}
    {token : Str}

theorem passGuards_panel (app : App) (now : Time) (request : Request) (s : Service) :
    (passGuards app now request s).2.toPanel = s.toPanel := by
  have limited : (rateLimited now request s).2.toPanel = s.toPanel := by
    unfold rateLimited
    split <;> rfl
  unfold passGuards
  split
  · rfl
  split
  · rename_i fault next answered
    rw [answered] at limited
    exact limited
  · rename_i next answered
    rw [answered] at limited
    split
    · exact limited
    · unfold requireSession
      split <;> exact limited

theorem rateLimited_counts (now : Time) (request : Request) (s : Service) :
    (rateLimited now request s).1 =
    if (bucket request).all (fun key => s.rateLimitCounters key (windowStart now) < authRateLimit)
      then .ok ()
    else .error (.raise 429 .rateLimited (str "too many requests")) := by
  unfold rateLimited
  cases bucket request with
  | none => rfl
  | some key =>
    by_cases within : s.rateLimitCounters key (windowStart now) < authRateLimit
    · have one : s.rateLimitCounters key (windowStart now) + 1 ≤ authRateLimit := by omega
      simp [hit, ensure, within, one]
    · have one : ¬s.rateLimitCounters key (windowStart now) + 1 ≤ authRateLimit := by omega
      simp [hit, ensure, within, one]

theorem rateLimited_sessions (now : Time) (request : Request) (s : Service) :
    (rateLimited now request s).2.sessions = s.sessions := by
  unfold rateLimited
  split <;> rfl

theorem requireSession_live (carried : request.sessionCookie = some token)
    (live : (resolveSession app.sha256 now token s.sessions).1 = some principal) :
    (requireSession app now request s).1 = .ok principal := by
  simp only [requireSession, carried, live]

theorem passGuards_live (carried : request.sessionCookie = some token)
    (live : (resolveSession app.sha256 now token s.sessions).1 = some principal) :
    if reaches app now request s then (passGuards app now request s).1 = .ok principal
    else ∃ fault, (passGuards app now request s).1 = .error fault := by
  have counts := rateLimited_counts now request s
  have sessions := rateLimited_sessions now request s
  unfold passGuards
  by_cases foreign : foreignOrigin app request = true
  · simp [reaches, foreign]
  rw [if_neg foreign]
  generalize rateLimited now request s = limited at *
  obtain ⟨verdict, next⟩ := limited
  dsimp only at counts sessions
  rw [← sessions] at live
  have resolved := requireSession_live carried live
  by_cases within : (bucket request).all
    (fun key => s.rateLimitCounters key (windowStart now) < authRateLimit) = true
  · rw [if_pos within] at counts
    subst counts
    cases resource : request.resource with
    | me | myGroups | searchMembers =>
      cases wiring : app.directory <;>
        simp [reaches, foreign, within, resource, wired, wiring, ensure, resolved]
    | addMember | removeMember =>
      cases wiring : app.groupModify <;>
        simp [reaches, foreign, within, resource, wired, wiring, ensure, resolved]
  · rw [if_neg within] at counts
    subst counts
    have unreached : reaches app now request s = false := by
      simp only [reaches, eq_false_of_ne_true within, Bool.and_false, Bool.false_and]
    simp [unreached]

theorem resolveMember_banned {db : Database} (valid : db.Valid) {discordId : Int} {m : MembersRow}
    (mine : intOfStr principal.discordId = some discordId) (member : m ∈ db.members)
    (same : m.discordUserId = some discordId) (banned : db.banned m.id = true) :
    resolveMember db principal = .error unknownPrincipal := by
  simp only [resolveMember, mine, Database.memberByDiscord_of_mem valid member same,
    Database.memberRow, banned, if_true]

/-- Without a member behind the principal every handler but the search fails and changes nothing. -/
theorem serve_unresolved (app : App) (now : Time) {fault : Fault}
    (unresolved : resolveMember s.db principal = .error fault)
    (other : ∀ email, request.resource ≠ .searchMembers email) :
    (serve app now principal request.resource s).1.carriesRecord = false ∧
      (serve app now principal request.resource s).2.toPanel = s.toPanel := by
  cases resource : request.resource with
  | me => simp [serve, me, displayNameFor, unresolved, answer, Response.carriesRecord, bind,
      Except.bind]
  | myGroups => simp [serve, groupsFor, unresolved, answer, Response.carriesRecord, bind,
      Except.bind]
  | searchMembers email => exact absurd resource (other email)
  | addMember groupId memberId =>
    simp [serve, addMember, eligibleAdd, requireLeader, unresolved, answer, Response.carriesRecord,
      bind, Except.bind]
  | removeMember groupId memberId =>
    simp [serve, removeMember, eligibleRemove, requireLeader, unresolved, answer,
      Response.carriesRecord, bind, Except.bind]

theorem search_carries (email : Str) (db : Database) :
    (answer .search (search app.locale db email)).carriesRecord = finds app.locale db email := by
  unfold search finds
  split
  · rename_i sent
    cases db.memberByEmail app.locale email with
    | none => simp [answer, Response.carriesRecord]
    | some row =>
      cases banned : row.banned with
      | true => simp [answer, Response.carriesRecord, banned, sent]
      | false => cases standing : row.standing <;>
          simp [answer, Response.carriesRecord, banned, sent, standing]
  · rename_i unsent
    simp [answer, Response.carriesRecord, unsent]

theorem handle_admitted (admitted : (passGuards app now request s).1 = .ok principal) :
    handle app now request s = serve app now principal request.resource
      (passGuards app now request s).2 := by
  unfold handle
  generalize passGuards app now request s = entry at *
  obtain ⟨verdict, next⟩ := entry
  subst admitted
  rfl

theorem handle_refused {fault : Fault} (refused : (passGuards app now request s).1 = .error fault) :
    handle app now request s = (.failed fault, (passGuards app now request s).2) := by
  unfold handle
  generalize passGuards app now request s = entry at *
  obtain ⟨verdict, next⟩ := entry
  subst refused
  rfl

/-- A session whose principal is banned is told of no member, changes no record and calls no mirror,
exactly unless it searches for an unbanned member in good standing. -/
theorem banned_session_inert_iff (valid : s.db.Valid) (carried : request.sessionCookie = some token)
    (live : (resolveSession app.sha256 now token s.sessions).1 = some principal)
    (banned : ∃ m ∈ s.db.members, ∃ discordId, m.discordUserId = some discordId ∧
      intOfStr principal.discordId = some discordId ∧ s.db.banned m.id = true) :
    let served := handle app now request s
    (served.1.carriesRecord = false ∧ served.2.db = s.db ∧ served.2.mirrorTasks = s.mirrorTasks) ↔
      ¬∃ email, request.resource = .searchMembers email ∧ reaches app now request s = true ∧
        finds app.locale s.db email = true := by
  intro served
  obtain ⟨m, member, discordId, same, mine, ban⟩ := banned
  have panel := passGuards_panel app now request s
  have admitted := passGuards_live carried live
  by_cases reached : reaches app now request s = true
  · rw [if_pos reached] at admitted
    have ran : served = serve app now principal request.resource (passGuards app now request s).2 :=
      handle_admitted admitted
    rw [ran]
    generalize (passGuards app now request s).2 = next at *
    have db : next.db = s.db := congrArg Panel.db panel
    have mirrors : next.mirrorTasks = s.mirrorTasks := congrArg Panel.mirrorTasks panel
    by_cases searches : ∃ email, request.resource = .searchMembers email
    · obtain ⟨email, resource⟩ := searches
      have carries : (serve app now principal request.resource next).1.carriesRecord =
          finds app.locale s.db email := by
        rw [resource, ← db]
        exact search_carries email next.db
      have unchanged : (serve app now principal request.resource next).2 = next :=
        by rw [resource]; rfl
      rw [carries, unchanged]
      simp [db, mirrors, resource, reached]
    · have unresolved : resolveMember next.db principal = .error unknownPrincipal :=
        resolveMember_banned (db ▸ valid) mine (db ▸ member) same (db ▸ ban)
      obtain ⟨silent, kept⟩ := serve_unresolved app now unresolved (fun email resource =>
        searches ⟨email, resource⟩)
      refine iff_of_true ⟨silent, ?_, ?_⟩ ?_
      · exact (congrArg Panel.db kept).trans db
      · exact (congrArg Panel.mirrorTasks kept).trans mirrors
      · rintro ⟨email, resource, -⟩
        exact searches ⟨email, resource⟩
  · rw [if_neg reached] at admitted
    obtain ⟨fault, refused⟩ := admitted
    have ran : served = (.failed fault, (passGuards app now request s).2) := handle_refused refused
    rw [ran]
    refine iff_of_true ⟨rfl, congrArg Panel.db panel, congrArg Panel.mirrorTasks panel⟩ ?_
    rintro ⟨-, -, through, -⟩
    exact reached through

end

/-! ### A banned leader who searches -/

def flowery : MembersRow := { plainMember 0 (str "flowery@pdx.org") with discordUserId := some 7 }

def bannedLeader : Service where
  db := { Database.empty with
    members := [flowery, plainMember 1 (str "kris@pdx.org")]
    memberBans := [⟨0, 0, str "ban"⟩]
    nextId := 2 }
  mirrorTasks := []
  sessions := [⟨str "token", str "7", 0, 0⟩]
  rateLimitCounters := fun _ _ => 0

def recordsApp : App where
  allowedOrigin := none
  directory := true
  groupModify := true
  locale := ⟨lower, fun a b => a ≤ b⟩
  sha256 := id

def asking (resource : Resource) : Request := ⟨none, none, none, some (str "token"), resource⟩

theorem bannedLeader_valid : bannedLeader.db.Valid := by
  constructor <;> constructor <;> decide +kernel

theorem banned_session_inert_groups :
    let served := handle recordsApp 1 (asking .myGroups) bannedLeader
    (served.1.carriesRecord = false ∧ served.2.db = bannedLeader.db ∧
        served.2.mirrorTasks = bannedLeader.mirrorTasks) ↔
      ¬∃ email, (asking .myGroups).resource = .searchMembers email ∧
        reaches recordsApp 1 (asking .myGroups) bannedLeader = true ∧
        finds recordsApp.locale bannedLeader.db email = true :=
  have live : (resolveSession recordsApp.sha256 1 (str "token") bannedLeader.sessions).1 =
      some ⟨str "7"⟩ := by
    decide +kernel
  banned_session_inert_iff bannedLeader_valid rfl live
    ⟨flowery, by decide +kernel, 7, rfl, by decide +kernel, by decide +kernel⟩

/-- The search hands the banned leader another member's record. -/
theorem banned_session_searches :
    bannedLeader.db.Valid ∧
      (resolveSession recordsApp.sha256 1 (str "token") bannedLeader.sessions).1 = some ⟨str "7"⟩ ∧
      (∃ m ∈ bannedLeader.db.members, ∃ discordId, m.discordUserId = some discordId ∧
        intOfStr (str "7") = some discordId ∧ bannedLeader.db.banned m.id = true) ∧
      (handle recordsApp 1 (asking (.searchMembers (str "kris@pdx.org"))) bannedLeader).1 =
        .search (.hit ⟨1, [], str "kris@pdx.org"⟩) := by
  refine ⟨bannedLeader_valid, by decide +kernel, ?_, by decide +kernel⟩
  exact ⟨flowery, by decide +kernel, 7, rfl, by decide +kernel, by decide +kernel⟩

end Rosadmin.Web
