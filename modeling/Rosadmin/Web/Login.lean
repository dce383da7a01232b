import Rosadmin.Web.Auth

/-!
# What stands behind a session

A callback comes to its session through three steps: it verifies what the
socket answered, claims the assertion's `jti`, and passes the grant rule. A
session is traced back to the three, each with the state it found.
-/

namespace Rosadmin.Auth
open Foundation Sso

inductive SocketAnswer where
  | unreachable
  | token (token : Str)

section
variable (paseto : Paseto) (keys : SigningKeys)

def ssoAnswer : SocketAnswer → SsoAnswer
  | .unreachable => .unreachable
  | .token token => match tokenClaims paseto keys token with
    | .ok claims => .token claims
    | .error (.rejected reason) => .rejected reason
    | .error .raised => .raised

inductive LoginEvent where
  | tick (now : Time)
  | arrive (i : Nat) (request : CallbackRequest) (answer : SocketAnswer)
  | claim (i : Nat)
  | grant (i : Nat) (db : Database)
  | prune

def LoginEvent.event : LoginEvent → Event
  | .tick now => .tick now
  | .arrive i request answer => .verify i request (ssoAnswer paseto keys answer)
  | .claim i => .claim i
  | .grant i db => .grant i db
  | .prune => .prune

variable (fromisoformat : Str → Option Timestamp) (settings : SsoSettings)

def loginRun (start : State) (events : List LoginEvent) : State :=
  (events.map (LoginEvent.event paseto keys)).foldl (step fromisoformat settings) start

/-- The callback carried the state of its cookie, and a token that is signed and says what the
assertion says. -/
structure Presented (request : CallbackRequest) (answer : SocketAnswer) (now : Time)
    (a : VerifiedAssertion) : Prop where
  state : ∃ sent, request.state = some sent ∧ sent ≠ [] ∧ request.cookieState = some sent
  token : ∃ token claims, answer = .token token ∧ Signed paseto keys token claims ∧
    Attested fromisoformat settings claims now a

/-- The grant rule, and the records row behind it. -/
structure Admitted (db : Database) (a : VerifiedAssertion) (principal : Principal) : Prop where
  standing : a.standing = .member
  principal : principal.discordId = a.discordId
  leader : ∃ discordId, intOfStr a.discordId = some discordId ∧ ∃ row ∈ db.members,
    row.discordUserId = some discordId ∧
    db.banned row.id = false ∧ row.leadershipAssessment = .leader

theorem callbackVerify_ok {request : CallbackRequest} {answer : SocketAnswer} {now : Time}
    {a : VerifiedAssertion}
    (passed : callbackVerify fromisoformat settings request
      (ssoAnswer paseto keys answer) now = .ok a) :
    Presented paseto keys fromisoformat settings request answer now a := by
  have whole := passed
  obtain ⟨state, -⟩ := ensure_bind_ok.mp passed
  obtain ⟨sent, carried, matched⟩ := (Option.any_eq_true _ _).mp state
  have matched : sent ≠ [] ∧ request.cookieState = some sent := by simpa using matched
  refine ⟨⟨sent, carried, matched.1, matched.2⟩, ?_⟩
  obtain ⟨claims, answered, attested⟩ := callbackVerify_claims fromisoformat settings whole
  cases answer with
  | unreachable => cases answered
  | token token =>
    cases verified : tokenClaims paseto keys token with
    | error fault =>
      rw [ssoAnswer, verified] at answered
      cases fault <;> cases answered
    | ok signed =>
      rw [ssoAnswer, verified] at answered
      cases answered
      exact ⟨token, claims, rfl, tokenClaims_ok paseto verified, attested⟩

theorem callbackGrant_ok {db : Database} {a : VerifiedAssertion} {principal : Principal}
    (granted : callbackGrant settings a db = .ok principal) : Admitted db a principal := by
  obtain ⟨standing, granted⟩ := ensure_bind_ok.mp granted
  rw [Bool.and_eq_true, decide_eq_true_iff] at standing
  cases read : intOfStr a.discordId with
  | none =>
    simp only [read] at granted
    cases granted
  | some discordId =>
    simp only [read] at granted
    cases found : db.members.find? (fun m => m.discordUserId = some discordId) with
    | none =>
      simp only [Database.gateLookup, found] at granted
      cases granted
    | some row =>
      simp only [Database.gateLookup, found, Option.map_some] at granted
      obtain ⟨unbanned, granted⟩ := ensure_bind_ok.mp granted
      obtain ⟨leader, granted⟩ := ensure_bind_ok.mp granted
      cases pure_ok.mp granted
      have mine : row.discordUserId = some discordId := by simpa using List.find?_some found
      refine ⟨standing.1, rfl, discordId, read, row, List.mem_of_find?_eq_some found, mine, ?_,
        of_decide_eq_true leader⟩
      simpa using unbanned

theorem claim_listed (jti : Str) (expiresAt : Time) (table : List JtiReplayRow) :
    jti ∈ (claim jti expiresAt table).2.map (·.jti) := by
  rw [claim]
  split
  · assumption
  · simp

/-! ### The steps behind a stage -/

variable (start : State) (events : List LoginEvent)

def Arrived (i : Nat) (a : VerifiedAssertion) : Prop :=
  ∃ done request answer rest, events = done ++ .arrive i request answer :: rest ∧
    Presented paseto keys fromisoformat settings request answer
      (loginRun paseto keys fromisoformat settings start done).now a

/-- The `jti` had not been claimed when the callback claimed it. -/
def Claimed (i : Nat) (a : VerifiedAssertion) : Prop :=
  ∃ done rest, events = done ++ .claim i :: rest ∧
    (loginRun paseto keys fromisoformat settings start done).callbacks i = .verified a ∧
    a.jti ∉ (loginRun paseto keys fromisoformat settings start done).jtiReplay.map (·.jti)

def Granted (i : Nat) (a : VerifiedAssertion) (principal : Principal) : Prop :=
  ∃ done db rest, events = done ++ .grant i db :: rest ∧
    (loginRun paseto keys fromisoformat settings start done).callbacks i = .claimed a ∧
      Admitted db a principal

/-- What must have happened for a callback to be where it is. -/
def Backed (i : Nat) : Stage → Prop
  | .waiting | .exited _ => True
  | .verified a => Arrived paseto keys fromisoformat settings start events i a
  | .claimed a => Arrived paseto keys fromisoformat settings start events i a ∧
      Claimed paseto keys fromisoformat settings start events i a
  | .session a principal => Arrived paseto keys fromisoformat settings start events i a ∧
      Claimed paseto keys fromisoformat settings start events i a ∧
      Granted paseto keys fromisoformat settings start events i a principal

variable {paseto keys fromisoformat settings start events}

theorem loginRun_append (more : List LoginEvent) :
    loginRun paseto keys fromisoformat settings start (events ++ more) =
    loginRun paseto keys fromisoformat settings
      (loginRun paseto keys fromisoformat settings start events) more := by
  rw [loginRun, List.map_append, List.foldl_append]
  rfl

theorem Arrived.later {i : Nat} {a : VerifiedAssertion} (more : List LoginEvent)
    (arrived : Arrived paseto keys fromisoformat settings start events i a) :
    Arrived paseto keys fromisoformat settings start (events ++ more) i a := by
  obtain ⟨done, request, answer, rest, rfl, presented⟩ := arrived
  exact ⟨done, request, answer, rest ++ more, by simp, presented⟩

theorem Claimed.later {i : Nat} {a : VerifiedAssertion} (more : List LoginEvent)
    (claimed : Claimed paseto keys fromisoformat settings start events i a) :
    Claimed paseto keys fromisoformat settings start (events ++ more) i a := by
  obtain ⟨done, rest, rfl, found⟩ := claimed
  exact ⟨done, rest ++ more, by simp, found⟩

theorem Granted.later {i : Nat} {a : VerifiedAssertion} {principal : Principal}
    (more : List LoginEvent)
    (granted : Granted paseto keys fromisoformat settings start events i a principal) :
    Granted paseto keys fromisoformat settings start (events ++ more) i a principal := by
  obtain ⟨done, db, rest, rfl, found⟩ := granted
  exact ⟨done, db, rest ++ more, by simp, found⟩

theorem Backed.later {i : Nat} {stage : Stage} (more : List LoginEvent)
    (backed : Backed paseto keys fromisoformat settings start events i stage) :
    Backed paseto keys fromisoformat settings start (events ++ more) i stage := by
  cases stage with
  | waiting => trivial
  | exited exit => trivial
  | verified a => exact Arrived.later more backed
  | claimed a => exact ⟨backed.1.later more, backed.2.later more⟩
  | session a principal => exact ⟨backed.1.later more, backed.2.1.later more, backed.2.2.later more⟩

section
variable (backed : ∀ i, Backed paseto keys fromisoformat settings start events i
  ((loginRun paseto keys fromisoformat settings start events).callbacks i))
include backed

theorem backed_stays (event : LoginEvent) (i : Nat) :
    Backed paseto keys fromisoformat settings start (events ++ [event]) i
    ((loginRun paseto keys fromisoformat settings start events).callbacks i) :=
      (backed i).later [event]

theorem backed_put {event : LoginEvent} {j : Nat} {stage : Stage} {t : State}
    (put : t.callbacks = ((loginRun paseto keys fromisoformat settings start events).put j
      stage).callbacks)
    (here : Backed paseto keys fromisoformat settings start (events ++ [event]) j stage) (i : Nat) :
    Backed paseto keys fromisoformat settings start (events ++ [event]) i (t.callbacks i) := by
  rw [put, put_callbacks]
  split
  · rename_i mine
    exact mine ▸ here
  · exact backed_stays backed event i

theorem backed_arrive (j : Nat) (request : CallbackRequest) (answer : SocketAnswer) (i : Nat) :
    Backed paseto keys fromisoformat settings start (events ++ [.arrive j request answer]) i
      ((step fromisoformat settings (loginRun paseto keys fromisoformat settings start events)
        (.verify j request (ssoAnswer paseto keys answer))).callbacks i) := by
  simp only [step]
  split
  · split
    · rename_i a passed
      refine backed_put backed rfl ?_ i
      exact ⟨events, request, answer, [], rfl,
        callbackVerify_ok paseto keys fromisoformat settings passed⟩
    · refine backed_put backed rfl ?_ i
      trivial
  · exact backed_stays backed _ i

theorem backed_claim (j : Nat) (i : Nat) :
    Backed paseto keys fromisoformat settings start (events ++ [.claim j]) i
      ((step fromisoformat settings (loginRun paseto keys fromisoformat settings start events)
        (.claim j)).callbacks i) := by
  have before := backed j
  simp only [step]
  split
  · rename_i a awaiting
    rw [awaiting] at before
    cases won : (claim a.jti a.exp
      (loginRun paseto keys fromisoformat settings start events).jtiReplay).1 with
    | true =>
      refine backed_put backed rfl ?_ i
      refine ⟨Arrived.later [.claim j] before, events, [], rfl, awaiting, fun listed => ?_⟩
      obtain ⟨row, there, same⟩ := List.mem_map.mp listed
      exact (claim_fresh won).1 row there same
    | false =>
      refine backed_put backed rfl ?_ i
      trivial
  · exact backed_stays backed _ i

theorem backed_grant (j : Nat) (db : Database) (i : Nat) :
    Backed paseto keys fromisoformat settings start (events ++ [.grant j db]) i
      ((step fromisoformat settings (loginRun paseto keys fromisoformat settings start events)
        (.grant j db)).callbacks i) := by
  have before := backed j
  simp only [step]
  split
  · rename_i a held
    rw [held] at before
    split
    · rename_i principal granted
      refine backed_put backed rfl ?_ i
      exact ⟨before.1.later _, before.2.later _, events, db, [], rfl, held,
        callbackGrant_ok settings granted⟩
    · refine backed_put backed rfl ?_ i
      trivial
  · exact backed_stays backed _ i

/-- One event moves one callback at most, and that one by a step it has behind it then. -/
theorem backed_step (event : LoginEvent) (i : Nat) :
    Backed paseto keys fromisoformat settings start (events ++ [event]) i
      ((loginRun paseto keys fromisoformat settings start (events ++ [event])).callbacks i) := by
  have stays := backed_stays backed event i
  rw [loginRun_append]
  show Backed paseto keys fromisoformat settings start (events ++ [event]) i
    ((step fromisoformat settings _ (event.event paseto keys)).callbacks i)
  cases event with
  | tick now =>
    simp only [LoginEvent.event, step]
    split <;> exact stays
  | prune => exact stays
  | arrive j request answer => exact backed_arrive backed j request answer i
  | claim j => exact backed_claim backed j i
  | grant j db => exact backed_grant backed j db i

end

theorem backed_run (initial : ∀ i, start.callbacks i = .waiting) (events : List LoginEvent)
    (i : Nat) : Backed paseto keys fromisoformat settings start events i
      ((loginRun paseto keys fromisoformat settings start events).callbacks i) := by
  induction events using List.reverseRecOn generalizing i with
  | nil =>
    show Backed paseto keys fromisoformat settings start [] i (start.callbacks i)
    rw [initial i]
    trivial
  | append_singleton events event ih => exact backed_step ih event i

/-- A session has behind it a token that was signed and said what it had to, a claim of its `jti`,
and a leader's row; and each `jti` that a callback comes to claim is claimed from then on, whatever
comes of the callback. -/
theorem session_sound (now : Time) (jtiReplay : List JtiReplayRow)
    (events : List LoginEvent) {i : Nat} {a : VerifiedAssertion} {principal : Principal}
    (reached : (loginRun paseto keys fromisoformat settings
      (.initial now jtiReplay) events).callbacks i = .session a principal) :
    Arrived paseto keys fromisoformat settings (.initial now jtiReplay) events i a ∧
      Claimed paseto keys fromisoformat settings (.initial now jtiReplay) events i a ∧
      Granted paseto keys fromisoformat settings (.initial now jtiReplay) events i a principal ∧
      ∀ done rest j b, events = done ++ .claim j :: rest →
        (loginRun paseto keys fromisoformat settings (.initial now jtiReplay) done).callbacks j =
          .verified b →
        b.jti ∈ (loginRun paseto keys fromisoformat settings (.initial now jtiReplay)
          (done ++ [.claim j])).jtiReplay.map
          (·.jti) := by
  have backed : Backed paseto keys fromisoformat settings (.initial now jtiReplay) events i _ :=
    backed_run (fun _ => rfl) events i
  rw [reached] at backed
  refine ⟨backed.1, backed.2.1, backed.2.2, fun done rest j b _ awaiting => ?_⟩
  have table : (loginRun paseto keys fromisoformat settings (.initial now jtiReplay)
      (done ++ [.claim j])).jtiReplay =
        (claim b.jti b.exp (loginRun paseto keys fromisoformat settings
          (.initial now jtiReplay) done).jtiReplay).2 := by
    rw [loginRun_append]
    show (step fromisoformat settings _ (.claim j)).jtiReplay = _
    simp only [step, awaiting, put_jtiReplay]
  rw [table]
  exact claim_listed b.jti b.exp _

end

/-! ### A signed token -/

def leaderPayload : Bytes :=
  str "\x7b\"iss\":\"botonio\"," ++ str "\"aud\":\"rosadmin\"," ++ str "\"exp\":\"2026-01-01" ++
    str "T00:05:00+00:00\"," ++ str "\"guild\":\"1000\"," ++ str "\"standing\":\"member\"," ++
    str "\"sub\":\"42\"," ++ str "\"jti\":\"a1\"," ++ str "\"kid\":\"v1\"\x7d"

def leaderSignature : Bytes :=
  [236, 49, 126, 16, 253, 250, 236, 239, 92, 194, 1, 196, 26, 95, 89, 152, 253, 176, 213, 55, 94,
    64, 44, 196, 184, 231,
    171, 52, 212, 10, 25, 8, 111, 173, 41, 91, 52, 33, 235, 149, 246, 129, 48, 156, 220, 133, 194,
      117, 191, 38, 93, 48,
    127, 38, 49, 211, 122, 118, 27, 34, 251, 6, 253, 0]

def leaderBody : Str :=
  str "eyJpc3MiOiJib3RvbmlvIiwiYXV" ++ str "kIjoicm9zYWRtaW4iLCJleHAiOi" ++
    str "IyMDI2LTAxLTAxVDAwOjA1OjAwK" ++
    str "zAwOjAwIiwiZ3VpbGQiOiIxMDAw" ++ str "Iiwic3RhbmRpbmciOiJtZW1iZXI" ++
      str "iLCJzdWIiOiI0MiIsImp0aSI6Im" ++
    str "ExIiwia2lkIjoidjEifewxfhD9-" ++ str "uzvXMIBxBpfWZj9sNU3XkAsxLjn" ++
      str "qzTUChkIb60pWzQh65X2gTCc3IX" ++
    str "Cdb8mXTB_JjHTenYbIvsG_QA"

def leaderToken : Str := str "v4.public." ++ leaderBody

def pinnedKey : Bytes :=
  [69, 217, 35, 96, 5, 195, 39, 164, 98, 52, 35, 67, 6, 243, 152, 156, 89, 61, 176, 131, 111, 246,
    121, 216, 183, 62, 42, 7, 45, 185, 163, 205]

/-- What the library makes of the one token that was signed. -/
def leaderPaseto : Paseto where
  urlsafeB64decode := fun text => if text = leaderBody ++
    str "=" then some (leaderPayload ++ leaderSignature) else none
  loads := fun data =>
    if data = leaderPayload then .ok (.obj (leaderClaims ++ [(str "kid", .str (str "v1"))]))
      else .error .jsonDecodeError
  isKey := fun key => key.length = 32
  decode := fun key token => if key = pinnedKey ∧ token = leaderToken then some leaderPayload
    else none

def leaderKeys : SigningKeys := ⟨⟨[(str "v1", pinnedKey)], List.nodup_singleton _⟩⟩

def leaderLogin : List LoginEvent :=
  [.arrive 0 ⟨some (str "s"), some (str "c"), some (str "s")⟩ (.token leaderToken), .claim 0,
    .grant 0 leaderDatabase]

theorem session_sound_leader :
    Arrived leaderPaseto leaderKeys instantOf homeSettings (.initial 0 []) leaderLogin 0
      ⟨str "42", str "1000", .member, str "a1", 300000000⟩ := by
  have reached : (loginRun leaderPaseto leaderKeys instantOf homeSettings
    (.initial 0 []) leaderLogin).callbacks 0 =
      .session ⟨str "42", str "1000", .member, str "a1", 300000000⟩ ⟨str "42"⟩ := by decide +kernel
  exact (session_sound 0 [] leaderLogin reached).1

end Rosadmin.Auth
