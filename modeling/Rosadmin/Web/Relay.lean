import Rosadmin.Db.Audit
import Rosadmin.Web.Login
import Rosadmin.Web.SessionStores

/-!
# The login as browsers meet it

A browser begins a login and is given a state, comes back with one, and is sent
away with a session or without. Any number of browsers do so at once, whatever
else is pasted into their address bars. What a browser holds is traced back to
its own begin, callback and assertion.
-/

namespace Rosadmin.Relay
open Foundation Sso Auth

/-! ### The socket -/

/-- What botonio sends back: its status, and its body where that is JSON. -/
structure SocketReply where
  statusCode : Nat
  body : Option Json

/-- Both are text in every reply that botonio makes. -/
structure Begun where
  authorizeUrl : Str
  state : Str

/-- `None` is `SsoUnreachable`, whether no reply came or no good one. -/
def ssoBegin (reply : Option SocketReply) : Option Begun :=
  match reply with
  | some ⟨200, some body⟩ => match body.item (str "authorize_url"), body.item (str "state") with
    | .ok (.str authorizeUrl), .ok (.str state) => some ⟨authorizeUrl, state⟩
    | _, _ => none
  | _ => none

def ssoComplete (reply : Option SocketReply) : SocketAnswer :=
  match reply with
  | some ⟨200, some body⟩ => match body.item (str "assertion") with
    | .ok (.str (c :: rest)) => .token (c :: rest)
    | _ => .unreachable
  | _ => .unreachable

/-! ### Browsers and their visits -/

/-- `_STATE_MAX_AGE` -/
def stateMaxAge : Time := 300 * 1000000

structure StateCookie where
  value : Str
  expires : Time

/-- The cookies of ours that a browser holds, and how many redirects from callbacks it has got. -/
structure Browser where
  session : Option Str
  ssoState : Option StateCookie
  answers : Nat

/-- A cookie past its age is not sent. -/
def Browser.carries (now : Time) (b : Browser) : Option Str :=
  b.ssoState.bind fun cookie => if now < cookie.expires then some cookie.value else none

/-- A begin that a browser was answered. -/
structure Given where
  browser : Nat
  state : Str
  time : Time
  answers : Nat

inductive Reply where
  | pending
  /-- the redirect is on its way -/
  | sent
  | delivered
  /-- a 500, which like a 429 sets and clears no cookie -/
  | crashed
  deriving DecidableEq

/-- A callback as it was asked: by whom, when and with what. -/
structure Asked where
  browser : Nat
  time : Time
  answers : Nat
  request : CallbackRequest

/-- And what has become of it. -/
structure Visit extends Asked where
  checked : Option (SocketAnswer × Time)
  assertion : Option VerifiedAssertion
  token : Option Str
  reply : Reply

/-- How far a logout has come. -/
inductive Leaving where
  | idle
  | resolved (browser : Nat) (token : Str) (principal : Option Principal)
  | revoked (browser : Nat) (token : Option Str)
  | answered (token : Option Str)
  deriving DecidableEq

structure World (σ : Type) where
  auth : State
  visits : Nat → Option Visit
  browsers : Nat → Browser
  leaving : Nat → Leaving
  serving : Serving σ
  audits : List Db.AuditCall
  given : List Given

inductive RelayEvent where
  | tick (now : Time)
  | begin (browser : Nat) (reply : Option SocketReply)
  /-- a browser calls back, with a state and a code that anybody may have written -/
  | callback (i browser : Nat) (code state : Option Str)
  | verify (i : Nat) (reply : Option SocketReply)
  | claim (i : Nat)
  | grant (i : Nat) (db : Database) (token : Str)
  | finish (i : Nat)
  | deliver (i : Nat)
  /-- any request that needs a session -/
  | request (browser : Nat)
  | logout (j browser : Nat)
  | revoke (j : Nat)
  | leave (j : Nat)
  | prune

/-! ### What is audited -/

def stageDetail (stage : Str) : Option (List (Str × Json)) := some [(str "stage", .str stage)]

def loginAudit (principal : Principal) : Db.AuditCall :=
  ⟨str "login", principal.discordId, none, some [(str "method", .str (str "sso"))]⟩

/-- What a callback that has ended audits, and `None` where an exception leaves it. -/
def auditOf (assertion : Option VerifiedAssertion) : Stage → Option Db.AuditCall
  | .exited (.failed stage) => some ⟨str "login_failed", str "anonymous", none, stageDetail stage⟩
  | .exited (.denied stage) => assertion.map fun a =>
      ⟨str "login_denied", a.discordId, none, stageDetail stage⟩
  | .session _ principal => some (loginAudit principal)
  | .exited .unhandled | .waiting | .verified _ | .claimed _ => none

def logoutAudit (principal : Principal) : Db.AuditCall :=
  ⟨str "logout", principal.discordId, none, none⟩

/-- An id that cannot be encoded is no failure of a store, and is not stopped by
`record_best_effort`. -/
def auditable (call : Db.AuditCall) : Bool := (encodeUtf8 call.actor).isSome

/-- What the relay audits. -/
inductive Audited (call : Db.AuditCall) : Prop
  | callback (assertion : Option VerifiedAssertion) (stage : Stage)
    (made : auditOf assertion stage = some call)
  | logout (principal : Principal) (made : call = logoutAudit principal)

theorem Audited.plain {call : Db.AuditCall} (audited : Audited call) :
    call.subject = none ∧ (encodeUtf8 call.action).isSome := by
  suffices known : call.subject = none ∧
      call.action ∈ [str "login_failed", str "login_denied", str "login", str "logout"] by
    have each : ∀ action ∈ [str "login_failed", str "login_denied", str "login", str "logout"],
        (encodeUtf8 action).isSome := by decide
    exact ⟨known.1, each _ known.2⟩
  cases audited with
  | callback assertion stage made =>
    unfold auditOf at made
    split at made
    · cases made
      simp
    · obtain ⟨a, -, rfl⟩ := Option.map_eq_some_iff.mp made
      simp
    · cases made
      simp [loginAudit]
    · cases made
    · cases made
    · cases made
    · cases made
  | logout principal made =>
    subst made
    simp [logoutAudit]

/-- `record_best_effort` raises nothing exactly where the call is auditable, whatever becomes of the
stores. -/
theorem auditable_iff {hmac : Db.Hmac} (hex : Db.Hexadecimal hmac) (key : Octets)
    (fate : Db.SinkFate) (trail : Db.Trail) {call : Db.AuditCall} (audited : Audited call) :
    auditable call = true ↔ (Db.recordBestEffort hmac key fate call trail).1 = .ok () :=
  (Db.recordBestEffort_ok hex fate trail audited.plain.1 audited.plain.2).symm

/-! ### Steps -/

namespace World
variable {σ : Type}

def setVisit (i : Nat) (v : Visit) (w : World σ) : World σ :=
  { w with visits := fun j => if j = i then some v else w.visits j }

def setBrowser (b : Nat) (browser : Browser) (w : World σ) : World σ :=
  { w with browsers := fun c => if c = b then browser else w.browsers c }

def setLeaving (j : Nat) (leaving : Leaving) (w : World σ) : World σ :=
  { w with leaving := fun k => if k = j then leaving else w.leaving k }

def audit (call : Option Db.AuditCall) (w : World σ) : World σ :=
  { w with audits := w.audits ++ call.toList }

/-- A call of the session store, made now. -/
def call (sessions : SessionStore σ) (c : SessionCall) (w : World σ) : World σ :=
  { w with serving := sessions.serve w.serving ⟨w.auth.now, c⟩ }

def resolves (sessions : SessionStore σ) (token : Str) (w : World σ) : Option Principal :=
  (sessions.resolve w.auth.now token w.serving.store).1

section
variable (w : World σ) (i j : Nat) (v : Visit) (browser : Browser) (leaving : Leaving)
    (made : Option Db.AuditCall) (sessions : SessionStore σ) (c : SessionCall)

@[simp] theorem visits_setVisit : (w.setVisit i v).visits j = if j = i then some v
    else w.visits j := rfl
@[simp] theorem auth_setVisit : (w.setVisit i v).auth = w.auth := rfl
@[simp] theorem serving_setVisit : (w.setVisit i v).serving = w.serving := rfl
@[simp] theorem audits_setVisit : (w.setVisit i v).audits = w.audits := rfl

@[simp] theorem browsers_setBrowser : (w.setBrowser i browser).browsers j = if j = i then browser
    else w.browsers j := rfl
@[simp] theorem auth_setBrowser : (w.setBrowser i browser).auth = w.auth := rfl
@[simp] theorem visits_setBrowser : (w.setBrowser i browser).visits = w.visits := rfl
@[simp] theorem leaving_setBrowser : (w.setBrowser i browser).leaving = w.leaving := rfl
@[simp] theorem serving_setBrowser : (w.setBrowser i browser).serving = w.serving := rfl
@[simp] theorem audits_setBrowser : (w.setBrowser i browser).audits = w.audits := rfl

@[simp] theorem leaving_setLeaving : (w.setLeaving i leaving).leaving j = if j = i then leaving
    else w.leaving j := rfl
@[simp] theorem browsers_setLeaving : (w.setLeaving i leaving).browsers = w.browsers := rfl
@[simp] theorem serving_setLeaving : (w.setLeaving i leaving).serving = w.serving := rfl

@[simp] theorem visits_audit : (w.audit made).visits = w.visits := rfl
@[simp] theorem leaving_audit : (w.audit made).leaving = w.leaving := rfl

@[simp] theorem serving_call :
    (w.call sessions c).serving = sessions.serve w.serving ⟨w.auth.now, c⟩ := rfl
@[simp] theorem auth_call : (w.call sessions c).auth = w.auth := rfl
@[simp] theorem visits_call : (w.call sessions c).visits = w.visits := rfl
@[simp] theorem leaving_call : (w.call sessions c).leaving = w.leaving := rfl
@[simp] theorem audits_call : (w.call sessions c).audits = w.audits := rfl

end

end World

section
variable {σ : Type} (paseto : Paseto) (keys : SigningKeys) (fromisoformat : Str → Option Timestamp)
    (settings : SsoSettings) (sessions : SessionStore σ)

/-- Both the begin and its failure are redirects, and only the begin brings a cookie. -/
def begin (b : Nat) (reply : Option SocketReply) (w : World σ) : World σ :=
  match ssoBegin reply with
  | none => w
  | some begun =>
    { w.setBrowser b { w.browsers b with ssoState := some ⟨begun.state, w.auth.now + stateMaxAge⟩ }
      with given := w.given ++ [⟨b, begun.state, w.auth.now, (w.browsers b).answers⟩] }

def callback (i b : Nat) (code state : Option Str) (w : World σ) : World σ :=
  match w.visits i with
  | some _ => w
  | none => w.setVisit i ⟨⟨b, w.auth.now, (w.browsers b).answers,
      ⟨(w.browsers b).carries w.auth.now, code, state⟩⟩, none, none, none, .pending⟩

def verify (i : Nat) (answer : SocketAnswer) (w : World σ) : World σ :=
  match w.visits i, w.auth.callbacks i with
  | some v, .waiting =>
    { w.setVisit i { v with
        checked := some (answer, w.auth.now)
        assertion := (callbackVerify fromisoformat settings v.request
          (ssoAnswer paseto keys answer) w.auth.now).toOption } with
      auth := step fromisoformat settings w.auth
        (.verify i v.request (ssoAnswer paseto keys answer)) }
  | _, _ => w

/-- The token is drawn when the grant is passed. -/
def grant (i : Nat) (db : Database) (token : Str) (w : World σ) : World σ :=
  match w.visits i, w.auth.callbacks i with
  | some v, .claimed assertion =>
    let w' := { w with auth := step fromisoformat settings w.auth (.grant i db) }
    match callbackGrant settings assertion db with
    | .ok principal => (w'.setVisit i { v with token := some token }).call sessions
        (.create token principal)
    | .error _ => w'
  | _, _ => w

/-- The callback is audited, and answered where that raises nothing. -/
def finish (i : Nat) (w : World σ) : World σ :=
  match w.visits i with
  | some v => if v.reply = .pending then
      match auditOf v.assertion (w.auth.callbacks i), w.auth.callbacks i with
      | some made, _ =>
        if auditable made then (w.setVisit i { v with reply := .sent }).audit (some made)
        else w.setVisit i { v with reply := .crashed }
      | none, .exited _ => w.setVisit i { v with reply := .crashed }
      | none, _ => w
    else w
  | none => w

/-- The answer reaches the browser: it clears the state, and brings the session if there is one. -/
def deliver (i : Nat) (w : World σ) : World σ :=
  match w.visits i with
  | some v => if v.reply = .sent then
      let browser := w.browsers v.browser
      (w.setVisit i { v with reply := .delivered }).setBrowser v.browser
        ⟨v.token.or browser.session, none, browser.answers + 1⟩
    else w
  | none => w

/-- `require_session`: every such request sets the idle clock anew. -/
def request (b : Nat) (w : World σ) : World σ :=
  match (w.browsers b).session with
  | some token => w.call sessions (.resolve token)
  | none => w

def logout (j b : Nat) (w : World σ) : World σ :=
  match w.leaving j, (w.browsers b).session with
  | .idle, some token =>
    (w.call sessions (.resolve token)).setLeaving j (.resolved b token (w.resolves sessions token))
  | .idle, none => w.setLeaving j (.revoked b none)
  | _, _ => w

def revoke (j : Nat) (w : World σ) : World σ :=
  match w.leaving j with
  | .resolved b token principal =>
    ((w.call sessions (.revoke token)).setLeaving j (.revoked b (some token))).audit
      (principal.map logoutAudit)
  | _ => w

def leave (j : Nat) (w : World σ) : World σ :=
  match w.leaving j with
  | .revoked b token => (w.setBrowser b { w.browsers b with session := none }).setLeaving j
      (.answered token)
  | _ => w

/-- One event; one that cannot happen changes nothing. -/
def relayStep (w : World σ) : RelayEvent → World σ
  | .tick now => { w with auth := step fromisoformat settings w.auth (.tick now) }
  | .begin b reply => begin b reply w
  | .callback i b code state => callback i b code state w
  | .verify i reply => verify paseto keys fromisoformat settings i (ssoComplete reply) w
  | .claim i => { w with auth := step fromisoformat settings w.auth (.claim i) }
  | .grant i db token => grant fromisoformat settings sessions i db token w
  | .finish i => finish i w
  | .deliver i => deliver i w
  | .request b => request sessions b w
  | .logout j b => logout sessions j b w
  | .revoke j => revoke sessions j w
  | .leave j => leave j w
  | .prune => { w with auth := step fromisoformat settings w.auth .prune }

/-- A service that has just started, and browsers that hold nothing of it. -/
def World.initial (now : Time) (store : σ) : World σ :=
  ⟨.initial now [], fun _ => none, fun _ => ⟨none, none, 0⟩, fun _ => .idle, ⟨store, []⟩, [], []⟩

def relayRun (now : Time) (store : σ) (events : List RelayEvent) : World σ :=
  events.foldl (relayStep paseto keys fromisoformat settings sessions) (.initial now store)

end

/-! ### What each event leaves alone -/

section
variable {σ : Type} {paseto : Paseto} {keys : SigningKeys} {fromisoformat : Str → Option Timestamp}
  {settings : SsoSettings} {sessions : SessionStore σ} (i j b : Nat) (w : World σ)

@[simp] theorem begin_frame (reply : Option SocketReply) :
    (begin b reply w).auth = w.auth ∧ (begin b reply w).visits = w.visits ∧
      (begin b reply w).leaving = w.leaving ∧ (begin b reply w).serving = w.serving ∧
      (begin b reply w).audits = w.audits := by
  unfold begin
  split <;> exact ⟨rfl, rfl, rfl, rfl, rfl⟩

@[simp] theorem callback_frame (code state : Option Str) :
    (callback i b code state w).auth = w.auth ∧ (callback i b code state w).browsers = w.browsers ∧
      (callback i b code state w).leaving = w.leaving ∧
      (callback i b code state w).serving = w.serving ∧
      (callback i b code state w).audits = w.audits := by
  unfold callback
  split <;> exact ⟨rfl, rfl, rfl, rfl, rfl⟩

@[simp] theorem verify_frame (answer : SocketAnswer) :
    (verify paseto keys fromisoformat settings i answer w).browsers = w.browsers ∧
      (verify paseto keys fromisoformat settings i answer w).leaving = w.leaving ∧
      (verify paseto keys fromisoformat settings i answer w).serving = w.serving ∧
      (verify paseto keys fromisoformat settings i answer w).audits = w.audits := by
  unfold verify
  split <;> exact ⟨rfl, rfl, rfl, rfl⟩

@[simp] theorem grant_frame (db : Database) (token : Str) :
    (grant fromisoformat settings sessions i db token w).browsers = w.browsers ∧
      (grant fromisoformat settings sessions i db token w).leaving = w.leaving ∧
      (grant fromisoformat settings sessions i db token w).audits = w.audits := by
  unfold grant
  split
  · dsimp only
    split <;> exact ⟨rfl, rfl, rfl⟩
  · exact ⟨rfl, rfl, rfl⟩

@[simp] theorem finish_frame :
    (finish i w).auth = w.auth ∧ (finish i w).browsers = w.browsers ∧
      (finish i w).leaving = w.leaving ∧ (finish i w).serving = w.serving := by
  unfold finish
  split
  · split
    · split
      · split <;> exact ⟨rfl, rfl, rfl, rfl⟩
      · exact ⟨rfl, rfl, rfl, rfl⟩
      · exact ⟨rfl, rfl, rfl, rfl⟩
    · exact ⟨rfl, rfl, rfl, rfl⟩
  · exact ⟨rfl, rfl, rfl, rfl⟩

@[simp] theorem deliver_frame :
    (deliver i w).auth = w.auth ∧ (deliver i w).leaving = w.leaving ∧
      (deliver i w).serving = w.serving ∧ (deliver i w).audits = w.audits := by
  unfold deliver
  split
  · split <;> exact ⟨rfl, rfl, rfl, rfl⟩
  · exact ⟨rfl, rfl, rfl, rfl⟩

@[simp] theorem request_frame :
    (request sessions b w).auth = w.auth ∧ (request sessions b w).visits = w.visits ∧
      (request sessions b w).browsers = w.browsers ∧ (request sessions b w).leaving = w.leaving ∧
      (request sessions b w).audits = w.audits := by
  unfold request
  split <;> exact ⟨rfl, rfl, rfl, rfl, rfl⟩

@[simp] theorem logout_frame :
    (logout sessions j b w).auth = w.auth ∧ (logout sessions j b w).visits = w.visits ∧
      (logout sessions j b w).browsers = w.browsers ∧
      (logout sessions j b w).audits = w.audits := by
  unfold logout
  split <;> exact ⟨rfl, rfl, rfl, rfl⟩

@[simp] theorem revoke_frame :
    (revoke sessions j w).auth = w.auth ∧ (revoke sessions j w).visits = w.visits ∧
      (revoke sessions j w).browsers = w.browsers := by
  unfold revoke
  split <;> exact ⟨rfl, rfl, rfl⟩

@[simp] theorem leave_frame :
    (leave j w).auth = w.auth ∧ (leave j w).visits = w.visits ∧
      (leave j w).serving = w.serving ∧ (leave j w).audits = w.audits := by
  unfold leave
  split <;> exact ⟨rfl, rfl, rfl, rfl⟩

end

/-! ### What each event adds -/

/-- The token a grant draws. -/
def RelayEvent.drawn : RelayEvent → Option Str
  | .grant _ _ token => some token
  | _ => none

section
variable {σ : Type} {paseto : Paseto} {keys : SigningKeys} {fromisoformat : Str → Option Timestamp}
  {settings : SsoSettings} {sessions : SessionStore σ} {w : World σ}

/-- The store is called once at most, and a token is created only where it is the one drawn. -/
def CallsOnce (sessions : SessionStore σ) (drawn : Option Str) (w w' : World σ) : Prop :=
  w'.serving = w.serving ∨ ∃ c, w'.serving = sessions.serve w.serving ⟨w.auth.now, c⟩ ∧
    w'.auth.now = w.auth.now ∧ ∀ token principal, c = .create token principal → drawn = some token

theorem callsOnce_grant (i : Nat) (db : Database) (token : Str) :
    CallsOnce sessions (some token) w (grant fromisoformat settings sessions i db token w) := by
  unfold grant
  split
  · rename_i v a there claimed
    dsimp only
    split
    · rename_i principal granted
      have now : (step fromisoformat settings w.auth (.grant i db)).now = w.auth.now := by
        simp only [step, claimed, granted, put_now]
      refine Or.inr ⟨.create token principal, ?_, now, fun _ _ same => by cases same; rfl⟩
      rw [← now]
      rfl
    · exact Or.inl rfl
  · exact Or.inl rfl

theorem callsOnce_request (b : Nat) : CallsOnce sessions none w (request sessions b w) := by
  unfold request
  split
  · exact Or.inr ⟨_, rfl, rfl, by rintro _ _ ⟨⟩⟩
  · exact Or.inl rfl

theorem callsOnce_logout (j b : Nat) : CallsOnce sessions none w (logout sessions j b w) := by
  unfold logout
  split
  · exact Or.inr ⟨_, rfl, rfl, by rintro _ _ ⟨⟩⟩
  · exact Or.inl rfl
  · exact Or.inl rfl

theorem callsOnce_revoke (j : Nat) : CallsOnce sessions none w (revoke sessions j w) := by
  unfold revoke
  split
  · exact Or.inr ⟨_, rfl, rfl, by rintro _ _ ⟨⟩⟩
  · exact Or.inl rfl

theorem callsOnce_step (e : RelayEvent) : CallsOnce sessions e.drawn w
    (relayStep paseto keys fromisoformat settings sessions w e) := by
  cases e with
  | grant i db token => exact callsOnce_grant i db token
  | request b => exact callsOnce_request b
  | logout j b => exact callsOnce_logout j b
  | revoke j => exact callsOnce_revoke j
  | tick now => exact Or.inl rfl
  | claim i => exact Or.inl rfl
  | prune => exact Or.inl rfl
  | begin b reply => exact Or.inl (by simp [relayStep])
  | callback i b code state => exact Or.inl (by simp [relayStep])
  | verify i reply => exact Or.inl (by simp [relayStep])
  | finish i => exact Or.inl (by simp [relayStep])
  | deliver i => exact Or.inl (by simp [relayStep])
  | leave j => exact Or.inl (by simp [relayStep])

theorem serve_log (sessions : SessionStore σ) (s : Serving σ) (c : TimedCall) :
    (sessions.serve s c).log = s.log ++ [⟨c, (sessions.perform c s.store).1⟩] := rfl

theorem log_step (e : RelayEvent) : ∃ more,
    (relayStep paseto keys fromisoformat settings sessions w e).serving.log = w.serving.log ++
      more := by
  rcases callsOnce_step e with same | ⟨c, served, -⟩
  · exact ⟨[], by rw [same, List.append_nil]⟩
  · exact ⟨_, by rw [served, serve_log]⟩

theorem finish_audits (i : Nat) (w : World σ) : ∃ more, (finish i w).audits = w.audits ++ more := by
  unfold finish
  split
  · split
    · split
      · split
        · exact ⟨_, rfl⟩
        · exact ⟨[], (List.append_nil _).symm⟩
      · exact ⟨[], (List.append_nil _).symm⟩
      · exact ⟨[], (List.append_nil _).symm⟩
    · exact ⟨[], (List.append_nil _).symm⟩
  · exact ⟨[], (List.append_nil _).symm⟩

theorem revoke_audits (j : Nat) (w : World σ) :
    ∃ more, (revoke sessions j w).audits = w.audits ++ more := by
  unfold revoke
  split
  · exact ⟨_, rfl⟩
  · exact ⟨[], (List.append_nil _).symm⟩

theorem audits_step (e : RelayEvent) :
    ∃ more, (relayStep paseto keys fromisoformat settings sessions w e).audits = w.audits ++
      more := by
  cases e with
  | finish i => exact finish_audits i w
  | revoke j => exact revoke_audits j w
  | tick now => exact ⟨[], by simp [relayStep]⟩
  | claim i => exact ⟨[], by simp [relayStep]⟩
  | prune => exact ⟨[], by simp [relayStep]⟩
  | begin b reply => exact ⟨[], by simp [relayStep]⟩
  | callback i b code state => exact ⟨[], by simp [relayStep]⟩
  | verify i reply => exact ⟨[], by simp [relayStep]⟩
  | grant i db token => exact ⟨[], by simp [relayStep]⟩
  | deliver i => exact ⟨[], by simp [relayStep]⟩
  | request b => exact ⟨[], by simp [relayStep]⟩
  | logout j b => exact ⟨[], by simp [relayStep]⟩
  | leave j => exact ⟨[], by simp [relayStep]⟩

theorem auth_step (e : RelayEvent) :
    (relayStep paseto keys fromisoformat settings sessions w e).auth = w.auth ∨
      ∃ event, (relayStep paseto keys fromisoformat settings sessions w e).auth =
        step fromisoformat settings w.auth event := by
  cases e with
  | tick now => exact Or.inr ⟨.tick now, rfl⟩
  | claim i => exact Or.inr ⟨.claim i, rfl⟩
  | prune => exact Or.inr ⟨.prune, rfl⟩
  | verify i reply =>
    unfold relayStep verify
    dsimp only
    split
    · rename_i v asked waiting
      exact Or.inr ⟨.verify i v.request (ssoAnswer paseto keys (ssoComplete reply)), rfl⟩
    · exact Or.inl rfl
  | grant i db token =>
    unfold relayStep grant
    dsimp only
    split
    · split <;> exact Or.inr ⟨.grant i db, rfl⟩
    · exact Or.inl rfl
  | begin b reply => exact Or.inl (by simp [relayStep])
  | callback i b code state => exact Or.inl (by simp [relayStep])
  | finish i => exact Or.inl (by simp [relayStep])
  | deliver i => exact Or.inl (by simp [relayStep])
  | request b => exact Or.inl (by simp [relayStep])
  | logout j b => exact Or.inl (by simp [relayStep])
  | revoke j => exact Or.inl (by simp [relayStep])
  | leave j => exact Or.inl (by simp [relayStep])

end

end Rosadmin.Relay
