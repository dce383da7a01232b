import Rosadmin.Db.Directory
import Rosadmin.Foundation.Runs
import Rosadmin.Sso
import Rosadmin.Web.Sessions

/-!
# The login callback and its single-use record

A callback awaits twice between its checks: once to claim the assertion's `jti`
and once to look the records up. Its three parts are functions of their own, and
`step` runs them in any order with the clock and with the sweep's pruning.
-/

namespace Rosadmin.Auth
open Foundation Sso

structure JtiReplayRow where
  jti : Str
  expiresAt : Time
  deriving DecidableEq

/-- `INSERT .. ON CONFLICT (jti) DO NOTHING RETURNING jti`: whether a row came back. -/
def claim (jti : Str) (expiresAt : Time) (table : List JtiReplayRow) : Bool × List JtiReplayRow :=
  if jti ∈ table.map (·.jti) then (false, table) else (true, table ++ [⟨jti, expiresAt⟩])

/-- `DELETE FROM jti_replay WHERE expires_at < now()` -/
def pruneExpired (now : Time) (table : List JtiReplayRow) : List JtiReplayRow :=
  table.filter (fun row => ¬row.expiresAt < now)

structure CallbackRequest where
  cookieState : Option Str
  code : Option Str
  state : Option Str

/-- How a callback ends without a session: what it audits, and with it where the browser is sent. -/
inductive LoginExit where
  /-- before an assertion is verified: `login_failed` -/
  | failed (stage : Str)
  /-- after: `login_denied` -/
  | denied (stage : Str)
  /-- an exception no handler takes, and nothing audited -/
  | unhandled
  deriving DecidableEq

/-- What `sso_complete` and the signature check make of the code: no answer, a rejected token, its
claims, or an exception outside the tree of rejections. -/
inductive SsoAnswer where
  | unreachable
  | rejected (reason : AssertionRejected)
  | token (claims : Claims)
  | raised

section
variable (fromisoformat : Str → Option Timestamp) (settings : SsoSettings)

def callbackVerify (request : CallbackRequest) (answer : SsoAnswer) (now : Time) :
    Except LoginExit VerifiedAssertion := do
  ensure (request.state.any (fun s => !s.isEmpty && request.cookieState == some s))
    (.failed (str "rejected"))
  ensure request.code.isSome (.failed (str "rejected"))
  match answer with
  | .unreachable => .error (.failed (str "unreachable"))
  | .rejected _ => .error (.failed (str "rejected"))
  | .raised => .error .unhandled
  | .token claims => match verifyAssertion fromisoformat settings claims now with
    | .ok assertion => .ok assertion
    | .error _ => .error (.failed (str "rejected"))

/-- The grant rule, and whom the session is created for. -/
def callbackGrant (assertion : VerifiedAssertion) (db : Database) : Except LoginExit Principal := do
  ensure (assertion.standing = .member && assertion.guild = settings.guildId)
    (.denied (str "standing"))
  match intOfStr assertion.discordId with
  | none => .error (.denied (str "malformed_id"))
  | some discordId => match db.gateLookup discordId with
    | none => .error (.denied (str "not_in_cache"))
    | some row => do
      ensure (!row.banned) (.denied (str "banned"))
      ensure (row.assessment = .leader) (.denied (str "not_chapter_leader"))
      return ⟨assertion.discordId⟩

inductive Stage where
  | waiting
  | verified (assertion : VerifiedAssertion)
  | claimed (assertion : VerifiedAssertion)
  | session (assertion : VerifiedAssertion) (principal : Principal)
  | exited (exit : LoginExit)
  deriving DecidableEq

structure State where
  now : Time
  jtiReplay : List JtiReplayRow
  callbacks : Nat → Stage

inductive Event where
  | tick (now : Time)
  | verify (i : Nat) (request : CallbackRequest) (answer : SsoAnswer)
  | claim (i : Nat)
  | grant (i : Nat) (db : Database)
  | prune

def State.put (s : State) (i : Nat) (stage : Stage) : State :=
  { s with callbacks := fun j => if j = i then stage else s.callbacks j }

/-- One event; one that cannot happen changes nothing. -/
def step (s : State) : Event → State
  | .tick now => if s.now ≤ now then { s with now } else s
  | .verify i request answer => match s.callbacks i with
    | .waiting => match callbackVerify fromisoformat settings request answer s.now with
      | .ok assertion => s.put i (.verified assertion)
      | .error exit => s.put i (.exited exit)
    | _ => s
  | .claim i => match s.callbacks i with
    | .verified assertion =>
      let (fresh, jtiReplay) := Auth.claim assertion.jti assertion.exp s.jtiReplay
      { s with jtiReplay }.put i (if fresh then .claimed assertion
        else .exited (.denied (str "replay")))
    | _ => s
  | .grant i db => match s.callbacks i with
    | .claimed assertion => match callbackGrant settings assertion db with
      | .ok principal => s.put i (.session assertion principal)
      | .error exit => s.put i (.exited exit)
    | _ => s
  | .prune => { s with jtiReplay := pruneExpired s.now s.jtiReplay }

end

def State.initial (now : Time) (jtiReplay : List JtiReplayRow) : State :=
  ⟨now, jtiReplay, fun _ => .waiting⟩

def Stage.pending : Stage → Option VerifiedAssertion
  | .verified a => some a
  | _ => none

def Stage.holding : Stage → Option VerifiedAssertion
  | .claimed a | .session a _ => some a
  | _ => none

@[simp] theorem put_callbacks (s : State) (i : Nat) (stage : Stage) (j : Nat) :
    (s.put i stage).callbacks j = if j = i then stage else s.callbacks j := rfl

@[simp] theorem put_now (s : State) (i : Nat) (stage : Stage) : (s.put i stage).now = s.now := rfl

@[simp] theorem put_jtiReplay (s : State) (i : Nat) (stage : Stage) :
    (s.put i stage).jtiReplay = s.jtiReplay := rfl

theorem claim_fresh {jti : Str} {expiresAt : Time} {table : List JtiReplayRow}
    (fresh : (claim jti expiresAt table).1 = true) :
    (∀ row ∈ table, row.jti ≠ jti) ∧ (claim jti expiresAt table).2 = table ++
      [⟨jti, expiresAt⟩] := by
  unfold claim at fresh ⊢
  split at fresh
  · cases fresh
  · rename_i absent
    rw [if_neg absent]
    exact ⟨fun row member same => absent (List.mem_map.mpr ⟨row, member, same⟩), rfl⟩

theorem claim_replayed {jti : Str} {expiresAt : Time} {table : List JtiReplayRow}
    (replayed : (claim jti expiresAt table).1 = false) : (claim jti expiresAt table).2 = table := by
  unfold claim at replayed ⊢
  split at replayed
  · rename_i present
    rw [if_pos present]
  · cases replayed

/-- No two callbacks hold one assertion, and the record of a held one is gone only when nobody can
claim it again. -/
structure Safe (s : State) : Prop where
  single : ∀ i j a b, (s.callbacks i).holding = some a → (s.callbacks j).holding = some b →
    a.jti = b.jti → a.exp = b.exp → i = j
  recorded : ∀ i a, (s.callbacks i).holding = some a → ⟨a.jti, a.exp⟩ ∈ s.jtiReplay ∨
    (a.exp < s.now ∧ ∀ j b, (s.callbacks j).pending = some b → b.jti = a.jti → b.exp ≠ a.exp)

/-- A prune leaves the record of every assertion that some callback has verified and not yet
claimed. -/
def PruneSpares (s : State) : Event → Prop
  | .prune => ∀ row ∈ s.jtiReplay, row.expiresAt < s.now →
      ∀ i a, (s.callbacks i).pending = some a → ¬(a.jti = row.jti ∧ a.exp = row.expiresAt)
  | _ => True

theorem initial_safe (now : Time) (jtiReplay : List JtiReplayRow) :
    Safe (State.initial now jtiReplay) :=
  ⟨fun _ _ _ _ h => (nomatch h), fun _ _ h => (nomatch h)⟩

theorem safe_of_fewer {s : State} (safe : Safe s) {i : Nat} {stage : Stage}
    (held : ∀ a, stage.holding = some a → (s.callbacks i).holding = some a)
    (idle : stage.pending = none) :
    Safe (s.put i stage) := by
  have holding : ∀ j a, ((s.put i stage).callbacks j).holding = some a →
      (s.callbacks j).holding = some a := by
    intro j a h
    by_cases here : j = i
    · subst here; simp only [put_callbacks, if_true] at h; exact held a h
    · simpa [here] using h
  have pending : ∀ j a, ((s.put i stage).callbacks j).pending = some a →
      (s.callbacks j).pending = some a := by
    intro j a h
    by_cases here : j = i
    · simp [here, idle] at h
    · simpa [here] using h
  refine ⟨fun j k a b hj hk => safe.single j k a b (holding j a hj) (holding k b hk),
    fun j a hj => ?_⟩
  rcases safe.recorded j a (holding j a hj) with kept | ⟨expired, nobody⟩
  · exact Or.inl kept
  · exact Or.inr ⟨expired, fun k b hk => nobody k b (pending k b hk)⟩

theorem tick_safe {s : State} (safe : Safe s) {now : Time} (forward : s.now ≤ now) :
    Safe { s with now } := by
  refine ⟨safe.single, fun i a held => ?_⟩
  rcases safe.recorded i a held with kept | ⟨expired, nobody⟩
  · exact Or.inl kept
  · exact Or.inr ⟨lt_of_lt_of_le expired forward, nobody⟩

theorem verify_safe {s : State} (safe : Safe s) {i : Nat} {a : VerifiedAssertion}
    (live : s.now < a.exp) : Safe (s.put i (.verified a)) := by
  have holding : ∀ j b, ((s.put i (.verified a)).callbacks j).holding = some b →
      (s.callbacks j).holding = some b := by
    intro j b h
    by_cases here : j = i
    · simp [here, Stage.holding] at h
    · simpa [here] using h
  refine ⟨fun j k b c hj hk => safe.single j k b c (holding j b hj) (holding k c hk),
    fun j b hj => ?_⟩
  rcases safe.recorded j b (holding j b hj) with kept | ⟨expired, nobody⟩
  · exact Or.inl kept
  refine Or.inr ⟨expired, fun k c hk sameJti sameExp => ?_⟩
  by_cases here : k = i
  · -- what is verified now has not expired, so it is not the assertion whose record is gone
    simp only [put_callbacks, if_pos here, Stage.pending, Option.some.injEq] at hk
    subst hk
    exact lt_asymm live (sameExp ▸ expired)
  · exact nobody k c (by simpa [here] using hk) sameJti sameExp

theorem claim_safe {s : State} (safe : Safe s) {i : Nat} {a : VerifiedAssertion}
    (awaiting : s.callbacks i = .verified a) (fresh : ∀ row ∈ s.jtiReplay, row.jti ≠ a.jti) :
    Safe (State.put { s with jtiReplay := s.jtiReplay ++ [⟨a.jti, a.exp⟩] } i (.claimed a)) := by
  have nobodyElse : ∀ j b, (s.callbacks j).holding = some b → b.jti = a.jti → b.exp ≠ a.exp := by
    intro j b held sameJti sameExp
    rcases safe.recorded j b held with kept | ⟨-, nobody⟩
    · exact fresh _ kept sameJti
    · exact nobody i a (by rw [awaiting]; rfl) sameJti.symm sameExp.symm
  constructor
  · intro j k b c hj hk sameJti sameExp
    by_cases herej : j = i <;> by_cases herek : k = i
    · rw [herej, herek]
    · simp only [put_callbacks, if_pos herej, Stage.holding, Option.some.injEq] at hj
      subst hj
      exact absurd sameExp.symm (nobodyElse k c (by simpa [herek] using hk) sameJti.symm)
    · simp only [put_callbacks, if_pos herek, Stage.holding, Option.some.injEq] at hk
      subst hk
      exact absurd sameExp (nobodyElse j b (by simpa [herej] using hj) sameJti)
    · exact safe.single j k b c (by simpa [herej] using hj)
        (by simpa [herek] using hk) sameJti sameExp
  · intro j b hj
    by_cases here : j = i
    · simp only [put_callbacks, if_pos here, Stage.holding, Option.some.injEq] at hj
      subst hj
      exact Or.inl (by simp)
    · rcases safe.recorded j b (by simpa [here] using hj) with kept | ⟨expired, nobody⟩
      · exact Or.inl (List.mem_append_left _ kept)
      refine Or.inr ⟨expired, fun k c hk => ?_⟩
      by_cases herek : k = i
      · simp [herek, Stage.pending] at hk
      · exact nobody k c (by simpa [herek] using hk)

theorem prune_safe {s : State} (safe : Safe s) (spares : PruneSpares s .prune) :
    Safe { s with jtiReplay := pruneExpired s.now s.jtiReplay } := by
  refine ⟨safe.single, fun i a held => ?_⟩
  rcases safe.recorded i a held with kept | gone
  · by_cases expired : a.exp < s.now
    · exact Or.inr ⟨expired, fun j b pending sameJti sameExp =>
        spares _ kept expired j b pending ⟨sameJti, sameExp⟩⟩
    · exact Or.inl (List.mem_filter.mpr ⟨kept, by simpa using expired⟩)
  · exact Or.inr gone

section
variable (fromisoformat : Str → Option Timestamp) (settings : SsoSettings)

theorem callbackVerify_claims {request : CallbackRequest} {answer : SsoAnswer} {now : Time}
    {a : VerifiedAssertion}
    (passed : callbackVerify fromisoformat settings request answer now = .ok a) :
    ∃ claims, answer = .token claims ∧ Attested fromisoformat settings claims now a := by
  simp only [callbackVerify, bind_ok] at passed
  obtain ⟨-, -, -, -, passed⟩ := passed
  cases answer with
  | unreachable => cases passed
  | rejected reason => cases passed
  | raised => cases passed
  | token claims =>
    simp only at passed
    split at passed
    · rename_i assertion verified
      cases passed
      exact ⟨claims, rfl, verifyAssertion_ok fromisoformat verified⟩
    · cases passed

theorem callbackVerify_live {request : CallbackRequest} {answer : SsoAnswer} {now : Time}
    {a : VerifiedAssertion}
    (passed : callbackVerify fromisoformat settings request answer now = .ok a) : now < a.exp := by
  obtain ⟨claims, -, attested⟩ := callbackVerify_claims fromisoformat settings passed
  exact attested.live

theorem step_safe (s : State) (e : Event) (safe : Safe s) (spares : PruneSpares s e) :
    Safe (step fromisoformat settings s e) := by
  cases e with
  | tick now =>
    simp only [step]
    split
    · rename_i forward
      exact tick_safe safe forward
    · exact safe
  | verify i request answer =>
    simp only [step]
    split
    · split
      · rename_i assertion passed
        exact verify_safe safe (callbackVerify_live fromisoformat settings passed)
      · exact safe_of_fewer safe (fun a h => (nomatch h)) rfl
    · exact safe
  | claim i =>
    simp only [step]
    split
    · rename_i a awaiting
      cases won : (claim a.jti a.exp s.jtiReplay).1 with
      | true =>
        obtain ⟨fresh, table⟩ := claim_fresh won
        simpa [won, table] using claim_safe safe awaiting fresh
      | false =>
        rw [claim_replayed won]
        exact safe_of_fewer safe (fun a h => by simp [Stage.holding] at h) (by simp [Stage.pending])
    · exact safe
  | grant i db =>
    simp only [step]
    split
    · rename_i a held
      split
      · exact safe_of_fewer safe (fun b h => by rw [held]; exact h) rfl
      · exact safe_of_fewer safe (fun b h => (nomatch h)) rfl
    · exact safe
  | prune => exact prune_safe safe spares

def run (now : Time) (jtiReplay : List JtiReplayRow) (events : List Event) : State :=
  events.foldl (step fromisoformat settings) (State.initial now jtiReplay)

theorem run_safe {now : Time} {jtiReplay : List JtiReplayRow} {events : List Event}
    (spares : Guarded (step fromisoformat settings) PruneSpares
      (State.initial now jtiReplay) events) :
    Safe (run fromisoformat settings now jtiReplay events) :=
  run_invariant (step_safe fromisoformat settings) (initial_safe now jtiReplay) spares

/-- Callbacks that reached session creation with one assertion are one callback. -/
def AtMostOneSession (s : State) : Prop :=
  ∀ i j a b p q, s.callbacks i = .session a p → s.callbacks j = .session b q →
    a.jti = b.jti → a.exp = b.exp → i = j

theorem Safe.atMostOneSession {s : State} (safe : Safe s) : AtMostOneSession s :=
  fun i j a b _ _ hi hj => safe.single i j a b (by rw [hi]; rfl) (by rw [hj]; rfl)

/-- One assertion makes at most one session in every run whose prunes spare what a callback is about
to claim. -/
theorem one_session_per_assertion {now : Time} {jtiReplay : List JtiReplayRow} {events : List Event}
    (spares : Guarded (step fromisoformat settings) PruneSpares
      (State.initial now jtiReplay) events) :
    AtMostOneSession (run fromisoformat settings now jtiReplay events) :=
  (run_safe fromisoformat settings spares).atMostOneSession

end

/-! ### A delayed callback -/

/-- Instants since the start of 2026, of the one timestamp the assertion below carries. -/
def instantOf (stamp : Str) : Option Timestamp :=
  if stamp = str "2026-01-01T00:05:00+00:00" then some ⟨300000000, true⟩ else none

def homeSettings : SsoSettings :=
  ⟨str "botonio", str "rosadmin", str "v1", str "1000", str "/run/botonio/sso.sock"⟩

def leaderClaims : Claims :=
  [(str "iss", .str (str "botonio")), (str "aud", .str (str "rosadmin")),
    (str "exp", .str (str "2026-01-01T00:05:00+00:00")), (str "guild", .str (str "1000")),
    (str "standing", .str (str "member")), (str "sub", .str (str "42")),
      (str "jti", .str (str "a1"))]

def leaderDatabase : Database :=
  { Database.empty with
    members := [{ plainMember 0 (str "ana@pdx.org") with
      discordUserId := some 42
      isChapterLeader := true
      leadershipAssessment := .leader }]
    nextId := 1 }

def arrive (i : Nat) : Event :=
  .verify i ⟨some (str "s"), some (str "c"), some (str "s")⟩ (.token leaderClaims)

/-- The second callback stalls between its verification and its claim until a sweep has pruned the
first one's record. -/
def stalledRun : List Event :=
  [arrive 0, arrive 1, .claim 0, .grant 0 leaderDatabase, .tick 301000000, .prune, .claim 1,
    .grant 1 leaderDatabase]

theorem stalled_callback_reuses_assertion :
    ¬AtMostOneSession (run instantOf homeSettings 0 [] stalledRun) := by
  intro once
  have held : ∀ i ∈ [0, 1], (run instantOf homeSettings 0 [] stalledRun).callbacks i =
      .session ⟨str "42", str "1000", .member, str "a1", 300000000⟩ ⟨str "42"⟩ := by decide +kernel
  exact absurd (once 0 1 _ _ _ _ (held 0 (by simp)) (held 1 (by simp)) rfl rfl) (by decide)

def promptRun : List Event :=
  [arrive 0, arrive 1, .claim 0, .grant 0 leaderDatabase, .prune, .claim 1, .tick 301000000]

theorem one_session_per_assertion_prompt :
    AtMostOneSession (run instantOf homeSettings 0 [] promptRun) := by
  refine one_session_per_assertion instantOf homeSettings ?_
  have table : ((promptRun.take 4).foldl (step instantOf homeSettings)
    (State.initial 0 [])).jtiReplay = [⟨str "a1", 300000000⟩] := by decide +kernel
  have now : ((promptRun.take 4).foldl (step instantOf homeSettings) (State.initial 0 [])).now =
      0 := by
    decide +kernel
  refine ⟨trivial, trivial, trivial, trivial, fun row member expired => ?_, trivial,
    trivial, trivial⟩
  change row ∈ ((promptRun.take 4).foldl (step instantOf homeSettings)
    (State.initial 0 [])).jtiReplay at member
  change row.expiresAt < ((promptRun.take 4).foldl (step instantOf homeSettings)
    (State.initial 0 [])).now at expired
  rw [table, List.mem_singleton] at member
  rw [now, member] at expired
  exact absurd expired (by decide)

end Rosadmin.Auth
