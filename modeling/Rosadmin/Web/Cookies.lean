import Rosadmin.Web.Visits

/-!
# What stands behind a cookie

A session cookie is traced back to a callback of the browser that holds it, its
state to a begin of that browser, and what it resolves to the assertion that was
verified there. A logout takes it away for good.
-/

namespace Rosadmin.Relay
open Foundation Sso Auth

/-! ### Cookies -/

section
variable {σ : Type} {paseto : Paseto} {keys : SigningKeys} {fromisoformat : Str → Option Timestamp}
  {settings : SsoSettings} {sessions : SessionStore σ} {w : World σ} {i b : Nat}
  {a : VerifiedAssertion} {principal : Principal}

/-- A callback of this browser drew the token, and was audited. -/
structure LoginBehind (w : World σ) (b : Nat) (token : Str) (i : Nat) (v : Visit)
    (a : VerifiedAssertion) (principal : Principal) : Prop where
  visit : w.visits i = some v
  browser : v.browser = b
  token : v.token = some token
  stage : w.auth.callbacks i = .session a principal
  audited : loginAudit principal ∈ w.audits

def Jars (w : World σ) : Prop :=
  ∀ b token, (w.browsers b).session = some token → ∃ i v a principal,
    LoginBehind w b token i v a principal

theorem step_session {s : State} (e : Event) (held : s.callbacks i = .session a principal) :
    (step fromisoformat settings s e).callbacks i = .session a principal := by
  by_cases mine : e.callback = some i
  · cases e with
    | tick now => cases mine
    | prune => cases mine
    | verify j request answer =>
      cases mine
      simp only [step, held]
    | claim j =>
      cases mine
      simp only [step, held]
    | grant j db =>
      cases mine
      simp only [step, held]
  · rw [step_others mine, held]

/-- What an event leaves of a session's callback. -/
structure Kept (w w' : World σ) (i : Nat) (v : Visit) : Prop where
  visit : ∃ v', w'.visits i = some v' ∧ v'.browser = v.browser ∧ v'.token = v.token
  stage : ∀ a principal, w.auth.callbacks i = .session a principal →
    w'.auth.callbacks i = .session a principal
  audits : ∃ more, w'.audits = w.audits ++ more

theorem Kept.behind {w' : World σ} {token : Str} {v : Visit} (kept : Kept w w' i v)
    (behind : LoginBehind w b token i v a principal) :
    ∃ v', LoginBehind w' b token i v' a principal := by
  obtain ⟨v', there, browser, drawn⟩ := kept.visit
  obtain ⟨more, audits⟩ := kept.audits
  refine ⟨v', there, browser.trans behind.browser, drawn.trans behind.token,
    kept.stage _ _ behind.stage, ?_⟩
  rw [audits]
  exact List.mem_append_left _ behind.audited

/-! A callback that has its session is asked and passed no more; what can happen to it is its
answer. -/

theorem visit_callback {v : Visit} (there : w.visits i = some v) (j c : Nat)
    (code state : Option Str) : (callback j c code state w).visits i = some v := by
  unfold callback
  split
  · exact there
  · rename_i fresh
    have other : i ≠ j := by
      rintro rfl
      cases there.symm.trans fresh
    simp [other, there]

theorem visit_verify {v : Visit} (there : w.visits i = some v)
    (held : w.auth.callbacks i = .session a principal) (j : Nat) (answer : SocketAnswer) :
    (verify paseto keys fromisoformat settings j answer w).visits i = some v := by
  unfold verify
  split
  · rename_i u asked waiting
    have other : i ≠ j := by
      rintro rfl
      cases held.symm.trans waiting
    simp [other, there]
  · exact there

theorem visit_grant {v : Visit} (there : w.visits i = some v)
    (held : w.auth.callbacks i = .session a principal) (j : Nat) (db : Database) (token : Str) :
    (grant fromisoformat settings sessions j db token w).visits i = some v := by
  unfold grant
  split
  · rename_i u b asked claimed
    have other : i ≠ j := by
      rintro rfl
      cases held.symm.trans claimed
    dsimp only
    split
    · simp [other, there]
    · exact there
  · exact there

theorem visit_finish {v : Visit} (there : w.visits i = some v) (j : Nat) :
    ∃ v', (finish j w).visits i = some v' ∧ v'.browser = v.browser ∧ v'.token = v.token := by
  by_cases here : i = j
  · subst here
    obtain ⟨reply, same, -⟩ := finish_visit there
    exact ⟨_, same, rfl, rfl⟩
  · exact ⟨v, (finish_others here).trans there, rfl, rfl⟩

theorem visit_deliver {v : Visit} (there : w.visits i = some v) (j : Nat) :
    ∃ v', (deliver j w).visits i = some v' ∧ v'.browser = v.browser ∧ v'.token = v.token := by
  unfold deliver
  split
  · rename_i u asked
    split
    · by_cases here : i = j
      · subst here
        obtain rfl := Option.some.inj (there.symm.trans asked)
        exact ⟨{ v with reply := .delivered }, if_pos rfl, rfl, rfl⟩
      · exact ⟨v, by simp [here, there], rfl, rfl⟩
    · exact ⟨v, there, rfl, rfl⟩
  · exact ⟨v, there, rfl, rfl⟩

theorem visit_step {v : Visit} (there : w.visits i = some v)
    (held : w.auth.callbacks i = .session a principal) (e : RelayEvent) :
    ∃ v', (relayStep paseto keys fromisoformat settings sessions w e).visits i = some v' ∧
      v'.browser = v.browser ∧ v'.token = v.token := by
  cases e with
  | callback j c code state => exact ⟨v, visit_callback there j c code state, rfl, rfl⟩
  | verify j reply => exact ⟨v, visit_verify there held j _, rfl, rfl⟩
  | grant j db token => exact ⟨v, visit_grant there held j db token, rfl, rfl⟩
  | finish j => exact visit_finish there j
  | deliver j => exact visit_deliver there j
  | tick now => exact ⟨v, there, rfl, rfl⟩
  | claim j => exact ⟨v, there, rfl, rfl⟩
  | prune => exact ⟨v, there, rfl, rfl⟩
  | begin c reply => exact ⟨v, by simp [relayStep, there], rfl, rfl⟩
  | request c => exact ⟨v, by simp [relayStep, there], rfl, rfl⟩
  | logout j c => exact ⟨v, by simp [relayStep, there], rfl, rfl⟩
  | revoke j => exact ⟨v, by simp [relayStep, there], rfl, rfl⟩
  | leave j => exact ⟨v, by simp [relayStep, there], rfl, rfl⟩

theorem kept_step {v : Visit} (there : w.visits i = some v)
    (held : w.auth.callbacks i = .session a principal) (e : RelayEvent) :
    Kept w (relayStep paseto keys fromisoformat settings sessions w e) i v where
  visit := visit_step there held e
  stage := by
    intro a principal session
    rcases auth_step e with same | ⟨event, stepped⟩
    · rw [same]
      exact session
    · rw [stepped]
      exact step_session event session
  audits := audits_step e

theorem session_begin {token : Str} {c : Nat} {reply : Option SocketReply}
    (held : ((begin c reply w).browsers b).session = some token) :
    (w.browsers b).session = some token := by
  unfold begin at held
  split at held
  · exact held
  · dsimp only at held
    rw [World.browsers_setBrowser] at held
    split at held
    · rename_i here
      exact here ▸ held
    · exact held

theorem session_deliver {token : Str} {j : Nat}
    (held : ((deliver j w).browsers b).session = some token) :
    (w.browsers b).session = some token ∨
      ∃ i v, w.visits i = some v ∧ v.reply = .sent ∧ v.browser = b ∧ v.token = some token := by
  unfold deliver at held
  split at held
  · rename_i v asked
    split at held
    · rename_i sent
      rw [World.browsers_setBrowser] at held
      split at held
      · rename_i here
        dsimp only at held
        cases drawn : v.token with
        | some t =>
          rw [drawn] at held
          exact Or.inr ⟨j, v, asked, sent, here.symm, drawn.trans held⟩
        | none =>
          rw [drawn] at held
          exact Or.inl (here ▸ held)
      · exact Or.inl held
    · exact Or.inl held
  · exact Or.inl held

theorem session_leave {token : Str} {j : Nat}
    (held : ((leave j w).browsers b).session = some token) :
    (w.browsers b).session = some token := by
  unfold leave at held
  split at held
  · rw [World.browsers_setLeaving, World.browsers_setBrowser] at held
    split at held
    · cases held
    · exact held
  · exact held

/-- A session cookie was there before, or came with the answer to a callback. -/
theorem session_before {token : Str} (e : RelayEvent)
    (held : ((relayStep paseto keys fromisoformat settings sessions w e).browsers b).session =
      some token) :
    (w.browsers b).session = some token ∨
      ∃ i v, w.visits i = some v ∧ v.reply = .sent ∧ v.browser = b ∧ v.token = some token := by
  cases e with
  | begin c reply => exact Or.inl (session_begin held)
  | deliver j => exact session_deliver held
  | leave j => exact Or.inl (session_leave held)
  | tick now => exact Or.inl held
  | claim j => exact Or.inl held
  | prune => exact Or.inl held
  | callback j c code state => exact Or.inl (by simpa [relayStep] using held)
  | verify j reply => exact Or.inl (by simpa [relayStep] using held)
  | grant j db token => exact Or.inl (by simpa [relayStep] using held)
  | finish j => exact Or.inl (by simpa [relayStep] using held)
  | request c => exact Or.inl (by simpa [relayStep] using held)
  | logout j c => exact Or.inl (by simpa [relayStep] using held)
  | revoke j => exact Or.inl (by simpa [relayStep] using held)

theorem minted_of_token {v : Visit} {token : Str} {log : List Answered} {audits : List Db.AuditCall}
    {stage : Stage} (fits : Fits paseto keys fromisoformat settings log audits (some v) stage)
    (drawn : v.token = some token) :
    ∃ a principal, stage = .session a principal ∧
      Minted paseto keys fromisoformat settings log audits v a principal := by
  cases stage with
  | session a principal => exact ⟨a, principal, rfl, fits⟩
  | exited exit => cases drawn.symm.trans fits
  | waiting => cases drawn.symm.trans fits.1
  | verified a => cases drawn.symm.trans fits.1
  | claimed a => cases drawn.symm.trans fits.1

theorem jars_step (fits : AllFit paseto keys fromisoformat settings w) (jars : Jars w)
    (e : RelayEvent) : Jars (relayStep paseto keys fromisoformat settings sessions w e) := by
  intro b token held
  have behind : ∃ i v a principal, LoginBehind w b token i v a principal := by
    rcases session_before e held with before | ⟨i, v, there, sent, mine, drawn⟩
    · exact jars b token before
    · have mine' := fits i
      rw [there] at mine'
      obtain ⟨a, principal, stage, minted⟩ := minted_of_token mine' drawn
      exact ⟨i, v, a, principal, there, mine, drawn, stage, minted.audited (Or.inl sent)⟩
  obtain ⟨i, v, a, principal, behind⟩ := behind
  obtain ⟨v', behind'⟩ := (kept_step behind.visit behind.stage e).behind behind
  exact ⟨i, v', a, principal, behind'⟩

end

/-! ### Logouts -/

/-- Created, and revoked since. -/
def Dead (log : List Answered) (token : Str) : Prop :=
  ∃ before after r, log = before ++ r :: after ∧ r.call = .revoke token ∧ ∃ principal,
    Created before token principal

theorem Dead.later {log more : List Answered} {token : Str} (dead : Dead log token) :
    Dead (log ++ more) token := by
  obtain ⟨before, after, r, rfl, revoked, created⟩ := dead
  exact ⟨before, after ++ more, r, by simp, revoked, created⟩

theorem drawn_create {c : Answered} {token : Str} {principal : Principal}
    (made : c.call = .create token principal) : c.drawn = some token := by
  rw [TimedCall.drawn, made]

theorem not_live_of_dead {log : List Answered} {token : Str} {principal : Principal} {now : Time}
    (distinct : (log.filterMap (·.drawn)).Nodup) (dead : Dead log token) :
    ¬Live log token principal now := by
  rintro ⟨created, later, since, -⟩
  obtain ⟨before, after, r, rfl, revoked, other, c, member, made⟩ := dead
  obtain ⟨early, late, rfl⟩ := List.append_of_mem member
  obtain ⟨before', split⟩ := since.creation
  rw [List.append_assoc, List.cons_append] at split distinct
  obtain ⟨-, -, rest⟩ := split_of_nullable split distinct (drawn_create made) rfl
  exact since.unrevoked r (rest ▸ List.mem_append_right _ List.mem_cons_self) revoked

def Leaving.gone : Leaving → Option Str
  | .revoked _ token | .answered token => token
  | .idle | .resolved _ _ _ => none

/-- What is known of a token at each stage of its logout. -/
def Leaving.Fits (log : List Answered) : Leaving → Prop
  | .resolved _ token _ => ∃ principal, Created log token principal
  | .revoked _ (some token) | .answered (some token) => Dead log token
  | .idle | .revoked _ none | .answered none => True

theorem Leaving.Fits.later {log more : List Answered} {leaving : Leaving}
    (fits : leaving.Fits log) : leaving.Fits (log ++ more) := by
  cases leaving with
  | idle => trivial
  | resolved b token principal =>
    obtain ⟨principal, created⟩ := fits
    exact ⟨principal, created.later⟩
  | revoked b token =>
    cases token with
    | none => trivial
    | some token => exact Dead.later fits
  | answered token =>
    cases token with
    | none => trivial
    | some token => exact Dead.later fits

theorem Leaving.Fits.dead {log : List Answered} {leaving : Leaving} {token : Str}
    (fits : leaving.Fits log) (gone : leaving.gone = some token) : Dead log token := by
  cases leaving with
  | idle => cases gone
  | resolved b token principal => cases gone
  | revoked b token =>
    cases gone
    exact fits
  | answered token =>
    cases gone
    exact fits

section
variable {σ : Type} {paseto : Paseto} {keys : SigningKeys} {fromisoformat : Str → Option Timestamp}
    {settings : SsoSettings} {sessions : SessionStore σ} {w w' : World σ}

def AllLeaving (w : World σ) : Prop := ∀ j, (w.leaving j).Fits w.serving.log

theorem allLeaving_still (fits : AllLeaving w)
    (log : ∃ more, w'.serving.log = w.serving.log ++ more) (leaving : w'.leaving = w.leaving) :
    AllLeaving w' := by
  obtain ⟨more, log⟩ := log
  intro j
  rw [log, leaving]
  exact (fits j).later

theorem allLeaving_moved (fits : AllLeaving w) (j : Nat)
    (log : ∃ more, w'.serving.log = w.serving.log ++ more)
    (others : ∀ k, k ≠ j → w'.leaving k = w.leaving k) (mine : (w'.leaving j).Fits w'.serving.log) :
    AllLeaving w' := by
  obtain ⟨more, log⟩ := log
  intro k
  by_cases here : k = j
  · exact here ▸ mine
  · rw [log, others k here]
    exact (fits k).later

theorem created_of_jar {b : Nat} {token : Str} (fits : AllFit paseto keys fromisoformat settings w)
    (jars : Jars w) (held : (w.browsers b).session = some token) :
    ∃ principal, Created w.serving.log token principal := by
  obtain ⟨i, v, a, principal, behind⟩ := jars b token held
  have minted := fits i
  rw [behind.visit, behind.stage] at minted
  obtain ⟨drawn, same, created⟩ := minted.token
  cases same.symm.trans behind.token
  exact ⟨principal, created⟩

theorem allLeaving_logout {j b : Nat} (fits : AllFit paseto keys fromisoformat settings w)
    (jars : Jars w) (leaving : AllLeaving w) : AllLeaving (logout sessions j b w) := by
  unfold logout
  split
  · rename_i token idle held
    obtain ⟨principal, created⟩ := created_of_jar fits jars held
    refine allLeaving_moved leaving j ⟨_, rfl⟩ (fun k other => by simp [other]) ?_
    rw [World.leaving_setLeaving, if_pos rfl]
    exact ⟨principal, created.later⟩
  · refine allLeaving_moved leaving j ⟨[], by simp⟩ (fun k other => by simp [other]) ?_
    rw [World.leaving_setLeaving, if_pos rfl]
    trivial
  · exact leaving

theorem allLeaving_revoke {j : Nat} (leaving : AllLeaving w) :
    AllLeaving (revoke sessions j w) := by
  unfold revoke
  split
  · rename_i b token principal resolved
    have before := leaving j
    rw [resolved] at before
    refine allLeaving_moved leaving j ⟨_, rfl⟩ (fun k other => by simp [other]) ?_
    rw [World.leaving_audit, World.leaving_setLeaving, if_pos rfl]
    exact ⟨w.serving.log, [], _, rfl, rfl, before⟩
  · exact leaving

theorem allLeaving_leave {j : Nat} (leaving : AllLeaving w) : AllLeaving (leave j w) := by
  unfold leave
  split
  · rename_i b token revoked
    have before := leaving j
    rw [revoked] at before
    refine allLeaving_moved leaving j ⟨[], by simp⟩ (fun k other => by simp [other]) ?_
    rw [World.leaving_setLeaving, if_pos rfl]
    cases token with
    | none => trivial
    | some token => exact before
  · exact leaving

theorem allLeaving_step (fits : AllFit paseto keys fromisoformat settings w) (jars : Jars w)
    (leaving : AllLeaving w) (e : RelayEvent) :
    AllLeaving (relayStep paseto keys fromisoformat settings sessions w e) := by
  cases e with
  | logout j b => exact allLeaving_logout fits jars leaving
  | revoke j => exact allLeaving_revoke leaving
  | leave j => exact allLeaving_leave leaving
  | tick now => exact leaving
  | claim i => exact leaving
  | prune => exact leaving
  | begin b reply => exact allLeaving_still leaving (log_step _) (by simp [relayStep])
  | callback i b code state => exact allLeaving_still leaving (log_step _) (by simp [relayStep])
  | verify i reply => exact allLeaving_still leaving (log_step _) (by simp [relayStep])
  | grant i db token => exact allLeaving_still leaving (log_step _) (by simp [relayStep])
  | finish i => exact allLeaving_still leaving (log_step _) (by simp [relayStep])
  | deliver i => exact allLeaving_still leaving (log_step _) (by simp [relayStep])
  | request b => exact allLeaving_still leaving (log_step _) (by simp [relayStep])

/-! ### The store's calls -/

/-- The store has served the calls logged, in the order of their times. -/
structure Logged (sessions : SessionStore σ) (start : σ) (w : World σ) : Prop where
  served : w.serving = sessions.run (w.serving.log.map (·.toTimedCall)) start
  clock : (w.serving.log.map (·.time)).Pairwise (· ≤ ·)
  past : ∀ c ∈ w.serving.log, c.time ≤ w.auth.now

variable {start : σ}

theorem logged_still (logged : Logged sessions start w) (serving : w'.serving = w.serving)
    (now : w.auth.now ≤ w'.auth.now) : Logged sessions start w' := by
  obtain ⟨served, clock, past⟩ := logged
  rw [← serving] at served clock past
  exact ⟨served, clock, fun c member => le_trans (past c member) now⟩

theorem logged_call (logged : Logged sessions start w) (c : SessionCall)
    (serving : w'.serving = sessions.serve w.serving ⟨w.auth.now, c⟩)
    (now : w'.auth.now = w.auth.now) :
    Logged sessions start w' := by
  have log : w'.serving.log = w.serving.log ++ [⟨⟨w.auth.now, c⟩, _⟩] :=
    congrArg Serving.log serving
  refine ⟨?_, ?_, ?_⟩
  · rw [log, List.map_append, serving, SessionStore.run, List.foldl_append, ← SessionStore.run,
      ← logged.served]
    rfl
  · rw [log, List.map_append, List.pairwise_append]
    refine ⟨logged.clock, List.pairwise_singleton _ _, fun t old t' new => ?_⟩
    obtain ⟨c, member, rfl⟩ := List.mem_map.mp old
    obtain rfl := List.mem_singleton.mp new
    exact logged.past c member
  · intro d member
    rw [log] at member
    rw [now]
    rcases List.mem_append.mp member with old | new
    · exact logged.past d old
    · exact le_of_eq (congrArg (fun a : Answered => a.time) (List.mem_singleton.mp new))

theorem now_relayStep (e : RelayEvent) :
    w.auth.now ≤ (relayStep paseto keys fromisoformat settings sessions w e).auth.now := by
  rcases auth_step e with same | ⟨event, stepped⟩
  · rw [same]
  · rw [stepped]
    exact now_step fromisoformat settings w.auth event

theorem logged_step (logged : Logged sessions start w) (e : RelayEvent) :
    Logged sessions start (relayStep paseto keys fromisoformat settings sessions w e) := by
  rcases callsOnce_step e with serving | ⟨c, serving, now, -⟩
  · exact logged_still logged serving (now_relayStep e)
  · exact logged_call logged c serving now

theorem drawn_step {done : List RelayEvent}
    (drawn : (w.serving.log.filterMap (·.drawn)).Sublist (done.filterMap (·.drawn)))
    (e : RelayEvent) :
    ((relayStep paseto keys fromisoformat settings sessions w e).serving.log.filterMap
      (·.drawn)).Sublist
      ((done ++ [e]).filterMap (·.drawn)) := by
  rw [List.filterMap_append]
  rcases callsOnce_step e with serving | ⟨c, serving, -, create⟩
  · rw [serving]
    exact drawn.trans (List.sublist_append_left _ _)
  · rw [serving, serve_log, List.filterMap_append]
    refine drawn.append ?_
    cases c with
    | create token principal =>
      rw [List.filterMap_cons_some (create token principal rfl)]
      exact List.Sublist.refl _
    | resolve token => exact List.nil_sublist _
    | revoke token => exact List.nil_sublist _

/-! ### Runs -/

structure Sound (paseto : Paseto) (keys : SigningKeys) (fromisoformat : Str → Option Timestamp)
    (settings : SsoSettings) (sessions : SessionStore σ) (start : σ) (done : List RelayEvent)
    (w : World σ) : Prop where
  states : StatesOwn w
  callbacks : AllFit paseto keys fromisoformat settings w
  jars : Jars w
  leaving : AllLeaving w
  logged : Logged sessions start w
  drawn : (w.serving.log.filterMap (·.drawn)).Sublist (done.filterMap (·.drawn))

theorem sound_run (now : Time) (start : σ) (events : List RelayEvent) :
    Sound paseto keys fromisoformat settings sessions start events
      (relayRun paseto keys fromisoformat settings sessions now start events) := by
  induction events using List.reverseRecOn with
  | nil =>
    exact ⟨⟨nofun, nofun, nofun⟩, fun _ => rfl, nofun, fun _ =>
      trivial, ⟨rfl, List.Pairwise.nil, nofun⟩, List.Sublist.refl _⟩
  | append_singleton events e ih =>
    unfold relayRun at ih ⊢
    rw [List.foldl_append]
    exact ⟨statesOwn_step paseto keys fromisoformat settings sessions e ih.states,
      allFit_step sessions e ih.callbacks,
      jars_step ih.callbacks ih.jars e, allLeaving_step ih.callbacks ih.jars ih.leaving e,
        logged_step ih.logged e,
      drawn_step ih.drawn e⟩

/-- A store finds a session only where the calls made of it say that it is live. -/
def Accountable (sessions : SessionStore σ) (start : σ) : Prop :=
  ∀ calls now token principal, (calls.map (·.time)).Pairwise (· ≤ ·) →
    (calls.filterMap (·.drawn)).Nodup →
    (∀ c ∈ calls, c.time ≤ now) → (sessions.resolve now token (sessions.run calls start).store).1 =
      some principal → Live (sessions.run calls start).log token principal now

theorem postgres_accountable {sha256 : Str → Str} (injective : Function.Injective sha256) :
    Accountable (postgresSessionStore sha256) [] := by
  intro calls now token principal clock fresh past found
  have inStep := inStep_run injective clock fresh
  have distinct := inStep.drawn ▸ fresh
  have answer : (resolveSession sha256 now token _).1 = some principal := found
  rw [resolveSession_answer inStep.mirrors (inStep.clock past)] at answer
  rw [inStep.logs]
  exact (resolveEntry_live inStep.tracks distinct (inStep.clock past)).mp answer

theorem inMemory_accountable : Accountable inMemorySessionStore .empty := by
  intro calls now token principal clock fresh past found
  have inStep := inStep_run Function.injective_id clock fresh
  exact (resolveEntry_live inStep.tracks (inStep.drawn ▸ fresh) (inStep.clock past)).mp found

theorem Sound.live (accountable : Accountable sessions start) {done : List RelayEvent}
    (sound : Sound paseto keys fromisoformat settings sessions start done w)
    (fresh : (done.filterMap (·.drawn)).Nodup) {token : Str} {principal : Principal}
    (found : w.resolves sessions token = some principal) :
    Live w.serving.log token principal w.auth.now ∧ (w.serving.log.filterMap (·.drawn)).Nodup := by
  have distinct := fresh.sublist sound.drawn
  refine ⟨?_, distinct⟩
  rw [sound.logged.served]
  refine accountable _ _ token principal ?_ ?_ ?_ ?_
  · rw [List.map_map]
    exact sound.logged.clock
  · rw [List.filterMap_map]
    exact distinct
  · intro c member
    obtain ⟨a, logged, rfl⟩ := List.mem_map.mp member
    exact sound.logged.past a logged
  · rw [← sound.logged.served]
    exact found

theorem created_unique {log : List Answered} {token : Str} {principal other : Principal}
    (distinct : (log.filterMap (·.drawn)).Nodup) (one : Created log token principal)
    (two : Created log token other) :
    principal = other := by
  obtain ⟨c, member, made⟩ := one
  obtain ⟨d, member', made'⟩ := two
  have same := row_of_nullable distinct member member' (drawn_create made) (drawn_create made')
  rw [same] at made
  cases made.symm.trans made'
  rfl

theorem created_of_live {log : List Answered} {token : Str} {principal : Principal} {now : Time}
    (live : Live log token principal now) : Created log token principal := by
  obtain ⟨created, later, ⟨⟨before, rfl⟩, -⟩, -⟩ := live
  exact ⟨_, List.mem_append_right _ List.mem_cons_self, rfl⟩

/-- Whoever a browser's session cookie resolves to has logged in there: a callback of this browser
drew the token and was audited, its assertion was verified and names the principal, and its state
came from a begin of this browser. A token that a logout has revoked resolves to nobody. -/
structure Traced (paseto : Paseto) (keys : SigningKeys) (fromisoformat : Str → Option Timestamp)
    (settings : SsoSettings) (sessions : SessionStore σ) (w : World σ) : Prop where
  behind : ∀ b token principal, (w.browsers b).session = some token →
    w.resolves sessions token = some principal →
    ∃ i v a, LoginBehind w b token i v a principal ∧
      Checked paseto keys fromisoformat settings v a ∧
      principal.discordId = a.discordId ∧ ∃ state, v.request.state = some state ∧
        BegunBehind w.given v.toAsked state
  gone : ∀ j token, (w.leaving j).gone = some token → w.resolves sessions token = none

theorem Sound.traced (accountable : Accountable sessions start) {done : List RelayEvent}
    (sound : Sound paseto keys fromisoformat settings sessions start done w)
    (fresh : (done.filterMap (·.drawn)).Nodup) :
    Traced paseto keys fromisoformat settings sessions w where
  behind := by
    intro b token principal held found
    obtain ⟨live, distinct⟩ := sound.live accountable fresh found
    obtain ⟨i, v, a, other, behind⟩ := sound.jars b token held
    have minted := sound.callbacks i
    rw [behind.visit, behind.stage] at minted
    obtain ⟨drawn, same, created⟩ := minted.token
    cases same.symm.trans behind.token
    obtain rfl := created_unique distinct created (created_of_live live)
    obtain ⟨answer, time, -, presented⟩ := minted.checked
    obtain ⟨state, carried, -, cookie⟩ := presented.state
    have asked : w.asked i = some v.toAsked := by rw [World.asked, behind.visit]; rfl
    exact ⟨i, v, a, behind, minted.checked, minted.named, state, carried,
      sound.states.carried i _ state asked cookie⟩
  gone := by
    intro j token gone
    cases found : w.resolves sessions token with
    | none => rfl
    | some principal =>
      obtain ⟨live, distinct⟩ := sound.live accountable fresh found
      exact absurd live (not_live_of_dead distinct ((sound.leaving j).dead gone))

/-- Whatever browsers do, in any order and with any states and codes pasted in, every session cookie
has its own login behind it and every logout is final, in either store, as long as no token is drawn
twice. -/
theorem session_cookies_traced {sha256 : Str → Str} (injective : Function.Injective sha256)
    (now : Time) (events : List RelayEvent) (fresh : (events.filterMap (·.drawn)).Nodup) :
    Traced paseto keys fromisoformat settings (postgresSessionStore sha256)
        (relayRun paseto keys fromisoformat settings (postgresSessionStore sha256) now [] events) ∧
      Traced paseto keys fromisoformat settings inMemorySessionStore
        (relayRun paseto keys fromisoformat settings inMemorySessionStore now .empty events) :=
  ⟨(sound_run now [] events).traced (postgres_accountable injective) fresh,
    (sound_run now Dict.empty events).traced inMemory_accountable fresh⟩

end

/-! ### One login and one logout -/

def begunReply : SocketReply :=
  ⟨200, some (.obj [(str "authorize_url", .str (str "https:")), (str "state", .str (str "s"))])⟩

def completedReply : SocketReply := ⟨200, some (.obj [(str "assertion", .str leaderToken)])⟩

/-- The second browser's callback carries the state of the first one's. -/
def leaderVisits : List RelayEvent :=
  [.begin 0 (some begunReply), .callback 0 0 (some (str "c")) (some (str "s")),
    .callback 1 1 (some (str "c")) (some (str "s")), .verify 1 (some completedReply),
      .verify 0 (some completedReply),
    .claim 1, .claim 0, .grant 0 leaderDatabase (str "t"), .finish 0, .finish 1, .deliver 0,
      .deliver 1]

def leaderWorld (events : List RelayEvent) : World (List SessionsRow) :=
  relayRun leaderPaseto leaderKeys instantOf homeSettings (postgresSessionStore id) 0 [] events

theorem session_cookies_traced_leader :
    ((leaderWorld leaderVisits).browsers 0).session = some (str "t") ∧
      ((leaderWorld leaderVisits).browsers 1).session = none ∧
      (leaderWorld leaderVisits).resolves (postgresSessionStore id) (str "t") = some ⟨str "42"⟩ ∧
      Traced leaderPaseto leaderKeys instantOf homeSettings (postgresSessionStore id)
        (leaderWorld leaderVisits) := by
  refine ⟨by decide +kernel, by decide +kernel, by decide +kernel, ?_⟩
  exact (session_cookies_traced Function.injective_id 0 leaderVisits (by decide)).1

end Rosadmin.Relay
