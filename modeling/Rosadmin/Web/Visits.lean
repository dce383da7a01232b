import Rosadmin.Web.Lapsed
import Rosadmin.Web.Relay

/-!
# Where a callback's state comes from

The state a browser sends back was given to that browser by a begin, and at each
stage of a callback it is known what it has passed and what it has left behind.
-/

namespace Rosadmin.Relay
open Foundation Sso Auth

/-! ### States -/

section
variable {σ : Type} {w w' : World σ}

def World.asked (w : World σ) (i : Nat) : Option Asked := (w.visits i).map Visit.toAsked

/-- A begin of the same browser gave the state, not longer ago than the cookie lasts, and no
callback has redirected that browser since. -/
def BegunBehind (given : List Given) (asked : Asked) (state : Str) : Prop :=
  ∃ g ∈ given, g.browser = asked.browser ∧ g.state = state ∧ g.time ≤ asked.time ∧
    asked.time < g.time + stateMaxAge ∧ g.answers = asked.answers

structure StatesOwn (w : World σ) : Prop where
  past : ∀ g ∈ w.given, g.time ≤ w.auth.now
  cookie : ∀ b cookie, (w.browsers b).ssoState = some cookie → ∃ g ∈ w.given,
    g.browser = b ∧ g.state = cookie.value ∧
    cookie.expires = g.time + stateMaxAge ∧ g.answers = (w.browsers b).answers
  carried : ∀ i asked state, w.asked i = some asked → asked.request.cookieState = some state →
    BegunBehind w.given asked state

/-- Nothing that concerns states has changed. -/
structure SameStates (w w' : World σ) : Prop where
  given : w'.given = w.given
  now : w.auth.now ≤ w'.auth.now
  browsers : ∀ b, (w'.browsers b).ssoState = (w.browsers b).ssoState ∧
    (w'.browsers b).answers = (w.browsers b).answers
  asked : w'.asked = w.asked

theorem SameStates.refl (w : World σ) : SameStates w w := ⟨rfl, le_refl _, fun _ => ⟨rfl, rfl⟩, rfl⟩

theorem SameStates.keeps (same : SameStates w w') (own : StatesOwn w) : StatesOwn w' where
  past := fun g member => le_trans (own.past g (same.given ▸ member)) same.now
  cookie := by
    intro b cookie held
    rw [(same.browsers b).1] at held
    rw [same.given, (same.browsers b).2]
    exact own.cookie b cookie held
  carried := by
    intro i asked state there carries
    rw [same.asked] at there
    rw [same.given]
    exact own.carried i asked state there carries

theorem asked_setVisit {i : Nat} {v v' : Visit} (there : w.visits i = some v)
    (same : v'.toAsked = v.toAsked) : (w.setVisit i v').asked = w.asked := by
  funext j
  unfold World.asked
  rw [World.visits_setVisit]
  split
  · rename_i here
    rw [here, there, Option.map_some, Option.map_some, same]
  · rfl

theorem sameStates_setVisit {i : Nat} {v v' : Visit} (there : w.visits i = some v)
    (same : v'.toAsked = v.toAsked) :
    SameStates w (w.setVisit i v') :=
      ⟨rfl, le_refl _, fun _ => ⟨rfl, rfl⟩, asked_setVisit there same⟩

theorem sameStates_leave (j : Nat) (w : World σ) : SameStates w (leave j w) := by
  unfold leave
  split
  · refine ⟨rfl, le_refl _, fun c => ?_, rfl⟩
    rw [World.browsers_setLeaving, World.browsers_setBrowser]
    split
    · rename_i here
      rw [here]
      exact ⟨rfl, rfl⟩
    · exact ⟨rfl, rfl⟩
  · exact .refl w

theorem carries_given {now : Time} {b : Nat} {state : Str} (own : StatesOwn w)
    (carried : (w.browsers b).carries now = some state) :
    ∃ g ∈ w.given, g.browser = b ∧ g.state = state ∧ now < g.time + stateMaxAge ∧
      g.answers = (w.browsers b).answers := by
  obtain ⟨cookie, held, alive⟩ := Option.bind_eq_some_iff.mp carried
  obtain ⟨g, member, mine, same, expires, answers⟩ := own.cookie b cookie held
  split at alive
  · rename_i young
    exact ⟨g, member, mine, same.trans (Option.some.inj alive), expires ▸ young, answers⟩
  · cases alive

theorem statesOwn_callback {i b : Nat} {code state : Option Str} (own : StatesOwn w) :
    StatesOwn (callback i b code state w) := by
  unfold callback
  split
  · exact own
  · refine ⟨own.past, own.cookie, ?_⟩
    intro j asked sent there carries
    unfold World.asked at there
    rw [World.visits_setVisit] at there
    split at there
    · obtain rfl := Option.some.inj there
      obtain ⟨g, member, mine, same, young, answers⟩ := carries_given own carries
      exact ⟨g, member, mine, same, own.past g member, young, answers⟩
    · exact own.carried j asked sent there carries

theorem BegunBehind.later {given more : List Given} {asked : Asked} {state : Str}
    (begun : BegunBehind given asked state) : BegunBehind (given ++ more) asked state := by
  obtain ⟨g, member, facts⟩ := begun
  exact ⟨g, List.mem_append_left _ member, facts⟩

theorem statesOwn_begin {b : Nat} {reply : Option SocketReply} (own : StatesOwn w) :
    StatesOwn (begin b reply w) := by
  unfold begin
  split
  · exact own
  · rename_i begun _
    constructor
    · intro g member
      rcases List.mem_append.mp member with old | new
      · exact own.past g old
      · exact le_of_eq (congrArg Given.time (List.mem_singleton.mp new))
    · intro c cookie held
      change (if c = b then _ else w.browsers c : Browser).ssoState = some cookie at held
      change ∃ g ∈ w.given ++ [_], g.browser = c ∧ g.state = cookie.value ∧ _ ∧
        g.answers = (if c = b then _ else w.browsers c : Browser).answers
      split at held
      · rename_i here
        cases held
        exact ⟨_, List.mem_append_right _ (List.mem_singleton_self _), here.symm, rfl, rfl,
          by rw [if_pos here]⟩
      · rename_i elsewhere
        obtain ⟨g, member, mine, same, expires, answers⟩ := own.cookie c cookie held
        exact ⟨g, List.mem_append_left _ member, mine, same, expires,
          by rw [if_neg elsewhere, answers]⟩
    · exact fun i asked state there carries => (own.carried i asked state there carries).later

/-- The cookie is gone once an answer has come. -/
theorem statesOwn_deliver {i : Nat} (own : StatesOwn w) : StatesOwn (deliver i w) := by
  unfold deliver
  split
  · rename_i v there
    split
    · have asked : (w.setVisit i { v with reply := .delivered }).asked = w.asked :=
        asked_setVisit there rfl
      refine ⟨own.past, ?_, ?_⟩
      · intro c cookie held
        dsimp only at held ⊢
        rw [World.browsers_setBrowser] at held ⊢
        split at held
        · cases held
        · rename_i elsewhere
          rw [if_neg elsewhere]
          exact own.cookie c cookie held
      · intro j asked' state there' carries
        exact own.carried j asked' state (asked ▸ there') carries
    · exact own
  · exact own

theorem now_step (fromisoformat : Str → Option Timestamp) (settings : SsoSettings) (s : State)
    (e : Event) : s.now ≤ (step fromisoformat settings s e).now := by
  cases e with
  | tick now =>
    simp only [step]
    split
    · assumption
    · exact le_refl _
  | verify i request answer =>
    simp only [step]
    split
    · split <;> exact le_refl _
    · exact le_refl _
  | claim i =>
    simp only [step]
    split <;> exact le_refl _
  | grant i db =>
    simp only [step]
    split
    · split <;> exact le_refl _
    · exact le_refl _
  | prune => exact le_refl _

variable (paseto : Paseto) (keys : SigningKeys) (fromisoformat : Str → Option Timestamp)
    (settings : SsoSettings) (sessions : SessionStore σ)

theorem sameStates_verify (i : Nat) (answer : SocketAnswer) (w : World σ) :
    SameStates w (verify paseto keys fromisoformat settings i answer w) := by
  unfold verify
  split
  · rename_i v there _
    exact ⟨rfl, now_step _ _ _ _, fun _ => ⟨rfl, rfl⟩, asked_setVisit there rfl⟩
  · exact .refl w

theorem sameStates_grant (i : Nat) (db : Database) (token : Str) (w : World σ) :
    SameStates w (grant fromisoformat settings sessions i db token w) := by
  unfold grant
  split
  · rename_i v a there _
    dsimp only
    split
    · exact ⟨rfl, now_step _ _ _ _, fun _ => ⟨rfl, rfl⟩, asked_setVisit there rfl⟩
    · exact ⟨rfl, now_step _ _ _ _, fun _ => ⟨rfl, rfl⟩, rfl⟩
  · exact .refl w

theorem sameStates_finish (i : Nat) (w : World σ) : SameStates w (finish i w) := by
  unfold finish
  split
  · rename_i v there
    split
    · split
      · split
        · exact ⟨rfl, le_refl _, fun _ => ⟨rfl, rfl⟩, asked_setVisit there rfl⟩
        · exact sameStates_setVisit there rfl
      · exact sameStates_setVisit there rfl
      · exact .refl w
    · exact .refl w
  · exact .refl w

theorem sameStates_logout (j b : Nat) (w : World σ) : SameStates w (logout sessions j b w) := by
  unfold logout
  split <;> exact ⟨rfl, le_refl _, fun _ => ⟨rfl, rfl⟩, rfl⟩

theorem sameStates_revoke (j : Nat) (w : World σ) : SameStates w (revoke sessions j w) := by
  unfold revoke
  split <;> exact ⟨rfl, le_refl _, fun _ => ⟨rfl, rfl⟩, rfl⟩

theorem sameStates_request (b : Nat) (w : World σ) : SameStates w (request sessions b w) := by
  unfold request
  split <;> exact ⟨rfl, le_refl _, fun _ => ⟨rfl, rfl⟩, rfl⟩

theorem statesOwn_step (e : RelayEvent) (own : StatesOwn w) :
    StatesOwn (relayStep paseto keys fromisoformat settings sessions w e) := by
  have auth : ∀ event, SameStates w { w with auth := step fromisoformat settings w.auth event } :=
    fun event => ⟨rfl, now_step _ _ _ _, fun _ => ⟨rfl, rfl⟩, rfl⟩
  cases e with
  | tick now => exact (auth _).keeps own
  | begin b reply => exact statesOwn_begin own
  | callback i b code state => exact statesOwn_callback own
  | verify i reply => exact (sameStates_verify paseto keys fromisoformat settings i _ w).keeps own
  | claim i => exact (auth _).keeps own
  | grant i db token =>
      exact (sameStates_grant fromisoformat settings sessions i db token w).keeps own
  | finish i => exact (sameStates_finish i w).keeps own
  | deliver i => exact statesOwn_deliver own
  | request b => exact (sameStates_request sessions b w).keeps own
  | logout j b => exact (sameStates_logout sessions j b w).keeps own
  | revoke j => exact (sameStates_revoke sessions j w).keeps own
  | leave j => exact (sameStates_leave j w).keeps own
  | prune => exact (auth _).keeps own

end

/-! ### Callbacks -/

def Created (log : List Answered) (token : Str) (principal : Principal) : Prop :=
  ∃ c ∈ log, c.call = .create token principal

theorem Created.later {log more : List Answered} {token : Str} {principal : Principal}
    (created : Created log token principal) : Created (log ++ more) token principal := by
  obtain ⟨c, member, made⟩ := created
  exact ⟨c, List.mem_append_left _ member, made⟩

section
variable {σ : Type} (paseto : Paseto) (keys : SigningKeys) (fromisoformat : Str → Option Timestamp)
    (settings : SsoSettings)

/-- The callback carried its own state, and was answered with the assertion. -/
def Checked (v : Visit) (a : VerifiedAssertion) : Prop :=
  ∃ answer time, v.checked = some (answer, time) ∧
    Presented paseto keys fromisoformat settings v.request answer time a

/-- A session has its token in the store and, once answered, its place in the audit. -/
structure Minted (log : List Answered) (audits : List Db.AuditCall) (v : Visit)
    (a : VerifiedAssertion) (principal : Principal) : Prop where
  checked : Checked paseto keys fromisoformat settings v a
  named : principal.discordId = a.discordId
  token : ∃ token, v.token = some token ∧ Created log token principal
  audited : v.reply = .sent ∨ v.reply = .delivered → loginAudit principal ∈ audits

/-- What is known of a callback at each stage. -/
def Fits (log : List Answered) (audits : List Db.AuditCall) : Option Visit → Stage → Prop
  | none, stage => stage = .waiting
  | some v, .waiting => v.token = none ∧ v.reply = .pending
  | some v, .verified a | some v, .claimed a =>
    v.token = none ∧ v.reply = .pending ∧ Checked paseto keys fromisoformat settings v a
  | some v, .exited _ => v.token = none
  | some v, .session a principal =>
      Minted paseto keys fromisoformat settings log audits v a principal

def AllFit (w : World σ) : Prop :=
  ∀ i, Fits paseto keys fromisoformat settings w.serving.log w.audits (w.visits i)
    (w.auth.callbacks i)

variable {paseto keys fromisoformat settings} {log : List Answered} {audits : List Db.AuditCall}
    {w : World σ} {i : Nat}

theorem Minted.later {v : Visit} {a : VerifiedAssertion} {principal : Principal}
    (log' : List Answered) (audits' : List Db.AuditCall)
    (minted : Minted paseto keys fromisoformat settings log audits v a principal) :
    Minted paseto keys fromisoformat settings (log ++ log') (audits ++ audits') v a principal where
  checked := minted.checked
  named := minted.named
  token := by
    obtain ⟨token, drawn, created⟩ := minted.token
    exact ⟨token, drawn, created.later⟩
  audited := fun answered => List.mem_append_left _ (minted.audited answered)

theorem Fits.later {visit : Option Visit} {stage : Stage} (log' : List Answered)
    (audits' : List Db.AuditCall)
    (fits : Fits paseto keys fromisoformat settings log audits visit stage) :
    Fits paseto keys fromisoformat settings (log ++ log') (audits ++ audits') visit stage := by
  cases visit with
  | none => exact fits
  | some v =>
    cases stage with
    | session a principal => exact Minted.later log' audits' fits
    | waiting => exact fits
    | verified a => exact fits
    | claimed a => exact fits
    | exited exit => exact fits

/-- One callback moves; the others keep what they had, in a longer log and a longer audit. -/
theorem allFit_moved {w' : World σ} (fits : AllFit paseto keys fromisoformat settings w) (i : Nat)
    (log : ∃ more, w'.serving.log = w.serving.log ++ more)
    (audits : ∃ more, w'.audits = w.audits ++ more)
    (others : ∀ j, j ≠ i → w'.visits j = w.visits j ∧ w'.auth.callbacks j = w.auth.callbacks j)
    (mine : Fits paseto keys fromisoformat settings w'.serving.log w'.audits (w'.visits i)
      (w'.auth.callbacks i)) :
    AllFit paseto keys fromisoformat settings w' := by
  obtain ⟨more, log⟩ := log
  obtain ⟨more', audits⟩ := audits
  intro j
  by_cases here : j = i
  · exact here ▸ mine
  · rw [log, audits, (others j here).1, (others j here).2]
    exact (fits j).later more more'

theorem allFit_still {w' : World σ} (fits : AllFit paseto keys fromisoformat settings w)
    (log : ∃ more, w'.serving.log = w.serving.log ++ more)
    (audits : ∃ more, w'.audits = w.audits ++ more) (visits : w'.visits = w.visits)
    (stages : w'.auth.callbacks = w.auth.callbacks) :
    AllFit paseto keys fromisoformat settings w' := by
  obtain ⟨more, log⟩ := log
  obtain ⟨more', audits⟩ := audits
  intro j
  rw [log, audits, visits, stages]
  exact (fits j).later more more'

theorem allFit_callback {b : Nat} {code state : Option Str}
    (fits : AllFit paseto keys fromisoformat settings w) :
    AllFit paseto keys fromisoformat settings (callback i b code state w) := by
  unfold callback
  split
  · exact fits
  · rename_i fresh
    refine allFit_moved fits i ⟨[], by simp⟩ ⟨[], by simp⟩
      (fun j other => ⟨by simp [other], rfl⟩) ?_
    have waiting := fits i
    rw [fresh] at waiting
    change w.auth.callbacks i = .waiting at waiting
    rw [World.auth_setVisit, waiting, World.visits_setVisit, if_pos rfl]
    exact ⟨rfl, rfl⟩

theorem allFit_verify {answer : SocketAnswer} (fits : AllFit paseto keys fromisoformat settings w) :
    AllFit paseto keys fromisoformat settings
      (verify paseto keys fromisoformat settings i answer w) := by
  unfold verify
  split
  · rename_i v there waiting
    have before := fits i
    rw [there, waiting] at before
    have others : ∀ j, j ≠ i →
      (step fromisoformat settings w.auth
      (.verify i v.request (ssoAnswer paseto keys answer))).callbacks j =
        w.auth.callbacks j := fun j other =>
          step_others (by simpa [Event.callback] using Ne.symm other)
    refine allFit_moved fits i ⟨[], by simp⟩ ⟨[], by simp⟩
      (fun j other => ⟨by simp [other], others j other⟩) ?_
    dsimp only
    rw [World.visits_setVisit, if_pos rfl]
    simp only [step, waiting]
    split
    · rename_i a passed
      rw [put_callbacks, if_pos rfl]
      exact ⟨before.1, before.2, answer, w.auth.now, rfl,
        callbackVerify_ok paseto keys fromisoformat settings passed⟩
    · rw [put_callbacks, if_pos rfl]
      exact before.1
  · exact fits

theorem allFit_claim (fits : AllFit paseto keys fromisoformat settings w) :
    AllFit paseto keys fromisoformat settings
      { w with auth := step fromisoformat settings w.auth (.claim i) } := by
  have others : ∀ j, j ≠ i → (step fromisoformat settings w.auth (.claim i)).callbacks j =
      w.auth.callbacks j :=
    fun j other => step_others (by simpa [Event.callback] using Ne.symm other)
  refine allFit_moved fits i ⟨[], by simp⟩ ⟨[], by simp⟩ (fun j other => ⟨rfl, others j other⟩) ?_
  have before := fits i
  dsimp only
  simp only [step]
  split
  · rename_i a verified
    rw [verified] at before
    cases there : w.visits i with
    | none =>
      rw [there] at before
      cases before
    | some v =>
      rw [there] at before
      rw [put_callbacks, if_pos rfl]
      split
      · exact before
      · exact before.1
  · exact before

theorem allFit_grant (sessions : SessionStore σ) {db : Database} {token : Str}
    (fits : AllFit paseto keys fromisoformat settings w) :
    AllFit paseto keys fromisoformat settings
      (grant fromisoformat settings sessions i db token w) := by
  have others : ∀ j, j ≠ i → (step fromisoformat settings w.auth (.grant i db)).callbacks j =
      w.auth.callbacks j :=
    fun j other => step_others (by simpa [Event.callback] using Ne.symm other)
  unfold grant
  split
  · rename_i v a there claimed
    have before := fits i
    rw [there, claimed] at before
    obtain ⟨tokenless, pending, checked⟩ := before
    dsimp only
    split
    · rename_i principal granted
      refine allFit_moved fits i ⟨_, by rw [World.serving_call, serve_log]; rfl⟩ ⟨[], by simp⟩
        (fun j other => ⟨by simp [other], others j other⟩) ?_
      rw [World.visits_call, World.visits_setVisit, if_pos rfl, World.auth_call,
        World.auth_setVisit]
      dsimp only
      simp only [step, claimed, granted, put_callbacks, if_true]
      refine ⟨checked, (callbackGrant_ok settings granted).principal, ⟨token, rfl, ?_⟩,
        fun answered => ?_⟩
      · exact ⟨⟨⟨w.auth.now, .create token principal⟩, _⟩,
          List.mem_append_right _ (List.mem_singleton_self _), rfl⟩
      · rw [pending] at answered
        rcases answered with wrong | wrong <;> cases wrong
    · rename_i exit refused
      refine allFit_moved fits i ⟨[], by simp⟩ ⟨[], by simp⟩
        (fun j other => ⟨rfl, others j other⟩) ?_
      dsimp only
      simp only [step, claimed, refused, put_callbacks, if_true, there]
      exact tokenless
  · exact fits

def Ended : Stage → Prop
  | .exited _ | .session _ _ => True
  | .waiting | .verified _ | .claimed _ => False

theorem auditOf_ended {assertion : Option VerifiedAssertion} {stage : Stage} {made : Db.AuditCall}
    (audited : auditOf assertion stage = some made) : Ended stage := by
  cases stage with
  | exited exit => trivial
  | session a principal => trivial
  | waiting => cases audited
  | verified a => cases audited
  | claimed a => cases audited

/-- Finishing changes the reply of a callback that has ended, and what it audits is audited before a
redirect is sent. -/
theorem finish_visit {v : Visit} (there : w.visits i = some v) :
    ∃ reply, (finish i w).visits i = some { v with reply } ∧
    (reply = v.reply ∨ Ended (w.auth.callbacks i) ∧ (reply = .crashed ∨
      ∀ made, auditOf v.assertion (w.auth.callbacks i) = some made →
        made ∈ (finish i w).audits)) := by
  unfold finish
  rw [there]
  dsimp only
  split
  · split
    · rename_i made _ audited
      split
      · refine ⟨.sent, by simp, Or.inr ⟨auditOf_ended audited, Or.inr fun made' same => ?_⟩⟩
        rw [audited] at same
        cases same
        exact List.mem_append_right _ (List.mem_singleton_self _)
      · exact ⟨.crashed, by simp, Or.inr ⟨auditOf_ended audited, Or.inl rfl⟩⟩
    · rename_i ended
      exact ⟨.crashed, by simp, Or.inr ⟨by rw [ended]; trivial, Or.inl rfl⟩⟩
    · exact ⟨v.reply, there, Or.inl rfl⟩
  · exact ⟨v.reply, there, Or.inl rfl⟩

theorem finish_others {j : Nat} (other : j ≠ i) : (finish i w).visits j = w.visits j := by
  unfold finish
  split
  · split
    · split
      · split <;> simp [other]
      · simp [other]
      · rfl
    · rfl
  · rfl

theorem allFit_finish (fits : AllFit paseto keys fromisoformat settings w) :
    AllFit paseto keys fromisoformat settings (finish i w) := by
  have before := fits i
  obtain ⟨auth, -, -, serving⟩ := finish_frame i w
  obtain ⟨more, audits⟩ := finish_audits i w
  refine allFit_moved fits i ⟨[], by rw [serving, List.append_nil]⟩ ⟨more, audits⟩
    (fun j other => ⟨finish_others other, by rw [auth]⟩) ?_
  rw [serving, auth]
  cases there : w.visits i with
  | none =>
    rw [there] at before
    rw [show finish i w = w by rw [finish, there], there]
    exact before
  | some v =>
    rw [there] at before
    obtain ⟨reply, same, rfl | ⟨ended, replied⟩⟩ := finish_visit there
    · rw [same, audits]
      simpa using before.later [] more
    rw [same]
    cases stage : w.auth.callbacks i with
    | exited exit =>
      rw [stage] at before
      exact before
    | session a principal =>
      rw [stage] at before replied
      refine ⟨before.checked, before.named, before.token, fun answered => ?_⟩
      rcases replied with crashed | audited
      · rcases answered with wrong | wrong <;> cases crashed.symm.trans wrong
      · exact audited _ rfl
    | waiting => exact absurd ended (by rw [stage]; exact id)
    | verified a => exact absurd ended (by rw [stage]; exact id)
    | claimed a => exact absurd ended (by rw [stage]; exact id)

theorem allFit_deliver (fits : AllFit paseto keys fromisoformat settings w) :
    AllFit paseto keys fromisoformat settings (deliver i w) := by
  unfold deliver
  split
  · rename_i v there
    split
    · rename_i sent
      refine allFit_moved fits i ⟨[], by simp⟩ ⟨[], by simp⟩
        (fun j other => ⟨by simp [other], rfl⟩) ?_
      have before := fits i
      rw [there] at before
      simp only [World.visits_setBrowser, World.visits_setVisit, if_true, World.auth_setBrowser,
        World.auth_setVisit,
        World.serving_setBrowser, World.serving_setVisit, World.audits_setBrowser,
          World.audits_setVisit]
      cases stage : w.auth.callbacks i with
      | exited exit =>
        rw [stage] at before
        exact before
      | session a principal =>
        rw [stage] at before
        exact ⟨before.checked, before.named, before.token, fun _ => before.audited (Or.inl sent)⟩
      | waiting =>
        rw [stage] at before
        cases before.2.symm.trans sent
      | verified a =>
        rw [stage] at before
        cases before.2.1.symm.trans sent
      | claimed a =>
        rw [stage] at before
        cases before.2.1.symm.trans sent
    · exact fits
  · exact fits

theorem callbacks_quiet {e : Event} (quiet : e.callback = none) :
    (step fromisoformat settings w.auth e).callbacks = w.auth.callbacks :=
  funext fun i => step_others (by rw [quiet]; exact nofun)

theorem allFit_step (sessions : SessionStore σ) (e : RelayEvent)
    (fits : AllFit paseto keys fromisoformat settings w) :
    AllFit paseto keys fromisoformat settings
      (relayStep paseto keys fromisoformat settings sessions w e) := by
  cases e with
  | callback i b code state => exact allFit_callback fits
  | verify i reply => exact allFit_verify fits
  | claim i => exact allFit_claim fits
  | grant i db token => exact allFit_grant sessions fits
  | finish i => exact allFit_finish fits
  | deliver i => exact allFit_deliver fits
  | tick now => exact allFit_still fits (log_step _) (audits_step _) rfl (callbacks_quiet rfl)
  | prune => exact allFit_still fits (log_step _) (audits_step _) rfl (callbacks_quiet rfl)
  | begin b reply =>
    exact allFit_still fits (log_step _) (audits_step _) (by simp [relayStep]) (by simp [relayStep])
  | request b =>
    exact allFit_still fits (log_step _) (audits_step _) (by simp [relayStep]) (by simp [relayStep])
  | logout j b =>
    exact allFit_still fits (log_step _) (audits_step _) (by simp [relayStep]) (by simp [relayStep])
  | revoke j =>
    exact allFit_still fits (log_step _) (audits_step _) (by simp [relayStep]) (by simp [relayStep])
  | leave j =>
    exact allFit_still fits (log_step _) (audits_step _) (by simp [relayStep]) (by simp [relayStep])

end

end Rosadmin.Relay
