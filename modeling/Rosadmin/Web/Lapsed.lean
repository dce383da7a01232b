import Rosadmin.Roster.Repeat
import Rosadmin.Roster.Survival
import Rosadmin.Web.Auth

/-!
# A lapsed member's login

The gate reads a member's stored assessment and ban, and not the standing. A
lapse leaves the assessment as the last record stored had it, so it keeps no
leader out.
-/

namespace Rosadmin
open Foundation

theorem keyed_runPulls {server : Server} {db : Database} (keyed : db.Keyed) (pulls : List Pull) :
    (runPulls server pulls db).Keyed := by
  induction pulls generalizing db with
  | nil => exact keyed
  | cons pull pulls ih =>
    refine ih ?_
    show (pull.run server db).Keyed
    cases pulled : pullIn server pull.members pull.dryRun db with
    | ok result =>
      rw [Pull.run_committed pulled]
      exact keyed_of_pull keyed pulled
    | error error =>
      rw [Pull.run_aborted pulled]
      exact keyed

namespace Auth
open Sso

/-- Whose callback an event is a part of. -/
def Event.callback : Event → Option Nat
  | .verify i _ _ | .claim i | .grant i _ => some i
  | .tick _ | .prune => none

section
variable (fromisoformat : Str → Option Timestamp) (settings : SsoSettings)

/-- Where callback `i` ends, with what else happens before its claim and between that and its
lookup. -/
def callbackEnd (s : State) (i : Nat) (request : CallbackRequest) (answer : SsoAnswer)
    (waits awaits : List Event) (db : Database) : Stage :=
  ((Event.verify i request answer :: waits ++ Event.claim i :: awaits ++ [Event.grant i db]).foldl
    (step fromisoformat settings) s).callbacks i

/-- The single-use record as callback `i` finds it. -/
def claimTable (s : State) (i : Nat) (request : CallbackRequest) (answer : SsoAnswer)
    (waits : List Event) : List JtiReplayRow :=
  ((Event.verify i request answer :: waits).foldl (step fromisoformat settings) s).jtiReplay

variable {fromisoformat settings} {s : State} {i : Nat} {request : CallbackRequest}
    {answer : SsoAnswer} {waits awaits : List Event} {db : Database} {a : VerifiedAssertion}

theorem step_others {e : Event} (others : e.callback ≠ some i) :
    (step fromisoformat settings s e).callbacks i = s.callbacks i := by
  cases e with
  | tick now =>
    simp only [step]
    split <;> rfl
  | verify j request answer =>
    have elsewhere : i ≠ j := fun same => others (by rw [same]; rfl)
    simp only [step]
    split
    · split <;> simp [elsewhere]
    · rfl
  | claim j =>
    have elsewhere : i ≠ j := fun same => others (by rw [same]; rfl)
    simp only [step]
    split
    · simp [elsewhere]
    · rfl
  | grant j db =>
    have elsewhere : i ≠ j := fun same => others (by rw [same]; rfl)
    simp only [step]
    split
    · split <;> simp [elsewhere]
    · rfl
  | prune => rfl

theorem run_others {events : List Event} (others : ∀ e ∈ events, e.callback ≠ some i) :
    (events.foldl (step fromisoformat settings) s).callbacks i = s.callbacks i := by
  induction events generalizing s with
  | nil => rfl
  | cons e events ih =>
    rw [List.foldl_cons, ih (fun e' later => others e' (List.mem_cons_of_mem _ later)),
      step_others (others e List.mem_cons_self)]

/-- What callback `i` ends in, once verified, is settled by the record it claims in and the rows it
looks up. -/
theorem callbackEnd_verified (waiting : s.callbacks i = .waiting)
    (verified : callbackVerify fromisoformat settings request answer s.now = .ok a)
    (waitsOthers : ∀ e ∈ waits, e.callback ≠ some i)
    (awaitsOthers : ∀ e ∈ awaits, e.callback ≠ some i) :
    callbackEnd fromisoformat settings s i request answer waits awaits db =
      if (claim a.jti a.exp (claimTable fromisoformat settings s i request answer waits)).1 then
        match callbackGrant settings a db with
          | .ok principal => .session a principal
          | .error exit => .exited exit
      else .exited (.denied (str "replay")) := by
  have start : step fromisoformat settings s (.verify i request answer) =
      s.put i (.verified a) := by
    simp [step, waiting, verified]
  have held : (waits.foldl (step fromisoformat settings) (s.put i (.verified a))).callbacks i =
      .verified a := by
    rw [run_others waitsOthers]
    simp
  rw [callbackEnd, claimTable, List.foldl_append, List.foldl_append, List.foldl_cons,
    List.foldl_cons, List.foldl_cons, start]
  generalize waits.foldl (step fromisoformat settings) (s.put i (.verified a)) = found at held ⊢
  have claimed : (awaits.foldl (step fromisoformat settings)
      (step fromisoformat settings found (.claim i))).callbacks i =
        if (claim a.jti a.exp found.jtiReplay).1 then .claimed a
          else .exited (.denied (str "replay")) := by
    rw [run_others awaitsOthers]
    simp [step, held]
  generalize awaits.foldl (step fromisoformat settings)
    (step fromisoformat settings found (.claim i)) = left at claimed ⊢
  simp only [List.foldl_nil, step, claimed]
  cases won : (claim a.jti a.exp found.jtiReplay).1 with
  | false => simp [claimed, won]
  | true =>
    simp only [if_true]
    cases callbackGrant settings a db <;> simp

theorem callbackGrant_row {row : MembersRow} {discordId : Int} (keyed : db.Keyed)
    (member : a.standing = .member) (home : a.guild = settings.guildId)
    (reads : intOfStr a.discordId = some discordId) (present : row ∈ db.members)
    (mine : row.discordUserId = some discordId) :
    callbackGrant settings a db = (do
      ensure (!db.banned row.id) (.denied (str "banned"))
      ensure (row.leadershipAssessment = .leader) (.denied (str "not_chapter_leader"))
      return ⟨a.discordId⟩) := by
  have found : db.gateLookup discordId = some ⟨row.id, row.leadershipAssessment,
      db.banned row.id⟩ := by
    cases search : db.members.find? (fun m => m.discordUserId = some discordId) with
    | none => exact absurd (List.find?_eq_none.mp search row present) (by simpa using mine)
    | some other =>
      have theirs : other.discordUserId = some discordId := by simpa using List.find?_some search
      rw [Database.gateLookup, search,
        row_of_nullable keyed.members.discordIds present
          (List.mem_of_find?_eq_some search) mine theirs]
      rfl
  simp [callbackGrant, member, home, reads, found, ensure, bind, Except.bind]

theorem claim_lost {jti : Str} {expiresAt : Time} {table : List JtiReplayRow} :
    (claim jti expiresAt table).1 = false ↔ jti ∈ table.map (·.jti) := by
  unfold claim
  split
  · rename_i used
    exact iff_of_true rfl used
  · rename_i unused
    exact iff_of_false Bool.noConfusion unused

/-- A lapsed member is refused a session when the assertion was used before, when banned, or when no
leader by the stored assessment; and only then. -/
theorem lapsed_refused_iff {row : MembersRow} {discordId : Int} (keyed : db.Keyed)
    (waiting : s.callbacks i = .waiting)
    (verified : callbackVerify fromisoformat settings request answer s.now = .ok a)
    (member : a.standing = .member) (waitsOthers : ∀ e ∈ waits, e.callback ≠ some i)
    (awaitsOthers : ∀ e ∈ awaits, e.callback ≠ some i)
    (reads : intOfStr a.discordId = some discordId) (present : row ∈ db.members)
    (mine : row.discordUserId = some discordId) (_lapsed : row.standing = .lapsed) :
    (∀ b principal,
      callbackEnd fromisoformat settings s i request answer waits awaits db ≠
        .session b principal) ↔
      a.jti ∈ (claimTable fromisoformat settings s i request answer waits).map (·.jti) ∨
        db.banned row.id = true ∨ row.leadershipAssessment ≠ .leader := by
  obtain ⟨claims, -, attested⟩ := callbackVerify_claims fromisoformat settings verified
  have granted := callbackGrant_row keyed member attested.guild.2 reads present mine
  have lost : (claim a.jti a.exp (claimTable fromisoformat settings s i request answer waits)).1 =
    false ↔
      a.jti ∈ (claimTable fromisoformat settings s i request answer waits).map (·.jti) := claim_lost
  rw [callbackEnd_verified waiting verified waitsOthers awaitsOthers, ← lost, granted]
  cases won :
    (claim a.jti a.exp (claimTable fromisoformat settings s i request answer waits)).1 with
  | false => simp
  | true =>
    by_cases banned : db.banned row.id = true
    · simp [banned, ensure, bind, Except.bind]
    · by_cases leader : row.leadershipAssessment = .leader
      · simp [banned, leader, ensure, bind, Except.bind, pure, Except.pure]
      · simp [banned, leader, ensure, bind, Except.bind]

end

/-! ### Two leaders who have lapsed -/

/-- The second roster no longer names the leader. -/
def lostLeader : List Pull := [⟨[{ leaderRecord with discordId := some 42 }], false⟩, ⟨[], false⟩]

/-- The second roster names the leader as lapsed. -/
def lapsedLeader : List Pull :=
  [⟨[{ leaderRecord with discordId := some 42 }], false⟩,
    ⟨[{ leaderRecord with discordId := some 42, standing := .lapsed }], false⟩]

def leaderRequest : CallbackRequest := ⟨some (str "s"), some (str "c"), some (str "s")⟩

/-- After the pulls a lapsed member signs in. -/
def LapsedSession (pulls : List Pull) : Prop :=
  ∃ row ∈ (runPulls textServer pulls .empty).members, row.discordUserId = some 42 ∧
    row.standing = .lapsed ∧
    callbackEnd instantOf homeSettings (.initial 0 []) 0 leaderRequest (.token leaderClaims) [] []
      (runPulls textServer pulls .empty) =
        .session ⟨str "42", str "1000", .member, str "a1", 300000000⟩ ⟨str "42"⟩

theorem lapsed_leader_logs_in : LapsedSession lostLeader ∧ LapsedSession lapsedLeader := by
  unfold LapsedSession
  decide +kernel

/-- Used once already, the same assertion gets the same leader no session. -/
theorem lapsed_refused_iff_replayed : ¬∃ b principal,
    callbackEnd instantOf homeSettings (.initial 0 [⟨str "a1", 300000000⟩]) 0 leaderRequest
      (.token leaderClaims)
      [.tick 5] [.prune] (runPulls textServer lostLeader .empty) = .session b principal := by
  have keyed : (runPulls textServer lostLeader .empty).Keyed :=
    keyed_runPulls Database.empty_valid.keyed lostLeader
  obtain ⟨row, present, mine, lapsed⟩ : ∃ row ∈ (runPulls textServer lostLeader .empty).members,
      row.discordUserId = some 42 ∧ row.standing = .lapsed := by decide +kernel
  have verified : callbackVerify instantOf homeSettings leaderRequest (.token leaderClaims) 0 =
      .ok ⟨str "42", str "1000", .member, str "a1", 300000000⟩ := by decide +kernel
  rintro ⟨b, principal, ends⟩
  refine (lapsed_refused_iff keyed rfl verified rfl ?_ ?_ (by decide) present mine lapsed).mpr
    (Or.inl ?_) b principal ends
  · simp [Event.callback]
  · simp [Event.callback]
  · decide +kernel

end Auth

end Rosadmin
