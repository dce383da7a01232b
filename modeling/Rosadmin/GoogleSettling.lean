import Rosadmin.GooglePlainly
import Rosadmin.Sweep.Minting

/-!
# A change shows in time

Where no error strikes and the services lag by less than a minute, no poll gives
up: the creation that waits ends as the plain one does.
-/

namespace Rosadmin.Propagation
open Foundation

/-- No error strikes, no service lags by more than `lag`, none goes back in time, and a call takes
`spent` at most. -/
structure Calm (google : ReplicatedCalls) (lag spent : Nat) : Prop where
  unstruck : ∀ n, google.fates n = none
  settings : ∀ n, google.settingsDelay n ≤ lag
  labels : ∀ n, google.labelsDelay n ≤ lag
  settingsOn : ∀ n, google.settingsDelay (n + 1) ≤ google.settingsDelay n + google.took n
  labelsOn : ∀ n, google.labelsDelay (n + 1) ≤ google.labelsDelay n + google.took n
  brief : ∀ n, google.took n ≤ spent

/-- Both services show what was written at `t`, and will. -/
def Showing (google : ReplicatedCalls) (t : Nat) (g : Replicated) : Prop :=
  t + google.settingsDelay g.calls ≤ g.clock ∧ t + google.labelsDelay g.calls ≤ g.clock

def HasGroup (email : Email) (h : Held) : Prop := ∃ group, h.groups.get? email = some group

section
variable {google : ReplicatedCalls} {lag spent t now delay id : Nat} {email : Email}
    {b : GoogleGroupBuilder} {g : Replicated}

theorem Showing.called (calm : Calm google lag spent) (showing : Showing google t g) :
    Showing google t (g.called google) := by
  have settings := calm.settingsOn g.calls
  have labels := calm.labelsOn g.calls
  unfold Showing at showing ⊢
  dsimp only [Replicated.called]
  omega

theorem Showing.sleep (showing : Showing google t g) (pause : Nat) :
    Showing google t (g.sleep pause) :=
  ⟨Nat.le_trans showing.1 (Nat.le_add_right _ _), Nat.le_trans showing.2 (Nat.le_add_right _ _)⟩

theorem ask_calm {α : Type} (calm : Calm google lag spent) (view : Replicated → Held)
    (read : Held → Except HttpError α) (g : Replicated) :
    ask google view read g = (read (view g), g.called google) := by
  rw [ask, calm.unstruck]

theorem change_calm {α : Type} (calm : Calm google lag spent)
    (perform : Held → Except HttpError α × Held) (g : Replicated) :
    change google perform g = ((perform g.held).1, (g.called google).write (perform g.held).2) := by
  rw [change, calm.unstruck]

theorem settingsOf_there {group : RemoteGroup} {h : Held}
    (there : h.groups.get? email = some group) : settingsOf email h = .ok group.settings := by
  rw [settingsOf, getGroup, there]
  rfl

theorem labelsOf_there {group : RemoteGroup} {h : Held} (there : h.groups.get? email = some group)
    (same : h.generation email = id) : labelsOf email id h = .ok group.labels := by
  rw [labelsOf, if_pos same, getGroup, there]
  rfl

theorem settingsOf_missing {h : Held} (missing : ¬HasGroup email h) :
    settingsOf email h = .error ⟨404, []⟩ := by
  cases there : h.groups.get? email with
  | some group => exact absurd ⟨group, there⟩ missing
  | none =>
    rw [settingsOf, getGroup, there]
    rfl

theorem labelsOf_missing {h : Held} (missing : ¬HasGroup email h) :
    labelsOf email id h = .error ⟨404, []⟩ := by
  cases there : h.groups.get? email with
  | some group => exact absurd ⟨group, there⟩ missing
  | none =>
    rw [labelsOf, getGroup, there]
    split <;> rfl

/-! ### Waiting -/

/-- Only time has passed. -/
structure Since (g s : Replicated) : Prop where
  history : s.history = g.history
  clock : g.clock ≤ s.clock

theorem Since.refl (g : Replicated) : Since g g := ⟨rfl, Nat.le_refl _⟩

theorem Since.called {s : Replicated} (since : Since g s) : Since g (s.called google) :=
  ⟨since.history, called_clock google s since.clock⟩

theorem Since.sleep {s : Replicated} {pause : Nat} (since : Since g s) : Since g (s.sleep pause) :=
  ⟨since.history, Nat.le_trans since.clock (Nat.le_add_right _ _)⟩

/-- What is only waited for until some time before the ceiling shows. -/
theorem poll_shows {visible : Replicated → Except HttpError Bool × Replicated}
    (inv : Replicated → Prop) (ready spent : Nat)
    (forward : ∀ t g, t ≤ g.clock → t ≤ (visible g).2.clock)
    (asking : ∀ s, inv s → inv (visible s).2) (sleeping : ∀ t s, inv s → inv (s.sleep t))
    (here : inv g) (brief : ∀ s, (visible s).2.clock ≤ s.clock + spent)
    (inTime : ready + spent < g.clock + 60000)
    (waits : ∀ s, inv s → (visible s).1 = .ok true ∨ (visible s).1 = .ok false ∧ s.clock < ready) :
    (poll visible g).1 = .ok () ∧ ∃ s, inv s ∧ visible s = (.ok true, (poll visible g).2) := by
  have shows : ((polling visible).pollUntil g).1 = .ok () := by
    refine Polling.pollUntil_shows (polling_timed forward) inv asking sleeping here ready spent
      (fun s _ => brief s) inTime ?_
    intro s there
    exact (waits s there).imp_right fun hidden =>
      ⟨hidden.2, by rw [show ((polling visible).visible s).1 = _ from hidden.1]; rfl⟩
  have polled : (poll visible g).1 = .ok () := by
    rw [poll, shows]
    rfl
  exact ⟨polled, poll_shown inv forward asking sleeping here polled⟩

/-! ### The insert -/

/-- The services are shown the insert at `t`, or what was there before it. -/
structure Inserted (lag t : Nat) (email : Email) (id : Nat) (history : History Held) : Prop where
  shows : ∀ delay ≤ lag, ∀ now, t ≤ now →
    if t + delay ≤ now then HasGroup email (history.asOf delay now) ∧
      (history.asOf delay now).generation email = id
    else ¬HasGroup email (history.asOf delay now)

/-- Until both services show the insert, the group is not visible. -/
theorem creationVisible_calm (calm : Calm google lag spent)
    (inserted : Inserted lag t email id g.history) (since : t ≤ g.clock) :
    ((creationVisible google email id g).1 = .ok true ∧
      Showing google t (creationVisible google email id g).2) ∨
      ((creationVisible google email id g).1 = .ok false ∧ g.clock < t + lag) := by
  have first := inserted.shows _ (calm.settings g.calls) g.clock since
  have second := inserted.shows _ (calm.labels (g.calls + 1)) (g.called google).clock
    (Nat.le_trans since (Nat.le_add_right _ _))
  unfold creationVisible rawGetSettings
  rw [ask_calm calm]
  by_cases shown : t + google.settingsDelay g.calls ≤ g.clock
  · rw [if_pos shown] at first
    obtain ⟨⟨group, there⟩, -⟩ := first
    rw [settingsOf_there there]
    dsimp only [andThen]
    unfold rawGetLabels
    rw [ask_calm calm]
    by_cases labelled : t + google.labelsDelay (g.calls + 1) ≤ (g.called google).clock
    · rw [if_pos labelled] at second
      obtain ⟨⟨group', there'⟩, same⟩ := second
      have read : labelsOf email id ((g.called google).history.asOf
        (google.labelsDelay (g.called google).calls)
        (g.called google).clock) = .ok group'.labels := labelsOf_there there' same
      rw [read]
      have settings := calm.settingsOn g.calls
      have settings' := calm.settingsOn (g.calls + 1)
      have labels := calm.labelsOn (g.calls + 1)
      refine Or.inl ⟨rfl, ?_⟩
      unfold Showing
      dsimp only [Replicated.called] at labelled ⊢
      omega
    · rw [if_neg labelled] at second
      have read : labelsOf email id ((g.called google).history.asOf
        (google.labelsDelay (g.called google).calls)
        (g.called google).clock) = .error ⟨404, []⟩ := labelsOf_missing second
      rw [read]
      have lags := calm.labels (g.calls + 1)
      refine Or.inr ⟨rfl, ?_⟩
      dsimp only [Replicated.called] at labelled
      omega
  · rw [if_neg shown] at first
    rw [settingsOf_missing first]
    have lags := calm.settings g.calls
    exact Or.inr ⟨rfl, by omega⟩

theorem creationVisible_brief (calm : Calm google lag spent) (g : Replicated) :
    (creationVisible google email id g).2.clock ≤ g.clock + 2 * spent := by
  have first := calm.brief g.calls
  have second := calm.brief (g.calls + 1)
  unfold creationVisible rawGetSettings
  rw [ask_calm calm]
  cases settingsOf email (g.history.asOf (google.settingsDelay g.calls) g.clock) with
  | error error =>
    dsimp only [andThen]
    split <;> dsimp only [Replicated.called] <;> omega
  | ok settings =>
    dsimp only [andThen]
    unfold rawGetLabels
    rw [ask_calm calm]
    cases labelsOf email id _ with
    | error error =>
      dsimp only
      split <;> dsimp only [Replicated.called] <;> omega
    | ok labels =>
      dsimp only [Replicated.called]
      omega

theorem creation_shows (calm : Calm google lag spent) (inTime : lag + 2 * spent < 60000)
    (inserted : Inserted lag t email id g.history) (since : t ≤ g.clock) :
    (poll (creationVisible google email id) g).1 = .ok () ∧
      (poll (creationVisible google email id) g).2.history = g.history ∧
      t ≤ (poll (creationVisible google email id) g).2.clock ∧
        Showing google t (poll (creationVisible google email id) g).2 := by
  have asking : ∀ s, Since g s → Since g (creationVisible google email id s).2 :=
    fun s here => creationVisible_keeps (Since g) (fun _ there => there.called) here
  have waits : ∀ s, Since g s → ((creationVisible google email id s).1 = .ok true ∧
      Showing google t (creationVisible google email id s).2) ∨
        ((creationVisible google email id s).1 = .ok false ∧ s.clock < t + lag) :=
    fun s here => creationVisible_calm calm (here.history ▸ inserted)
      (Nat.le_trans since here.clock)
  obtain ⟨polled, s, here, seen⟩ := poll_shows (Since g) (t + lag) (2 * spent)
    (fun t _ here => creationVisible_keeps (t ≤ ·.clock) (called_clock google) here) asking
      (fun _ _ here => here.sleep) (Since.refl g)
    (creationVisible_brief calm) (by omega) fun s here => (waits s here).imp_left And.left
  have there := asking s here
  have last := waits s here
  rw [seen] at there last
  refine ⟨polled, there.history, Nat.le_trans since there.clock, ?_⟩
  rcases last with ⟨-, showing⟩ | ⟨hidden, -⟩
  · exact showing
  · cases hidden

/-! ### The patches -/

/-- The services are shown the group from `t` on, and as it was asked for from `done` on. -/
structure Configured (t done : Nat) (b : GoogleGroupBuilder) (id : Nat) (history : History Held) :
    Prop where
  there : ∀ delay now, t + delay ≤ now →
    HasGroup b.email (history.asOf delay now) ∧ (history.asOf delay now).generation b.email = id
  shows : ∀ delay now, done + delay ≤ now → ∃ group,
    (history.asOf delay now).groups.get? b.email = some group ∧
    agreesOn b.settings group.settings = true ∧ group.labels = b.labels

theorem agreesOn_self (d : Dict Str Str) : agreesOn d d = true :=
  List.all_eq_true.mpr fun _ member => decide_eq_true (Dict.get?_eq_some_iff.mpr member)

/-- No read of a group that both services show fails. -/
theorem settingsMatch_calm {done : Nat} (calm : Calm google lag spent)
    (configured : Configured t done b id g.history) (showing : Showing google t g) :
    (settingsMatch google b id g).1 = .ok true ∨ (settingsMatch google b id g).1 = .ok false ∧
      g.clock < done + lag := by
  have lagged := calm.settings g.calls
  have lagged' := calm.labels (g.calls + 1)
  have onward := (showing.called calm).2
  obtain ⟨⟨group, there⟩, -⟩ := configured.there _ _ showing.1
  obtain ⟨⟨group', there'⟩, same⟩ := configured.there _ _ onward
  unfold settingsMatch rawGetSettings rawGetLabels
  rw [ask_calm calm, settingsOf_there there]
  dsimp only [andThen]
  by_cases matched : agreesOn b.settings group.settings = true
  · have read : labelsOf b.email id ((g.called google).history.asOf
      (google.labelsDelay (g.called google).calls)
      (g.called google).clock) = .ok group'.labels := labelsOf_there there' same
    rw [matched, ask_calm calm, read]
    dsimp only [Bool.not_true, Bool.false_eq_true, if_false]
    by_cases early : g.clock < done + lag
    · cases agreesOn b.labels group'.labels && agreesOn group'.labels b.labels with
      | true => exact Or.inl rfl
      | false => exact Or.inr ⟨rfl, early⟩
    · have late : done + google.labelsDelay (g.calls + 1) ≤ (g.called google).clock := by
        dsimp only [Replicated.called]
        omega
      obtain ⟨group'', there'', -, labels⟩ := configured.shows _ _ late
      cases there'.symm.trans there''
      rw [labels, agreesOn_self]
      exact Or.inl rfl
  · refine Or.inr ⟨by rw [Bool.eq_false_of_not_eq_true matched]; rfl, ?_⟩
    by_contra late
    obtain ⟨group'', there'', settings, -⟩ :=
      configured.shows _ g.clock (show done + google.settingsDelay g.calls ≤ _ by omega)
    cases there.symm.trans there''
    exact matched settings

theorem settingsMatch_brief (calm : Calm google lag spent) (g : Replicated) :
    (settingsMatch google b id g).2.clock ≤ g.clock + 2 * spent := by
  have first := calm.brief g.calls
  have second := calm.brief (g.calls + 1)
  unfold settingsMatch rawGetSettings
  rw [ask_calm calm]
  cases settingsOf b.email (g.history.asOf (google.settingsDelay g.calls) g.clock) with
  | error error =>
    dsimp only [andThen, Replicated.called]
    omega
  | ok settings =>
    dsimp only [andThen]
    split
    · dsimp only [Replicated.called]
      omega
    · unfold rawGetLabels
      rw [ask_calm calm]
      cases labelsOf b.email id _ <;> dsimp only [Replicated.called] <;> omega

theorem settings_show {done : Nat} (calm : Calm google lag spent) (inTime : lag + 2 * spent < 60000)
    (configured : Configured t done b id g.history) (showing : Showing google t g)
    (since : done ≤ g.clock) :
    (poll (settingsMatch google b id) g).1 = .ok () := by
  refine (poll_shows (fun s => Since g s ∧ Showing google t s) (done + lag) (2 * spent)
    (fun t _ here => settingsMatch_keeps (t ≤ ·.clock) (called_clock google) here) ?_
      (fun _ _ here => ⟨here.1.sleep, here.2.sleep _⟩)
    ⟨Since.refl g, showing⟩ (settingsMatch_brief calm) (by omega) ?_).1
  · intro s here
    exact settingsMatch_keeps (fun s => Since g s ∧ Showing google t s)
      (fun _ there => ⟨there.1.called, there.2.called calm⟩) here
  · intro s here
    exact settingsMatch_calm calm (here.1.history ▸ configured) here.2

/-! ### What the directory does -/

def fresh (google : ReplicatedCalls) (b : GoogleGroupBuilder) : RemoteGroup :=
  ⟨b.name, b.description, google.freshSettings, google.freshLabels⟩

theorem insertNew_missing {h : Held} (missing : b.email ∉ h.groups) :
    insertNew google.freshSettings google.freshLabels b h = (.ok (h.generation b.email + 1),
      ⟨h.groups.set b.email (fresh google b),
        Function.update h.generation b.email (h.generation b.email + 1)⟩) := by
  unfold insertNew insertGroup
  rw [if_neg missing]
  rfl

theorem onGroups_labels {group : RemoteGroup} {h : Held}
    (there : h.groups.get? b.email = some group) : onGroups (patchLabels b.email b.labels) h =
      (.ok (), ⟨h.groups.set b.email { group with labels := b.labels }, h.generation⟩) := by
  rw [onGroups, patchLabels, there]

theorem onGroups_settings {group : RemoteGroup} {h : Held}
    (there : h.groups.get? b.email = some group) : onGroups (patchSettings b.email b.settings) h =
      (.ok (), ⟨h.groups.set b.email { group with settings := patched group.settings b.settings },
        h.generation⟩) := by
  rw [onGroups, patchSettings, there]

theorem get?_set_self (groups : Groups) (email : Email) (group : RemoteGroup) :
    (groups.set email group).get? email = some group := by
  rw [Dict.get?_set, if_pos rfl]

/-- The address as the three calls leave it, one after another. -/
def made (google : ReplicatedCalls) (b : GoogleGroupBuilder) (groups : Groups) : Groups :=
  ((groups.set b.email (fresh google b)).set b.email { fresh google b with labels := b.labels }).set
    b.email
    { fresh google b with labels := b.labels, settings := patched google.freshSettings b.settings }

/-! ### The creation -/

theorem rawCreate_calm (calm : Calm google lag spent) (inTime : lag + 2 * spent < 60000)
    (settled : g.history.Settled lag g.clock) (missing : b.email ∉ g.groups) :
    ∃ t s, rawCreate google b g = (.ok (g.held.generation b.email + 1), s) ∧ Showing google t s ∧
      s.history = g.history.write t ⟨g.groups.set b.email (fresh google b),
        Function.update g.held.generation b.email (g.held.generation b.email + 1)⟩ := by
  have absent : ¬HasGroup b.email g.held := fun there =>
    missing (Dict.mem_of_get? there.choose_spec)
  let t := (g.called google).clock
  let h : Held := ⟨g.groups.set b.email (fresh google b),
    Function.update g.held.generation b.email (g.held.generation b.email + 1)⟩
  have inserted : Inserted lag t b.email (g.held.generation b.email + 1) (g.history.write t h) := by
    refine ⟨fun delay within now since => ?_⟩
    rw [History.asOf_write]
    by_cases old : t + delay ≤ now
    · rw [if_pos old, if_pos old]
      exact ⟨⟨_, get?_set_self _ _ _⟩, Function.update_self _ _ _⟩
    · rw [if_neg old, if_neg old,
        (settled.mono (Nat.le_trans (called_clock google g (Nat.le_refl _)) since)).asOf within]
      exact absent
  obtain ⟨polled, history, -, showing⟩ :=
    creation_shows (g := (g.called google).write h) calm inTime inserted (Nat.le_refl _)
  refine ⟨t, _, ?_, showing, history⟩
  have asked : change google (insertNew google.freshSettings google.freshLabels b) g =
      (.ok (g.held.generation b.email + 1), (g.called google).write h) := by
    rw [change_calm calm, insertNew_missing missing]
    rfl
  rw [rawCreate, asked]
  dsimp only [raises, andThen, Except.mapError]
  revert polled
  rcases poll _ ((g.called google).write h) with ⟨_, s⟩
  rintro ⟨⟩
  rfl

theorem rawConfigure_calm {group : RemoteGroup} (calm : Calm google lag spent)
    (inTime : lag + 2 * spent < 60000) (there : ∀ delay now, t + delay ≤ now →
      HasGroup b.email (g.history.asOf delay now) ∧
        (g.history.asOf delay now).generation b.email = id)
    (held : g.groups.get? b.email = some group) (same : g.held.generation b.email = id)
    (showing : Showing google t g) :
    ∃ s, rawConfigure google b id g = (.ok (), s) ∧ s.groups =
      (g.groups.set b.email { group with labels := b.labels }).set b.email
        { group with labels := b.labels, settings := patched group.settings b.settings } := by
  let labelled : Held := ⟨g.groups.set b.email { group with labels := b.labels }, g.held.generation⟩
  let g₁ := (g.called google).write labelled
  let done : Held :=
    ⟨labelled.groups.set b.email { group with
    labels := b.labels, settings := patched group.settings b.settings }, g.held.generation⟩
  let g₂ := (g₁.called google).write done
  have first : change google (onGroups (patchLabels b.email b.labels)) g = (.ok (), g₁) := by
    rw [change_calm calm, onGroups_labels held]
    rfl
  have second : change google (onGroups (patchSettings b.email b.settings)) g₁ = (.ok (), g₂) := by
    rw [change_calm calm, onGroups_settings (get?_set_self _ _ _)]
    rfl
  have shown : ∀ delay now, g₂.history.asOf delay now =
      if (g₁.called google).clock + delay ≤ now then done
        else if (g.called google).clock + delay ≤ now then labelled
          else g.history.asOf delay now := by
    intro delay now
    rw [show g₂.history = (g.history.write (g.called google).clock labelled).write
      (g₁.called google).clock done from rfl, History.asOf_write, History.asOf_write]
  have configured : Configured t (g₁.called google).clock b id g₂.history := by
    constructor
    · intro delay now since
      rw [shown]
      split
      · exact ⟨⟨_, get?_set_self _ _ _⟩, same⟩
      · split
        · exact ⟨⟨_, get?_set_self _ _ _⟩, same⟩
        · exact there delay now since
    · intro delay now late
      rw [shown, if_pos late]
      exact ⟨_, get?_set_self _ _ _, List.all_eq_true.mpr fun _ member =>
        decide_eq_true (get?_patched member), rfl⟩
  have polled := settings_show calm inTime configured ((showing.called calm).called calm)
    (Nat.le_refl _)
  have left : (poll (settingsMatch google b id) g₂).2.groups = done.groups :=
    (polling (settingsMatch google b id)).attempts_keeps (·.groups = done.groups)
      (fun _ here => settingsMatch_keeps (·.groups = done.groups) (fun _ still => still) here)
        (fun _ _ here => here) rfl
  refine ⟨_, ?_, left⟩
  rw [rawConfigure, first]
  dsimp only [raises, andThen, Except.mapError]
  rw [second]
  exact Prod.ext polled rfl

theorem created_calm (calm : Calm google lag spent) (inTime : lag + 2 * spent < 60000)
    (settled : g.history.Settled lag g.clock) (missing : b.email ∉ g.groups) :
    ∃ s, afterCreate google b (rawCreate google b g).1 (rawCreate google b g).2 =
      (.ok ⟨b.settings, b.labels⟩, s) ∧ s.groups = made google b g.groups := by
  obtain ⟨t, s, created, showing, history⟩ := rawCreate_calm calm inTime settled missing
  have held : s.held = _ := congrArg History.current history
  rw [History.current_write] at held
  have groups : s.groups = g.groups.set b.email (fresh google b) := congrArg Held.groups held
  have there : s.groups.get? b.email = some (fresh google b) := by rw [groups, get?_set_self]
  have same : s.held.generation b.email = g.held.generation b.email + 1 := by
    rw [held]
    exact Function.update_self _ _ _
  have shown : ∀ delay now, t + delay ≤ now → HasGroup b.email (s.history.asOf delay now) ∧
      (s.history.asOf delay now).generation b.email = g.held.generation b.email + 1 := by
    intro delay now since
    rw [history, History.asOf_write, if_pos since]
    exact ⟨⟨_, get?_set_self _ _ _⟩, Function.update_self _ _ _⟩
  obtain ⟨s', configured, left⟩ := rawConfigure_calm calm inTime shown there same showing
  refine ⟨s', ?_, ?_⟩
  · rw [created]
    dsimp only [afterCreate]
    rw [configured]
    rfl
  · rw [left, groups]
    rfl

theorem taken_calm {group : RemoteGroup} (calm : Calm google lag spent)
    (settled : g.history.Settled lag g.clock) (there : g.groups.get? b.email = some group) :
    ∃ s, afterCreate google b (rawCreate google b g).1 (rawCreate google b g).2 =
      (if b.existsBehavior = .link then .ok ⟨group.settings, group.labels⟩
        else .error (.http ⟨409, []⟩), s) ∧ s.groups = g.groups := by
  have refused : insertNew google.freshSettings google.freshLabels b g.held =
      (.error ⟨409, []⟩, g.held) := by
    have taken : b.email ∈ g.held.groups := Dict.mem_of_get? there
    rw [insertNew, insertGroup, if_pos taken]
  let g₁ := (g.called google).write g.held
  have created : rawCreate google b g = (.error (.http ⟨409, []⟩), g₁) := by
    rw [rawCreate, change_calm calm, refused]
    rfl
  have shown : ∀ delay ≤ lag, ∀ now, g.clock ≤ now → g₁.history.asOf delay now = g.held := by
    intro delay within now since
    rw [show g₁.history = g.history.write (g.called google).clock g.held from rfl,
      History.asOf_write]
    split
    · rfl
    · exact (settled.mono since).asOf within
  rw [created]
  by_cases links : b.existsBehavior = .link
  · have settings : (g₁.called google).history.asOf (google.settingsDelay (g₁.called google).calls)
        (g₁.called google).clock = g.held :=
      shown _ (calm.settings _) _ (called_clock google _ (called_clock google _ (Nat.le_refl _)))
    have labels : ((g₁.called google).called google).history.asOf
        (google.labelsDelay ((g₁.called google).called google).calls)
          ((g₁.called google).called google).clock = g.held :=
      shown _ (calm.labels _) _ (called_clock google
        _ (called_clock google _ (called_clock google _ (Nat.le_refl _))))
    have found : idOf b.email g₁.held = .ok (g.held.generation b.email) := by
      rw [show g₁.held = g.held from rfl, idOf, getGroup,
        show g.held.groups.get? b.email = some group from there]
      rfl
    refine ⟨((g₁.called google).called google).called google, ?_, rfl⟩
    dsimp only [afterCreate]
    rw [if_pos ⟨links, rfl⟩, if_pos links, rawFetch, rawGetId, ask_calm calm, found]
    dsimp only [raises, andThen, Except.mapError]
    rw [rawGetSettings, ask_calm calm, settings, settingsOf_there there]
    dsimp only
    rw [rawGetLabels, ask_calm calm, labels, labelsOf_there there rfl]
  · refine ⟨g₁, ?_, rfl⟩
    dsimp only [afterCreate]
    rw [if_neg fun adopts => links adopts.1, if_neg links]

/-! ### The plain calls -/

theorem plain_free (google : ReplicatedCalls) (b : GoogleGroupBuilder) {groups : Groups}
    (missing : b.email ∉ groups) (n : Nat) :
    ∃ n', Rosadmin.afterCreate (google.plain fun _ => .answered) b
        (Rosadmin.rawCreate (google.plain fun _ => .answered) b ⟨groups, n⟩).1
        (Rosadmin.rawCreate (google.plain fun _ => .answered) b ⟨groups, n⟩).2 =
      (.ok ⟨b.settings, b.labels⟩, ⟨made google b groups, n'⟩) := by
  have inserted : insertGroup (google.plain fun _ => .answered) b groups =
      (.ok (), groups.set b.email (fresh google b)) :=
    if_neg missing
  have created : Rosadmin.rawCreate (google.plain fun _ => .answered) b ⟨groups, n⟩ =
      (.ok (), ⟨groups.set b.email (fresh google b), n + 2⟩) := by
    rw [Rosadmin.rawCreate, call_answered rfl, inserted]
    rfl
  have labelled : patchLabels b.email b.labels (groups.set b.email (fresh google b)) =
      (.ok (), (groups.set b.email (fresh google b)).set b.email
        { fresh google b with labels := b.labels }) := by
    rw [patchLabels, get?_set_self]
  have done : patchSettings b.email b.settings
      ((groups.set b.email (fresh google b)).set b.email
        { fresh google b with labels := b.labels }) = (.ok (), made google b groups) := by
    rw [patchSettings, get?_set_self]
    rfl
  refine ⟨n + 5, ?_⟩
  rw [created]
  dsimp only [Rosadmin.afterCreate]
  rw [Rosadmin.rawConfigure, call_answered rfl, labelled]
  dsimp only [andThen, Except.mapError]
  rw [call_answered rfl, done]
  rfl

theorem plain_taken (google : ReplicatedCalls) {groups : Groups} {group : RemoteGroup}
    (there : groups.get? b.email = some group) (n : Nat) :
    ∃ n', Rosadmin.afterCreate (google.plain fun _ => .answered) b
        (Rosadmin.rawCreate (google.plain fun _ => .answered) b ⟨groups, n⟩).1
        (Rosadmin.rawCreate (google.plain fun _ => .answered) b ⟨groups, n⟩).2 =
      (if b.existsBehavior = .link then .ok ⟨group.settings, group.labels⟩
        else .error (.http ⟨409, []⟩), ⟨groups, n'⟩) := by
  have created : Rosadmin.rawCreate (google.plain fun _ => .answered) b ⟨groups, n⟩ =
      (.error (.http ⟨409, []⟩), ⟨groups, n + 1⟩) := by
    rw [Rosadmin.rawCreate, call_answered rfl, insertGroup, if_pos (Dict.mem_of_get? there)]
    rfl
  have found : getGroup b.email groups = (.ok group, groups) := by rw [getGroup, there]
  rw [created]
  dsimp only [Rosadmin.afterCreate]
  by_cases links : b.existsBehavior = .link
  · refine ⟨n + 4, ?_⟩
    rw [if_pos ⟨links, rfl⟩, if_pos links, Rosadmin.rawFetch, call_answered rfl, found]
    dsimp only [andThen, Except.mapError]
    rw [call_answered rfl, found]
    dsimp only [Except.mapError]
    rw [call_answered rfl, found]
    rfl
  · exact ⟨n + 1, by rw [if_neg fun adopts => links adopts.1, if_neg links]⟩

theorem getGroup_missing {groups : Groups} (missing : email ∉ groups) :
    getGroup email groups = (.error ⟨404, []⟩, groups) := by
  cases there : groups.get? email with
  | some group => exact absurd (Dict.mem_of_get? there) missing
  | none => rw [getGroup, there]

/-- At an address that is not to be freed first, both creations end the same. -/
theorem afterCreate_settles (calm : Calm google lag spent) (inTime : lag + 2 * spent < 60000)
    (settled : g.history.Settled lag g.clock) (n : Nat) :
    (afterCreate google b (rawCreate google b g).1 (rawCreate google b g).2).1 =
        (Rosadmin.afterCreate (google.plain fun _ => .answered) b
          (Rosadmin.rawCreate (google.plain fun _ => .answered) b ⟨g.groups, n⟩).1
          (Rosadmin.rawCreate (google.plain fun _ => .answered) b ⟨g.groups, n⟩).2).1 ∧
      (afterCreate google b (rawCreate google b g).1 (rawCreate google b g).2).2.groups =
        (Rosadmin.afterCreate (google.plain fun _ => .answered) b
          (Rosadmin.rawCreate (google.plain fun _ => .answered) b ⟨g.groups, n⟩).1
          (Rosadmin.rawCreate (google.plain fun _ => .answered) b ⟨g.groups, n⟩).2).2.groups := by
  cases there : g.groups.get? b.email with
  | some group =>
    obtain ⟨s, ends, left⟩ := taken_calm calm settled there
    obtain ⟨n', plainly⟩ := plain_taken google there n
    rw [ends, plainly]
    exact ⟨rfl, left⟩
  | none =>
    have missing : b.email ∉ g.groups := fun member => by
      obtain ⟨group, item⟩ := Dict.mem_iff_item.mp member
      cases there.symm.trans (Dict.get?_eq_some_iff.mpr item)
    obtain ⟨s, ends, left⟩ := created_calm calm inTime settled missing
    obtain ⟨n', plainly⟩ := plain_free google b missing n
    rw [ends, plainly]
    exact ⟨rfl, left⟩

/-- Where no error strikes, neither service lags by a minute less two calls, and what was written
before has settled, no poll gives up: a creation ends, and leaves the directory, as the plain
sequence of calls does. Freeing the address first is left out: its deletion is awaited at the
directory alone. -/
theorem creation_settles (calm : Calm google lag spent) (inTime : lag + 2 * spent < 60000)
    (settled : g.history.Settled lag g.clock)
    (free : b.existsBehavior = .replace → b.email ∉ g.groups) :
    (buildRemote google b g).1 = (Rosadmin.buildRemote (google.plain fun _ => .answered) b
      ⟨g.groups, 0⟩).1 ∧ (buildRemote google b g).2.groups =
        (Rosadmin.buildRemote (google.plain fun _ => .answered) b ⟨g.groups, 0⟩).2.groups := by
  unfold buildRemote Rosadmin.buildRemote
  by_cases replaces : b.existsBehavior = .replace
  · have missing := getGroup_missing (free replaces)
    have cleared : rawDelete google b.email g = (.ok (), g.called google) := by
      rw [rawDelete, rawGetId, ask_calm calm, idOf,
        show getGroup b.email g.held.groups = _ from missing]
      rfl
    have cleared' : Rosadmin.rawDelete (google.plain fun _ => .answered) b.email ⟨g.groups, 0⟩ =
        (.ok (), ⟨g.groups, 1⟩) := by
      rw [Rosadmin.rawDelete, call_answered rfl, missing]
      rfl
    rw [if_pos replaces, if_pos replaces, cleared, cleared']
    exact afterCreate_settles (g := g.called google) calm inTime
      (settled.mono (called_clock google g (Nat.le_refl _))) 1
  · rw [if_neg replaces, if_neg replaces]
    exact afterCreate_settles calm inTime settled 0

end

/-- The settings are five seconds behind and the labels three, and a call takes a tenth of a
second. -/
def behind : ReplicatedCalls :=
  ⟨fun _ => none, fun _ => 5000, fun _ => 3000, fun _ => 100, Dict.empty, Dict.empty⟩

theorem behind_calm : Calm behind 5000 100 where
  unstruck := fun _ => rfl
  settings := fun _ => Nat.le_refl _
  labels := fun _ => Nat.le_of_ble_eq_true rfl
  settingsOn := fun _ => Nat.le_add_right _ _
  labelsOn := fun _ => Nat.le_add_right _ _
  brief := fun _ => Nat.le_refl _

theorem creation_settles_behind :
    (buildRemote behind (secureBuilder (str "parks@example.org") (str "Parks"))
      ⟨⟨[], ⟨Dict.empty, fun _ => 0⟩⟩, 0, 0⟩).1 = .ok ⟨secureSettings, securityLabel⟩ := by
  have settled : (⟨[], ⟨Dict.empty, fun _ => 0⟩⟩ : History Held).Settled 5000 0 :=
    fun _ written => nomatch written
  have free : (str "parks@example.org") ∉ (Dict.empty : Groups) := Dict.not_mem_empty _
  obtain ⟨_, plainly⟩ :=
    plain_free behind (secureBuilder (str "parks@example.org") (str "Parks")) free 0
  exact (creation_settles behind_calm (by decide) settled (fun _ => free)).1.trans
    (congrArg Prod.fst plainly)

end Rosadmin.Propagation
