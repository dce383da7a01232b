import Rosadmin.Foundation.Runs
import Rosadmin.Frontend.GroupAdmin

/-!
# The group on screen

A completed add or remove is applied to the group it was made for in the cache,
and to whichever group is displayed on screen. The two stay the same roster
exactly as long as a request that completes for another group than the selected
one would change nothing on screen.
-/

namespace Rosadmin.Frontend
open Foundation

theorem put_perm_iff {id : Str} {put members : List RosterMember} :
    (put ++ withoutMember id members).Perm members ↔ put.Perm (members.filter (·.id = id)) := by
  have split : (members.filter (·.id = id) ++ withoutMember id members).Perm members := by
    have parted := List.filter_append_perm (fun m : RosterMember => decide (m.id = id)) members
    simpa [withoutMember] using parted
  constructor
  · intro same
    exact (List.perm_append_right_iff _).mp (same.trans split.symm)
  · intro same
    exact (same.append_right _).trans split

/-- `getGroups` fills the cache. -/
def Event.loads : Event → Bool
  | .loaded _ => true
  | _ => false

namespace Hook
variable (h : Hook)

def selectedGroup : Option GroupDetail := h.selectedId.bind h.cached

def roster (id : Str) : Option (List RosterMember) := (h.cached id).map (·.members)

/-- Unless a load is in progress, the members on screen are those cached for the selected group. -/
def OnScreen : Prop :=
  h.state.loading = false → ∀ shown, h.state.group = some shown →
    ∀ group, h.selectedGroup = some group → shown.members.Perm group.members

/-- Nothing on screen changes if the entries under the id are put there instead of its own. -/
def Unmoved (id : Str) (put : List RosterMember) : Prop :=
  h.state.loading = false → ∀ shown, h.state.group = some shown → h.selectedGroup ≠ none →
    put.Perm (shown.members.filter (·.id = id))

/-- The event completes a request made for the group. -/
def Completes (id : Str) : Event → Prop
  | .addAnswered n (.ok _) => ∃ request, h.adding[n]? = some request ∧ request.groupId = id
  | .removeAnswered n true => ∃ request, h.removing[n]? = some request ∧ request.groupId = id
  | _ => False

/-- A request that completes was made for the selected group, or moves nothing on screen. -/
def Fits : Event → Prop
  | .addAnswered n (.ok added) => ∀ request, h.adding[n]? = some request →
      h.selectedId = some request.groupId ∨ h.Unmoved added.id [added]
  | .removeAnswered n true => ∀ request, h.removing[n]? = some request →
      h.selectedId = some request.groupId ∨ h.Unmoved request.memberId []
  | _ => True

end Hook

/-! ### What goes on beside the rosters -/

/-- The cache, the selection and the roster on screen are left alone. -/
structure Aside (h after : Hook) : Prop where
  loading : after.state.loading = h.state.loading
  shown : after.state.group = h.state.group
  selected : after.selectedId = h.selectedId
  groups : after.groups = h.groups

section
variable (h : Hook)

theorem Aside.refl : Aside h h := ⟨rfl, rfl, rfl, rfl⟩

theorem confirmAdd_aside (member : Member) : Aside h (h.confirmAdd member) := by
  unfold Hook.confirmAdd
  split
  · split
    · exact .refl h
    · exact ⟨rfl, rfl, rfl, rfl⟩
  · exact .refl h

theorem startRemove_aside (member : RosterMember) : Aside h (h.startRemove member) := by
  unfold Hook.startRemove
  split
  · exact .refl h
  · exact ⟨rfl, rfl, rfl, rfl⟩

theorem removeTimerFires_aside (handle : Nat) : Aside h (h.removeTimerFires handle) := by
  unfold Hook.removeTimerFires
  split
  · exact .refl h
  · exact ⟨rfl, rfl, rfl, rfl⟩

theorem undoRemove_aside (id : Str) : Aside h (h.undoRemove id) := by
  unfold Hook.undoRemove
  split <;> exact ⟨rfl, rfl, rfl, rfl⟩

end

/-! ### The screen -/

section
variable {h : Hook} {groupId id : Str} {fn : List RosterMember → List RosterMember}

theorem cached_patchRoster : (h.patchRoster groupId fn).cached id =
    (h.cached id).map (fun g => if id = groupId then { g with members := fn g.members }
      else g) := by
  unfold Hook.cached Hook.patchRoster
  dsimp only
  rw [List.find?_map]
  have same : (fun g : GroupDetail => decide (g.id = id)) ∘
      (fun g => if g.id = groupId then { g with members := fn g.members } else g) = fun g =>
        decide (g.id = id) := by
    funext g
    show decide ((if g.id = groupId then { g with members := fn g.members } else g).id = id) = _
    split <;> rfl
  rw [same]
  cases found : h.groups.find? (fun g => decide (g.id = id)) with
  | none => rfl
  | some g =>
    have here : g.id = id := by simpa using List.find?_some found
    simp only [Option.map_some, here]

/-- The screen after an answer: the displayed group and the cached one have both been given the
entries. -/
theorem onScreen_put {after : Hook} {put : List RosterMember} (sync : h.OnScreen)
    (loading : after.state.loading = h.state.loading) (selected : after.selectedId = h.selectedId)
    (shown : after.state.group = h.state.group.map fun d =>
      { d with members := put ++ withoutMember id d.members })
    (patched : ∀ j, after.cached j = (h.patchRoster groupId fun members => put ++
      withoutMember id members).cached j) :
    after.OnScreen ↔ h.selectedId = some groupId ∨ h.Unmoved id put := by
  have chosen : after.selectedGroup = h.selectedGroup.map fun g =>
      if h.selectedId = some groupId then { g with members := put ++ withoutMember id g.members }
        else g := by
    unfold Hook.selectedGroup
    rw [selected]
    cases h.selectedId with
    | none => rfl
    | some j =>
      show after.cached j = _
      rw [patched, cached_patchRoster]
      simp only [Option.bind_some, Option.some.injEq]
  unfold Hook.OnScreen Hook.Unmoved
  rw [loading, shown, chosen]
  constructor
  · intro kept
    by_cases own : h.selectedId = some groupId
    · exact Or.inl own
    · refine Or.inr fun idle d displayed present => ?_
      obtain ⟨g, found⟩ := Option.ne_none_iff_exists'.mp present
      have moved := kept idle _ (by rw [displayed]; rfl) g
        (by rw [found, Option.map_some, if_neg own])
      exact put_perm_iff.mp (moved.trans (sync idle d displayed g found).symm)
  · intro fits idle d displayed g found
    obtain ⟨d, before, rfl⟩ := Option.map_eq_some_iff.mp displayed
    obtain ⟨g, cached, rfl⟩ := Option.map_eq_some_iff.mp found
    have same := sync idle d before g cached
    split
    · exact (same.filter _).append_left put
    · rename_i other
      have unmoved := fits.resolve_left other idle d before
        (by rw [cached]; exact Option.some_ne_none g)
      exact (put_perm_iff.mpr unmoved).trans same

theorem Aside.onScreen {after : Hook} (aside : Aside h after) : after.OnScreen ↔ h.OnScreen := by
  unfold Hook.OnScreen Hook.selectedGroup Hook.cached
  rw [aside.loading, aside.shown, aside.selected, aside.groups]

theorem onScreen_blank {after : Hook} (blank : after.state.group = none) : after.OnScreen := by
  intro _ d displayed
  rw [blank] at displayed
  cases displayed

theorem selectGroup_onScreen : (h.selectGroup id).OnScreen := by
  unfold Hook.selectGroup
  cases found : h.cached id with
  | some group =>
    rintro - d displayed g selected
    cases displayed
    cases found.symm.trans selected
    exact List.Perm.refl _
  | none =>
    rintro - d displayed g selected
    cases found.symm.trans selected

theorem loaded_onScreen (groups : List GroupDetail) : (h.loaded groups).OnScreen := by
  cases groups with
  | nil => exact onScreen_blank rfl
  | cons first rest =>
    rintro - d displayed g selected
    cases displayed
    have found : (first :: rest).find? (fun g => decide (g.id = first.id)) = some first :=
      List.find?_cons_of_pos (by simp)
    cases found.symm.trans selected
    exact List.Perm.refl _

theorem addAnswered_onScreen (sync : h.OnScreen) (n : Nat) (answer : Except Str RosterMember) :
    (h.addAnswered n answer).OnScreen ↔ h.Fits (.addAnswered n answer) := by
  unfold Hook.addAnswered
  cases asked : h.adding[n]? with
  | none =>
    have fits : h.Fits (.addAnswered n answer) := by
      cases answer with
      | error message => trivial
      | ok added => exact fun request found => by cases asked.symm.trans found
    exact iff_of_true sync fits
  | some request =>
    cases answer with
    | error message =>
        exact iff_of_true ((⟨rfl, rfl, rfl, rfl⟩ : Aside h _).onScreen.mpr sync) trivial
    | ok added =>
      have fits : h.Fits (.addAnswered n (.ok added)) ↔
          h.selectedId = some request.groupId ∨ h.Unmoved added.id [added] :=
        ⟨fun all => all request asked, fun one other found =>
          by cases asked.symm.trans found; exact one⟩
      rw [fits]
      dsimp only
      exact onScreen_put sync (added_loading _ _ _) rfl (added_group _ _ _) fun _ => rfl

theorem removeAnswered_onScreen (sync : h.OnScreen) (n : Nat) (ok : Bool) :
    (h.removeAnswered n ok).OnScreen ↔ h.Fits (.removeAnswered n ok) := by
  unfold Hook.removeAnswered
  cases asked : h.removing[n]? with
  | none =>
    have fits : h.Fits (.removeAnswered n ok) := by
      cases ok with
      | false => trivial
      | true => exact fun request found => by cases asked.symm.trans found
    exact iff_of_true sync fits
  | some request =>
    cases ok with
    | false => exact iff_of_true ((⟨rfl, rfl, rfl, rfl⟩ : Aside h _).onScreen.mpr sync) trivial
    | true =>
      have fits : h.Fits (.removeAnswered n true) ↔ h.selectedId = some request.groupId ∨
          h.Unmoved request.memberId [] :=
        ⟨fun all => all request asked, fun one other found =>
          by cases asked.symm.trans found; exact one⟩
      rw [fits]
      exact onScreen_put sync (removeCommit_loading _ _) rfl (removeCommit_group _ _) fun _ => rfl

/-- Exactly the completions that do not fit part the screen from the cache. -/
theorem step_onScreen (e : Event) (sync : h.OnScreen) : (step h e).OnScreen ↔ h.Fits e := by
  cases e with
  | loadStarted => exact iff_of_true (onScreen_blank rfl) trivial
  | loaded groups => exact iff_of_true (loaded_onScreen groups) trivial
  | loadFailed message => exact iff_of_true (onScreen_blank rfl) trivial
  | search action =>
    exact iff_of_true ((⟨rfl, rfl, rfl, rfl⟩ : Aside h _).onScreen.mpr sync) trivial
  | selectGroup id => exact iff_of_true selectGroup_onScreen trivial
  | addAnswered n answer => exact addAnswered_onScreen sync n answer
  | removeAnswered n ok => exact removeAnswered_onScreen sync n ok
  | confirmAdd member => exact iff_of_true ((confirmAdd_aside h member).onScreen.mpr sync) trivial
  | startRemove member => exact iff_of_true ((startRemove_aside h member).onScreen.mpr sync) trivial
  | removeTimerFires handle =>
      exact iff_of_true ((removeTimerFires_aside h handle).onScreen.mpr sync) trivial
  | undoRemove id => exact iff_of_true ((undoRemove_aside h id).onScreen.mpr sync) trivial

/-! ### The cache -/

theorem roster_same {after : Hook} (groups : after.groups = h.groups) :
    after.roster id = h.roster id := by
  unfold Hook.roster Hook.cached
  rw [groups]

theorem roster_patchRoster (other : id ≠ groupId) :
    (h.patchRoster groupId fn).roster id = h.roster id := by
  unfold Hook.roster
  rw [cached_patchRoster]
  simp [other]

/-- Apart from a load, an event leaves every roster as it is but that of the group whose request it
completes. -/
theorem step_roster {e : Event} (later : e.loads = false)
    (changed : (step h e).roster id ≠ h.roster id) : h.Completes id e := by
  by_contra incomplete
  apply changed
  cases e with
  | loadStarted | loadFailed | search => exact roster_same rfl
  | confirmAdd member => exact roster_same (confirmAdd_aside h member).groups
  | startRemove member => exact roster_same (startRemove_aside h member).groups
  | removeTimerFires handle => exact roster_same (removeTimerFires_aside h handle).groups
  | undoRemove id => exact roster_same (undoRemove_aside h id).groups
  | selectGroup id =>
    apply roster_same
    show (h.selectGroup id).groups = h.groups
    unfold Hook.selectGroup
    split <;> rfl
  | loaded groups => cases later
  | addAnswered n answer =>
    show (h.addAnswered n answer).roster id = h.roster id
    unfold Hook.addAnswered
    cases asked : h.adding[n]? with
    | none => rfl
    | some request =>
      cases answer with
      | error message => exact roster_same rfl
      | ok added =>
        have other : id ≠ request.groupId := fun same => incomplete ⟨request, asked, same.symm⟩
        exact (roster_patchRoster other).trans (roster_same rfl)
  | removeAnswered n ok =>
    show (h.removeAnswered n ok).roster id = h.roster id
    unfold Hook.removeAnswered
    cases asked : h.removing[n]? with
    | none => rfl
    | some request =>
      cases ok with
      | false => exact roster_same rfl
      | true =>
        have other : id ≠ request.groupId := fun same => incomplete ⟨request, asked, same.symm⟩
        exact (roster_patchRoster other).trans (roster_same rfl)

/-! ### Runs -/

/-- Along the run the screen shows the selected group's roster, and only its own requests change a
roster. -/
structure ScreenFollows (events : List Event) : Prop where
  shown : ∀ reached, reached <+: events → (reached.foldl step Hook.mount).OnScreen
  kept : ∀ reached e, reached ++ [e] <+: events → e.loads = false → ∀ id,
    (step (reached.foldl step Hook.mount) e).roster id ≠ (reached.foldl step Hook.mount).roster id →
      (reached.foldl step Hook.mount).Completes id e

/-- From the mount on, the group on screen is the group that was changed exactly if every completion
fits. -/
theorem screen_follows_iff (events : List Event) :
    ScreenFollows events ↔ Guarded step Hook.Fits Hook.mount events := by
  have exact_ : ∀ h e, True → h.OnScreen → ((step h e).OnScreen ↔ h.Fits e) :=
    fun _ e _ sync => step_onScreen e sync
  have start : Hook.mount.OnScreen := onScreen_blank rfl
  have shown := guarded_iff (fun _ _ _ => trivial) exact_ events trivial start
  constructor
  · intro follows
    exact shown.mp follows.shown
  · intro fits
    exact ⟨shown.mpr fits, fun _ _ _ later _ changed => step_roster later changed⟩

end

/-! ### A group switched while its add is under way -/

def chapter : GroupDetail := ⟨str "chapter", str "Chapter", str "Committee", []⟩

def steeringGroup : GroupDetail := ⟨str "steering", str "Steering", str "Committee", []⟩

def newcomer : RosterMember := ⟨⟨str "7", str "Nora", str "nora@pdx.org"⟩, .member⟩

def switchedWhileAdding : List Event :=
  [.loaded [chapter, steeringGroup], .confirmAdd newcomer.toMember, .selectGroup (str "steering"),
    .addAnswered 0 (.ok newcomer)]

/-- Nora is added to the chapter and appears on the screen of the steering committee. -/
theorem screen_shows_another_group : ¬ScreenFollows switchedWhileAdding := by
  intro follows
  have same := follows.shown switchedWhileAdding (List.prefix_refl _) rfl
    ⟨str "steering", str "Steering", str "Committee", [newcomer]⟩ rfl steeringGroup rfl
  exact absurd same.length_eq (by decide)

end Rosadmin.Frontend
