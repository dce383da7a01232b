import Rosadmin.Foundation.Runs
import Rosadmin.Frontend.GroupAdmin

/-!
# Undoing a removal

A removal waits in a timer that knows its group and its member. The tombstone
and the handle an undo clears are kept by the member alone, for whatever group
is on screen. As long as nothing else touches the two of a removal that waits on
screen, it can be undone.
-/

namespace Rosadmin.Frontend
open Foundation

/-! ### The timers -/

/-- What an event does to the timers: nothing, one more, one that has fired, or one cleared. -/
inductive Scheduling (h after : Hook) : Prop
  | same (timers : after.timers = h.timers) (next : after.nextHandle = h.nextHandle)
      (sent : after.sent = h.sent)
  | started (groupId memberId : Str) (timers : after.timers = h.timers ++
      [⟨h.nextHandle, groupId, memberId⟩])
      (next : after.nextHandle = h.nextHandle + 1) (sent : after.sent = h.sent)
  | fired (timer : Timer) (waiting : timer ∈ h.timers)
      (timers : after.timers = h.timers.filter (·.handle ≠ timer.handle))
      (next : after.nextHandle = h.nextHandle) (sent : after.sent = h.sent ++ [timer.handle])
  | cleared (handle : Nat) (timers : after.timers = h.timers.filter (·.handle ≠ handle))
      (next : after.nextHandle = h.nextHandle) (sent : after.sent = h.sent)

theorem step_scheduling (h : Hook) (e : Event) : Scheduling h (step h e) := by
  cases e with
  | loadStarted | loadFailed | search => exact .same rfl rfl rfl
  | loaded groups => cases groups <;> exact .same rfl rfl rfl
  | selectGroup id =>
    show Scheduling h (h.selectGroup id)
    unfold Hook.selectGroup
    split <;> exact .same rfl rfl rfl
  | confirmAdd member =>
    show Scheduling h (h.confirmAdd member)
    unfold Hook.confirmAdd
    split
    · split <;> exact .same rfl rfl rfl
    · exact .same rfl rfl rfl
  | addAnswered n answer =>
    show Scheduling h (h.addAnswered n answer)
    unfold Hook.addAnswered
    split
    · exact .same rfl rfl rfl
    · cases answer <;> exact .same rfl rfl rfl
  | removeAnswered n ok =>
    show Scheduling h (h.removeAnswered n ok)
    unfold Hook.removeAnswered
    split
    · exact .same rfl rfl rfl
    · cases ok <;> exact .same rfl rfl rfl
  | startRemove member =>
    show Scheduling h (h.startRemove member)
    unfold Hook.startRemove
    split
    · exact .same rfl rfl rfl
    · exact .started _ _ rfl rfl rfl
  | removeTimerFires handle =>
    show Scheduling h (h.removeTimerFires handle)
    unfold Hook.removeTimerFires
    cases found : h.timers.find? (fun t => decide (t.handle = handle)) with
    | none => exact .same rfl rfl rfl
    | some timer =>
      have here : timer.handle = handle := by simpa using List.find?_some found
      subst here
      exact .fired timer (List.mem_of_find?_eq_some found) rfl rfl rfl
  | undoRemove id =>
    show Scheduling h (h.undoRemove id)
    unfold Hook.undoRemove
    split
    · exact .same rfl rfl rfl
    · exact .cleared _ rfl rfl rfl

/-- No handle is given out twice, and a timer that waits has sent nothing. -/
structure Handles (h : Hook) : Prop where
  distinct : (h.timers.map (·.handle)).Nodup
  fresh : ∀ t ∈ h.timers, t.handle < h.nextHandle
  unsent : ∀ t ∈ h.timers, t.handle ∉ h.sent
  past : ∀ handle ∈ h.sent, handle < h.nextHandle

section
variable {h after : Hook} {handle : Nat}

theorem Handles.left (handles : Handles h)
    (timers : after.timers = h.timers.filter (·.handle ≠ handle)) :
    (after.timers.map (·.handle)).Nodup ∧ ∀ t ∈ after.timers, t ∈ h.timers ∧ t.handle ≠ handle := by
  rw [timers]
  refine ⟨handles.distinct.sublist (List.filter_sublist.map _), fun t left => ?_⟩
  obtain ⟨waiting, other⟩ := List.mem_filter.mp left
  exact ⟨waiting, of_decide_eq_true other⟩

theorem Handles.started {groupId memberId : Str} (handles : Handles h)
    (timers : after.timers = h.timers ++ [⟨h.nextHandle, groupId, memberId⟩])
    (next : after.nextHandle = h.nextHandle + 1) (sent : after.sent = h.sent) : Handles after := by
  constructor
  · rw [timers, List.map_append]
    refine List.nodup_append.mpr ⟨handles.distinct, List.nodup_singleton _,
      fun handle old new added same => ?_⟩
    obtain ⟨t, waiting, rfl⟩ := List.mem_map.mp old
    rw [List.mem_singleton.mp added] at same
    exact absurd (handles.fresh t waiting) (same ▸ Nat.lt_irrefl _)
  · intro t waiting
    rw [timers] at waiting
    rw [next]
    rcases List.mem_append.mp waiting with old | new
    · exact Nat.lt_succ_of_lt (handles.fresh t old)
    · rw [List.mem_singleton.mp new]
      exact Nat.lt_succ_self _
  · intro t waiting
    rw [timers] at waiting
    rw [sent]
    rcases List.mem_append.mp waiting with old | new
    · exact handles.unsent t old
    · rw [List.mem_singleton.mp new]
      exact fun old => Nat.lt_irrefl _ (handles.past _ old)
  · intro handle old
    rw [next]
    exact Nat.lt_succ_of_lt (handles.past handle (sent ▸ old))

theorem Handles.fired {timer : Timer} (handles : Handles h) (waiting : timer ∈ h.timers)
    (timers : after.timers = h.timers.filter (·.handle ≠ timer.handle))
    (next : after.nextHandle = h.nextHandle) (sent : after.sent = h.sent ++ [timer.handle]) :
    Handles after := by
  obtain ⟨distinct, left⟩ := handles.left timers
  refine ⟨distinct, fun t stays => next ▸ handles.fresh t (left t stays).1, fun t stays =>
    ?_, fun handle old => ?_⟩
  · rw [sent, List.mem_append, not_or]
    exact ⟨handles.unsent t (left t stays).1, fun same =>
      (left t stays).2 (List.mem_singleton.mp same)⟩
  · rw [sent] at old
    rw [next]
    rcases List.mem_append.mp old with before | now
    · exact handles.past handle before
    · rw [List.mem_singleton.mp now]
      exact handles.fresh timer waiting

theorem Handles.cleared (handles : Handles h)
    (timers : after.timers = h.timers.filter (·.handle ≠ handle))
    (next : after.nextHandle = h.nextHandle) (sent : after.sent = h.sent) : Handles after := by
  obtain ⟨distinct, left⟩ := handles.left timers
  exact ⟨distinct, fun t stays => next ▸ handles.fresh t (left t stays).1,
    fun t stays => sent ▸ handles.unsent t (left t stays).1, by rw [sent, next]; exact handles.past⟩

end

theorem handles_step (h : Hook) (e : Event) (handles : Handles h) : Handles (step h e) := by
  cases step_scheduling h e with
  | same timers next sent =>
    obtain ⟨distinct, fresh, unsent, past⟩ := handles
    exact ⟨timers ▸ distinct, by rwa [timers, next], by rwa [timers, sent], by rwa [sent, next]⟩
  | started groupId memberId timers next sent => exact handles.started timers next sent
  | fired timer waiting timers next sent => exact handles.fired waiting timers next sent
  | cleared handle timers next sent => exact handles.cleared timers next sent

/-- A handle that was given out and waits no more will not send anything. -/
structure Spent (handle : Nat) (h : Hook) : Prop where
  given : handle < h.nextHandle
  gone : ∀ t ∈ h.timers, t.handle ≠ handle
  unsent : handle ∉ h.sent

theorem spent_step {handle : Nat} (h : Hook) (e : Event) (spent : Spent handle h) :
    Spent handle (step h e) := by
  obtain ⟨given, gone, unsent⟩ := spent
  cases step_scheduling h e with
  | same timers next sent => exact ⟨next ▸ given, timers ▸ gone, sent ▸ unsent⟩
  | started groupId memberId timers next sent =>
    refine ⟨next ▸ Nat.lt_succ_of_lt given, fun t waiting => ?_, sent ▸ unsent⟩
    rw [timers] at waiting
    rcases List.mem_append.mp waiting with old | new
    · exact gone t old
    · rw [List.mem_singleton.mp new]
      exact Nat.ne_of_gt given
  | fired timer waiting timers next sent =>
    refine ⟨next ▸ given, fun t left => gone t (List.mem_filter.mp (timers ▸ left)).1, ?_⟩
    rw [sent, List.mem_append, not_or]
    exact ⟨unsent, fun same => gone timer waiting (List.mem_singleton.mp same).symm⟩
  | cleared other timers next sent =>
    exact ⟨next ▸ given, fun t left => gone t (List.mem_filter.mp (timers ▸ left)).1, sent ▸ unsent⟩

/-! ### The tombstone and the handle -/

namespace Hook
variable (h : Hook)

def displayedId : Option Str := h.state.group.map (·.id)

/-- Every removal that waits on screen shows its tombstone, and an undo of its member keeps it from
ever being sent. -/
def CanUndo : Prop :=
  ∀ t ∈ h.timers, h.displayedId = some t.groupId → t.memberId ∈ h.state.removingIds ∧
    ∀ later : List Event, t.handle ∉ (later.foldl step (step h (.undoRemove t.memberId))).sent

def Marked : Prop :=
  ∀ t ∈ h.timers, h.displayedId = some t.groupId →
    t.memberId ∈ h.state.removingIds ∧ h.removeTimers.get? t.memberId = some t.handle

/-- No removal of the member waits on screen. -/
def NotWaiting (memberId : Str) : Prop := ∀ t ∈ h.timers, h.displayedId = some t.groupId →
    t.memberId ≠ memberId

/-- The event neither brings a group on screen that has a removal waiting, nor touches the member of
a removal that waits on screen otherwise than by its own timer or its undo. -/
def LeavesBe : Event → Prop
  | .selectGroup id => h.cached id ≠ none → ∀ t ∈ h.timers, t.groupId ≠ id
  | .loaded groups => ∀ first, groups.head? = some first → ∀ t ∈ h.timers, t.groupId ≠ first.id
  | .startRemove member => h.selected ≠ none → h.NotWaiting member.id
  | .removeTimerFires handle => ∀ fired ∈ h.timers, fired.handle = handle → ∀ t ∈ h.timers,
      t ≠ fired → h.displayedId = some t.groupId → t.memberId ≠ fired.memberId
  | .removeAnswered n _ => ∀ request, h.removing[n]? = some request → h.NotWaiting request.memberId
  | _ => True

end Hook

section
variable {h after : Hook}

theorem timer_unique (handles : Handles h) {t u : Timer} (waits : t ∈ h.timers)
    (waits' : u ∈ h.timers) (same : t.handle = u.handle) : t = u :=
  List.inj_on_of_nodup_map handles.distinct waits waits' same

theorem sent_of_waiting {t : Timer} (waits : t ∈ after.timers) :
    t.handle ∈ (step after (.removeTimerFires t.handle)).sent := by
  show t.handle ∈ (after.removeTimerFires t.handle).sent
  unfold Hook.removeTimerFires
  cases found : after.timers.find? (fun u => decide (u.handle = t.handle)) with
  | none => exact absurd (decide_eq_true rfl) (List.find?_eq_none.mp found t waits)
  | some timer => exact List.mem_append_right _ (List.mem_singleton_self _)

theorem undo_spends {t : Timer} (handles : Handles h) (waits : t ∈ h.timers)
    (kept : h.removeTimers.get? t.memberId = some t.handle) :
    Spent t.handle (step h (.undoRemove t.memberId)) := by
  show Spent t.handle (h.undoRemove t.memberId)
  unfold Hook.undoRemove
  rw [kept]
  exact ⟨handles.fresh t waits, fun u left => of_decide_eq_true (List.mem_filter.mp left).2,
    handles.unsent t waits⟩

theorem undo_spares {t : Timer} (waits : t ∈ h.timers)
    (lost : h.removeTimers.get? t.memberId ≠ some t.handle) :
    t ∈ (step h (.undoRemove t.memberId)).timers := by
  show t ∈ (h.undoRemove t.memberId).timers
  unfold Hook.undoRemove
  cases kept : h.removeTimers.get? t.memberId with
  | none => exact waits
  | some handle =>
    have other : t.handle ≠ handle := fun same => lost (by rw [kept, same])
    exact List.mem_filter.mpr ⟨waits, decide_eq_true other⟩

theorem canUndo_iff_marked (handles : Handles h) : h.CanUndo ↔ h.Marked := by
  constructor
  · intro undone t waits shown
    obtain ⟨tombstone, never⟩ := undone t waits shown
    refine ⟨tombstone, by_contra fun lost => ?_⟩
    exact never [.removeTimerFires t.handle] (sent_of_waiting (undo_spares waits lost))
  · intro marked t waits shown
    obtain ⟨tombstone, kept⟩ := marked t waits shown
    exact ⟨tombstone, fun later =>
      (invariant_of_forall spent_step (undo_spends handles waits kept) later).unsent⟩

theorem marked_blank (blank : after.state.group = none) : after.Marked := by
  intro t _ shown
  rw [Hook.displayedId, blank] at shown
  cases shown

theorem marked_same (timers : after.timers = h.timers) (shown : after.displayedId = h.displayedId)
    (removing : after.state.removingIds = h.state.removingIds)
    (kept : after.removeTimers = h.removeTimers) :
    after.Marked ↔ h.Marked := by
  unfold Hook.Marked
  rw [timers, shown, removing, kept]

theorem marked_loadOk {group : GroupDetail} (timers : after.timers = h.timers)
    (state : after.state = reducer h.state (.loadOk group)) :
    after.Marked ↔ ∀ t ∈ h.timers, t.groupId ≠ group.id := by
  unfold Hook.Marked Hook.displayedId
  rw [timers, state]
  constructor
  · intro marked t waits same
    exact List.not_mem_nil (marked t waits (congrArg some same.symm)).1
  · intro idle t waits shown
    exact absurd (Option.some.inj shown).symm (idle t waits)

theorem marked_dropped {memberId : Str} (marked : h.Marked) (timers : after.timers = h.timers)
    (shown : after.displayedId = h.displayedId) (kept : after.removeTimers = h.removeTimers)
    (removing : h.state.group ≠ none → after.state.removingIds = h.state.removingIds.filter
      (· ≠ memberId)) :
    after.Marked ↔ h.NotWaiting memberId := by
  have present : ∀ t : Timer, h.displayedId = some t.groupId → h.state.group ≠ none := by
    intro t displayed blank
    rw [Hook.displayedId, blank] at displayed
    cases displayed
  unfold Hook.Marked Hook.NotWaiting
  rw [timers, shown, kept]
  constructor
  · intro left t waits displayed
    have tombstone := (left t waits displayed).1
    rw [removing (present t displayed)] at tombstone
    exact of_decide_eq_true (List.mem_filter.mp tombstone).2
  · intro others t waits displayed
    obtain ⟨tombstone, handle⟩ := marked t waits displayed
    rw [removing (present t displayed)]
    exact ⟨List.mem_filter.mpr ⟨tombstone, decide_eq_true (others t waits displayed)⟩, handle⟩

theorem selectGroup_marked (marked : h.Marked) (id : Str) :
    (h.selectGroup id).Marked ↔ h.LeavesBe (.selectGroup id) := by
  unfold Hook.selectGroup
  cases found : h.cached id with
  | none => exact iff_of_true ((marked_same rfl rfl rfl rfl).mpr marked) fun cached =>
      absurd found cached
  | some group =>
    have same : group.id = id := by simpa using List.find?_some found
    rw [marked_loadOk rfl rfl, same]
    exact ⟨fun idle _ => idle, fun leaves =>
      leaves (by rw [found]; exact Option.some_ne_none group)⟩

theorem loaded_marked (groups : List GroupDetail) : (h.loaded groups).Marked ↔
    h.LeavesBe (.loaded groups) := by
  cases groups with
  | nil => exact iff_of_true (marked_blank rfl) fun first none_ => nomatch none_
  | cons group rest =>
    rw [marked_loadOk rfl rfl]
    exact ⟨fun idle first found => Option.some.inj found ▸ idle, fun leaves => leaves group rfl⟩

theorem startRemove_marked (handles : Handles h) (marked : h.Marked) (member : RosterMember) :
    (h.startRemove member).Marked ↔ h.LeavesBe (.startRemove member) := by
  unfold Hook.startRemove
  cases chosen : h.selected with
  | none => exact iff_of_true marked fun present => absurd chosen present
  | some selectedId =>
    have asks : h.LeavesBe (.startRemove member) ↔ h.NotWaiting member.id :=
      ⟨fun leaves => leaves (by rw [chosen]; exact Option.some_ne_none _), fun others _ => others⟩
    rw [asks]
    constructor
    · intro after t waits shown same
      have kept := (after t (List.mem_append_left _ waits) shown).2
      dsimp only at kept
      rw [Dict.get?_set, if_pos same] at kept
      exact Nat.lt_irrefl _ (Option.some.inj kept ▸ handles.fresh t waits)
    · intro others t waits shown
      show t.memberId ∈ h.state.removingIds ++ [member.id] ∧
        (h.removeTimers.set member.id h.nextHandle).get? t.memberId = _
      rw [Dict.get?_set]
      rcases List.mem_append.mp waits with old | new
      · obtain ⟨tombstone, kept⟩ := marked t old shown
        exact ⟨List.mem_append_left _ tombstone, by rw [if_neg (others t old shown), kept]⟩
      · obtain rfl := List.mem_singleton.mp new
        exact ⟨List.mem_append_right _ (List.mem_singleton_self _), if_pos rfl⟩

theorem removeTimerFires_marked (handles : Handles h) (marked : h.Marked) (handle : Nat) :
    (h.removeTimerFires handle).Marked ↔ h.LeavesBe (.removeTimerFires handle) := by
  unfold Hook.removeTimerFires
  cases found : h.timers.find? (fun t => decide (t.handle = handle)) with
  | none =>
    refine iff_of_true marked fun fired waits same => ?_
    exact absurd (decide_eq_true same) (List.find?_eq_none.mp found fired waits)
  | some fired =>
    have waits : fired ∈ h.timers := List.mem_of_find?_eq_some found
    have here : fired.handle = handle := by simpa using List.find?_some found
    constructor
    · intro after u waits' same t left other shown
      obtain rfl := timer_unique handles waits waits' (here.trans same.symm)
      have stays : t.handle ≠ handle := fun same =>
        other (timer_unique handles left waits (same.trans here.symm))
      have kept := (after t (List.mem_filter.mpr ⟨left, decide_eq_true stays⟩) shown).2
      dsimp only at kept
      rw [Dict.get?_erase] at kept
      intro same
      rw [if_pos same] at kept
      cases kept
    · intro leaves t left shown
      obtain ⟨waits', stays⟩ := List.mem_filter.mp left
      have other : t ≠ fired := fun same => of_decide_eq_true stays (same ▸ here)
      obtain ⟨tombstone, kept⟩ := marked t waits' shown
      show t.memberId ∈ h.state.removingIds ∧
        (h.removeTimers.erase fired.memberId).get? t.memberId = _
      rw [Dict.get?_erase, if_neg (leaves fired waits here t waits' other shown)]
      exact ⟨tombstone, kept⟩

theorem addAnswered_marked (marked : h.Marked) (n : Nat) (answer : Except Str RosterMember) :
    (h.addAnswered n answer).Marked := by
  unfold Hook.addAnswered
  split
  · exact marked
  · rename_i request asked
    cases answer with
    | error message => exact (marked_same rfl rfl rfl rfl).mpr marked
    | ok added =>
      have shown : (reducer h.state (.added added request.groupName)).group.map (·.id) =
          h.displayedId := by
        rw [added_group, Option.map_map]
        rfl
      refine Iff.mpr (?_ : _ ↔ h.Marked) marked
      exact marked_same rfl shown (added_removingIds _ _ _) rfl

theorem removeAnswered_marked (marked : h.Marked) (n : Nat) (ok : Bool) :
    (h.removeAnswered n ok).Marked ↔ h.LeavesBe (.removeAnswered n ok) := by
  unfold Hook.removeAnswered
  cases asked : h.removing[n]? with
  | none => exact iff_of_true marked fun request found => by cases asked.symm.trans found
  | some request =>
    have asks : h.LeavesBe (.removeAnswered n ok) ↔ h.NotWaiting request.memberId :=
      ⟨fun leaves => leaves request asked, fun others other found =>
        by cases asked.symm.trans found; exact others⟩
    rw [asks]
    cases ok with
    | false => exact marked_dropped marked rfl rfl rfl fun _ => rfl
    | true =>
      have shown : (reducer h.state (.removeCommit request.memberId)).group.map (·.id) =
          h.displayedId := by
        rw [removeCommit_group, Option.map_map]
        rfl
      exact marked_dropped marked rfl shown rfl fun present => removeCommit_removingIds _ _ present

theorem undoRemove_marked (marked : h.Marked) (id : Str) : (h.undoRemove id).Marked := by
  unfold Hook.undoRemove
  cases kept : h.removeTimers.get? id with
  | none =>
    have dropped : (h.dispatch (.removeUndo id)).Marked ↔ h.NotWaiting id :=
      marked_dropped marked rfl rfl rfl fun _ => rfl
    refine dropped.mpr fun t waits shown same => ?_
    have mine := (marked t waits shown).2
    rw [same, kept] at mine
    cases mine
  | some handle =>
    intro t left shown
    obtain ⟨waits, other⟩ := List.mem_filter.mp left
    obtain ⟨tombstone, mine⟩ := marked t waits shown
    have apart : t.memberId ≠ id := by
      rintro rfl
      exact of_decide_eq_true other (Option.some.inj (mine.symm.trans kept))
    show t.memberId ∈ h.state.removingIds.filter (· ≠ id) ∧
      (h.removeTimers.erase id).get? t.memberId = _
    rw [Dict.get?_erase, if_neg apart]
    exact ⟨List.mem_filter.mpr ⟨tombstone, decide_eq_true apart⟩, mine⟩

/-- Exactly the events that touch a removal waiting on screen take its tombstone or its handle. -/
theorem step_marked (h : Hook) (e : Event) (handles : Handles h) (marked : h.Marked) :
    (step h e).Marked ↔ h.LeavesBe e := by
  cases e with
  | loadStarted | loadFailed => exact iff_of_true (marked_blank rfl) trivial
  | search action => exact iff_of_true ((marked_same rfl rfl rfl rfl).mpr marked) trivial
  | confirmAdd member =>
    refine iff_of_true ?_ trivial
    show (h.confirmAdd member).Marked
    unfold Hook.confirmAdd
    split
    · split
      · exact marked
      · exact (marked_same rfl rfl rfl rfl).mpr marked
    · exact marked
  | addAnswered n answer => exact iff_of_true (addAnswered_marked marked n answer) trivial
  | undoRemove id => exact iff_of_true (undoRemove_marked marked id) trivial
  | loaded groups => exact loaded_marked groups
  | selectGroup id => exact selectGroup_marked marked id
  | startRemove member => exact startRemove_marked handles marked member
  | removeTimerFires handle => exact removeTimerFires_marked handles marked handle
  | removeAnswered n ok => exact removeAnswered_marked marked n ok

theorem handles_mount : Handles Hook.mount :=
  ⟨List.nodup_nil, nofun, nofun, nofun⟩

/-- From the mount on, every removal that waits on screen can be undone exactly if each event leaves
the others be. -/
theorem pending_removal_undone_iff (events : List Event) :
    (∀ reached, reached <+: events → (reached.foldl step Hook.mount).CanUndo) ↔
      Guarded step Hook.LeavesBe Hook.mount events := by
  rw [← guarded_iff handles_step step_marked events handles_mount (marked_blank rfl)]
  have reach : ∀ reached : List Event, Handles (reached.foldl step Hook.mount) :=
    fun reached => invariant_of_forall handles_step handles_mount reached
  exact forall₂_congr fun reached _ => canUndo_iff_marked (reach reached)

end

/-! ### A group left and selected again -/

def chapterGroup : GroupDetail :=
  ⟨str "chapter", str "Chapter", str "Committee",
    [⟨⟨str "7", str "Nora", str "nora@pdx.org"⟩, .member⟩]⟩

def leftAndSelected : List Event :=
  [.loaded [chapterGroup, ⟨str "steering", str "Steering", str "Committee", []⟩],
    .startRemove ⟨⟨str "7", str "Nora", str "nora@pdx.org"⟩, .member⟩,
      .selectGroup (str "steering"),
    .selectGroup (str "chapter")]

/-- Nora's removal is still waiting, without a tombstone to undo it by. -/
theorem pending_removal_hidden :
    ¬∀ reached, reached <+: leftAndSelected → (reached.foldl step Hook.mount).CanUndo := by
  intro always
  have shown := (always leftAndSelected (List.prefix_refl _) ⟨1, str "chapter", str "7"⟩
    (List.mem_singleton_self _) rfl).1
  exact List.not_mem_nil shown

end Rosadmin.Frontend
