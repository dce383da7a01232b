import Rosadmin.Db.Schema

/-!
# The leader panel

`useGroupAdmin`: the reducer over the group on screen, the cache of the loaded
groups beside it, and what is under way, which are the removals waiting for
their timers and the requests waiting for their answers. Each of these keeps the
group it was made for.
-/

namespace Rosadmin.Frontend
open Foundation

structure Member where
  id : Str
  name : Str
  email : Str
  deriving DecidableEq

structure RosterMember extends Member where
  role : Role
  deriving DecidableEq

structure GroupDetail where
  id : Str
  name : Str
  bodyType : Str
  members : List RosterMember
  deriving DecidableEq

/-! ### The reducer -/

inductive AddPanelState where
  | idle
  | searching
  | found (member : Member)
  | notfound (email : Str)
  | alreadymember (name groupName : Str)
  | added (name groupName : Str)
  | error (message : Str)
  deriving DecidableEq

structure GroupState where
  loading : Bool
  error : Option Str
  group : Option GroupDetail
  add : AddPanelState
  recentlyAdded : List RosterMember
  removingIds : List Str
  deriving DecidableEq

def initialState : GroupState :=
  { loading := false, error := none, group := none, add := .idle, recentlyAdded := [],
    removingIds := [] }

/-- The actions of a search, which move the add panel alone. -/
inductive SearchAction where
  | searchStart
  | searchFound (member : Member)
  | searchNotFound (email : Str)
  | searchAlreadyMember (name groupName : Str)
  | searchErr (message : Str)
  | clearAdd

inductive Action where
  | reset
  | loadStart
  | loadOk (group : GroupDetail)
  | loadErr (message : Str)
  | search (action : SearchAction)
  | added (member : RosterMember) (groupName : Str)
  | addErr (message : Str)
  | removeStart (id : Str)
  | removeUndo (id : Str)
  | removeCommit (id : Str)
  | removeErr (id : Str)

def withoutMember (id : Str) (members : List RosterMember) : List RosterMember :=
  members.filter (·.id ≠ id)

/-- The new member rides at the very top. -/
def withMember (member : RosterMember) (members : List RosterMember) : List RosterMember :=
  member :: withoutMember member.id members

def SearchAction.panel : SearchAction → AddPanelState
  | searchStart => .searching
  | searchFound member => .found member
  | searchNotFound email => .notfound email
  | searchAlreadyMember name groupName => .alreadymember name groupName
  | searchErr message => .error message
  | clearAdd => .idle

def reducer (state : GroupState) : Action → GroupState
  | .reset => initialState
  | .loadStart => { initialState with loading := true }
  | .loadOk group => { initialState with group := some group }
  | .loadErr message => { initialState with error := some message }
  | .search action => { state with add := action.panel }
  | .added member groupName => match state.group with
    | none => state
    | some group => { state with
        group := some { group with members := withMember member group.members }
        recentlyAdded := withMember member state.recentlyAdded
        add := .added member.name groupName }
  | .addErr message => { state with add := .error message }
  | .removeStart id => { state with removingIds := state.removingIds ++ [id] }
  | .removeUndo id => { state with removingIds := state.removingIds.filter (· ≠ id) }
  | .removeCommit id => match state.group with
    | none => state
    | some group => { state with
        group := some { group with members := withoutMember id group.members }
        recentlyAdded := withoutMember id state.recentlyAdded
        removingIds := state.removingIds.filter (· ≠ id) }
  -- The request failed, so the member stays.
  | .removeErr id => { state with removingIds := state.removingIds.filter (· ≠ id) }

section
variable (state : GroupState) (member : RosterMember) (groupName id : Str)

@[simp] theorem added_loading : (reducer state (.added member groupName)).loading =
    state.loading := by
  obtain ⟨_, _, group, _, _, _⟩ := state
  cases group <;> rfl

@[simp] theorem added_group : (reducer state (.added member groupName)).group =
    state.group.map fun group => { group with members := withMember member group.members } := by
  obtain ⟨_, _, group, _, _, _⟩ := state
  cases group <;> rfl

@[simp] theorem added_removingIds :
    (reducer state (.added member groupName)).removingIds = state.removingIds := by
  obtain ⟨_, _, group, _, _, _⟩ := state
  cases group <;> rfl

@[simp] theorem removeCommit_loading :
    (reducer state (.removeCommit id)).loading = state.loading := by
  obtain ⟨_, _, group, _, _, _⟩ := state
  cases group <;> rfl

@[simp] theorem removeCommit_group : (reducer state (.removeCommit id)).group =
    state.group.map fun group => { group with members := withoutMember id group.members } := by
  obtain ⟨_, _, group, _, _, _⟩ := state
  cases group <;> rfl

/-- With no group on screen there is nothing to commit, and a tombstone stays. -/
theorem removeCommit_removingIds (shown : state.group ≠ none) :
    (reducer state (.removeCommit id)).removingIds = state.removingIds.filter (· ≠ id) := by
  obtain ⟨_, _, group, _, _, _⟩ := state
  cases group with
  | none => exact absurd rfl shown
  | some group => rfl

end

/-! ### The hook -/

/-- A callback `setTimeout` still holds: the group and the member its removal was started for. -/
structure Timer where
  handle : Nat
  groupId : Str
  memberId : Str
  deriving DecidableEq

structure AddRequest where
  groupId : Str
  memberId : Str
  groupName : Str

structure RemoveRequest where
  groupId : Str
  memberId : Str

structure Hook where
  groups : List GroupDetail
  selectedId : Option Str
  state : GroupState
  /-- The handles kept for an undo, by member id. -/
  removeTimers : Dict Str Nat
  timers : List Timer
  adding : List AddRequest
  removing : List RemoveRequest
  nextHandle : Nat
  /-- The handles of the timers that have sent their request. Nothing reads it. -/
  sent : List Nat

namespace Hook

def mount : Hook :=
  { groups := [], selectedId := none, state := initialState, removeTimers := Dict.empty,
    timers := [], adding := [], removing := [], nextHandle := 1, sent := [] }

variable (h : Hook)

def dispatch (action : Action) : Hook := { h with state := reducer h.state action }

def patchRoster (groupId : Str) (fn : List RosterMember → List RosterMember) : Hook :=
  { h with groups := h.groups.map fun g => if g.id = groupId then { g with members := fn g.members }
    else g }

def cached (id : Str) : Option GroupDetail := h.groups.find? (·.id = id)

/-- The `selectedId` a handler goes on with: the empty string is none. -/
def selected : Option Str := h.selectedId.filter (· ≠ [])

/-- `getGroups` has answered. -/
def loaded (groups : List GroupDetail) : Hook :=
  let first := groups.head?
  let h : Hook := { h with groups, selectedId := first.map (·.id) }
  h.dispatch (first.elim .reset .loadOk)

def selectGroup (id : Str) : Hook :=
  match h.cached id with
  | some group =>
    let h := { h with selectedId := some id }
    h.dispatch (.loadOk group)
  | none => { h with selectedId := some id }

def confirmAdd (member : Member) : Hook :=
  match h.selected, h.state.group with
  | some selectedId, some group =>
    if group.members.any (·.id = member.id) then h
    else { h with adding := h.adding ++ [⟨selectedId, member.id, group.name⟩] }
  | _, _ => h

/-- The answer to the `n`-th of the adds under way. -/
def addAnswered (n : Nat) (answer : Except Str RosterMember) : Hook :=
  match h.adding[n]? with
  | none => h
  | some request =>
    let h := { h with adding := h.adding.eraseIdx n }
    match answer with
    | .ok added => (h.dispatch (.added added request.groupName)).patchRoster request.groupId
        (withMember added)
    | .error message => h.dispatch (.addErr message)

def startRemove (member : RosterMember) : Hook :=
  match h.selected with
  | none => h
  | some selectedId =>
    let h := h.dispatch (.removeStart member.id)
    { h with
      timers := h.timers ++ [⟨h.nextHandle, selectedId, member.id⟩]
      removeTimers := h.removeTimers.set member.id h.nextHandle
      nextHandle := h.nextHandle + 1 }

/-- The undo window of one removal has elapsed. -/
def removeTimerFires (handle : Nat) : Hook :=
  match h.timers.find? (·.handle = handle) with
  | none => h
  | some timer =>
    { h with
      timers := h.timers.filter (·.handle ≠ handle)
      removeTimers := h.removeTimers.erase timer.memberId
      removing := h.removing ++ [⟨timer.groupId, timer.memberId⟩]
      sent := h.sent ++ [handle] }

def removeAnswered (n : Nat) (ok : Bool) : Hook :=
  match h.removing[n]? with
  | none => h
  | some request =>
    let h := { h with removing := h.removing.eraseIdx n }
    if ok then (h.dispatch (.removeCommit request.memberId)).patchRoster request.groupId
      (withoutMember request.memberId)
    else h.dispatch (.removeErr request.memberId)

def undoRemove (id : Str) : Hook :=
  match h.removeTimers.get? id with
  | none => h.dispatch (.removeUndo id)
  | some handle =>
    let h := { h with
      timers := h.timers.filter (·.handle ≠ handle), removeTimers := h.removeTimers.erase id }
    h.dispatch (.removeUndo id)

end Hook

inductive Event where
  | loadStarted
  | loaded (groups : List GroupDetail)
  | loadFailed (message : Str)
  | search (action : SearchAction)
  | selectGroup (id : Str)
  | confirmAdd (member : Member)
  | addAnswered (n : Nat) (answer : Except Str RosterMember)
  | startRemove (member : RosterMember)
  | removeTimerFires (handle : Nat)
  | removeAnswered (n : Nat) (ok : Bool)
  | undoRemove (id : Str)

def step (h : Hook) : Event → Hook
  | .loadStarted => h.dispatch .loadStart
  | .loaded groups => h.loaded groups
  | .loadFailed message => h.dispatch (.loadErr message)
  | .search action => h.dispatch (.search action)
  | .selectGroup id => h.selectGroup id
  | .confirmAdd member => h.confirmAdd member
  | .addAnswered n answer => h.addAnswered n answer
  | .startRemove member => h.startRemove member
  | .removeTimerFires handle => h.removeTimerFires handle
  | .removeAnswered n ok => h.removeAnswered n ok
  | .undoRemove id => h.undoRemove id

end Rosadmin.Frontend
