import Mathlib.Data.List.Chain
import Rosadmin.Foundation.Table
import Rosadmin.Web.Sessions

/-!
# The two session stores

The dictionary forgets a session once a resolve finds it expired, the table
keeps its row. As long as the clock does not go back neither can tell: a row
that is too old stays too old. What both answer is a fact about the calls made
so far.
-/

namespace Rosadmin
open Foundation

inductive SessionCall where
  | create (token : Str) (principal : Principal)
  | resolve (token : Str)
  | revoke (token : Str)
  deriving DecidableEq

def SessionCall.token : SessionCall → Str
  | create token _ | resolve token | revoke token => token

structure TimedCall where
  time : Time
  call : SessionCall
  deriving DecidableEq

/-- The token a `create` drew. -/
def TimedCall.drawn (c : TimedCall) : Option Str :=
  match c.call with
  | .create token _ => some token
  | .resolve _ | .revoke _ => none

structure Answered extends TimedCall where
  answer : Option Principal
  deriving DecidableEq

structure Serving (σ : Type) where
  store : σ
  log : List Answered

namespace SessionStore
variable {σ : Type} (sessions : SessionStore σ)

def perform (c : TimedCall) (store : σ) : Option Principal × σ :=
  match c.call with
  | .create token principal => (none, sessions.create c.time token principal store)
  | .resolve token => sessions.resolve c.time token store
  | .revoke token => (none, sessions.revoke token store)

def serve (s : Serving σ) (c : TimedCall) : Serving σ :=
  ⟨(sessions.perform c s.store).2, s.log ++ [⟨c, (sessions.perform c s.store).1⟩]⟩

def run (calls : List TimedCall) (store : σ) : Serving σ := calls.foldl sessions.serve ⟨store, []⟩

end SessionStore

/-! ### What the calls say -/

/-- The creation of a session, or one resolve of it: when, and whether it set the idle clock
anew. -/
structure Reading where
  time : Time
  refreshed : Bool

def readings (token : Str) (log : List Answered) : List Reading :=
  (log.filter (·.call = .resolve token)).map fun a => ⟨a.time, a.answer.isSome⟩

def idleClock (created : Time) (token : Str) (later : List Answered) : List Reading :=
  ⟨created, true⟩ :: readings token later

/-- The token was created before the calls `later`, none of which revoked it. -/
structure Since (log : List Answered) (token : Str) (principal : Principal) (created : Time)
    (later : List Answered) : Prop where
  creation : ∃ before, log = before ++ ⟨⟨created, .create token principal⟩, none⟩ :: later
  unrevoked : ∀ a ∈ later, a.call ≠ .revoke token

/-- Whoever set the clock was followed by the next resolve in time. -/
def InTime (a b : Reading) : Prop := a.refreshed = true → b.time - a.time < idleTimeout

/-- Whether a resolve of the token at `now` finds the session of the principal. -/
def Live (log : List Answered) (token : Str) (principal : Principal) (now : Time) : Prop :=
  ∃ created later, Since log token principal created later ∧ now - created < absoluteLifetime ∧
    (idleClock created token later ++ [Reading.mk now true]).IsChain InTime

section
variable {log : List Answered} {token : Str} {principal other : Principal} {created now : Time}
    {later : List Answered} {a : Answered}

theorem since_append : Since (log ++ [a]) token principal created later ↔
    (later = [] ∧ a = ⟨⟨created, .create token principal⟩, none⟩) ∨
      ∃ earlier, later = earlier ++ [a] ∧ Since log token principal created earlier ∧
        a.call ≠ .revoke token := by
  constructor
  · rintro ⟨⟨before, split⟩, unrevoked⟩
    rcases List.eq_nil_or_concat later with rfl | ⟨earlier, last, rfl⟩
    · obtain ⟨-, same⟩ := List.append_inj' split rfl
      exact Or.inl ⟨rfl, List.singleton_inj.mp same⟩
    · rw [List.concat_eq_append] at split unrevoked ⊢
      rw [← List.cons_append, ← List.append_assoc] at split
      obtain ⟨rest, same⟩ := List.append_inj' split rfl
      obtain rfl := List.singleton_inj.mp same
      exact Or.inr ⟨earlier, rfl, ⟨⟨before, rest⟩, fun b member =>
        unrevoked b (List.mem_append_left _ member)⟩,
        unrevoked a (List.mem_append_right _ (List.mem_singleton_self a))⟩
  · rintro (⟨rfl, rfl⟩ | ⟨earlier, rfl, ⟨⟨before, rfl⟩, unrevoked⟩, kept⟩)
    · exact ⟨⟨log, rfl⟩, fun b member => absurd member List.not_mem_nil⟩
    · refine ⟨⟨before, by simp⟩, fun b member => ?_⟩
      rcases List.mem_append.mp member with old | new
      · exact unrevoked b old
      · exact List.mem_singleton.mp new ▸ kept

theorem readings_append : readings token (log ++ [a]) =
    readings token log ++ (if a.call = .resolve token then [⟨a.time, a.answer.isSome⟩]
      else []) := by
  unfold readings
  rw [List.filter_append, List.map_append]
  by_cases here : a.call = .resolve token <;> simp [here]

theorem since_unique {created' : Time} {later' : List Answered}
    (distinct : (log.filterMap (·.drawn)).Nodup) (one : Since log token principal created later)
    (two : Since log token other created' later') :
    principal = other ∧ created = created' ∧ later = later' := by
  obtain ⟨before, split⟩ := one.creation
  obtain ⟨before', split'⟩ := two.creation
  have whole := split.symm.trans split'
  rw [split] at distinct
  obtain ⟨-, same, rest⟩ := split_of_nullable whole distinct rfl rfl
  cases same
  exact ⟨rfl, rfl, rest⟩

theorem live_append_other (about : ∀ principal, a.call ≠ .create token principal)
    (kept : a.call ≠ .resolve token) (live : Live (log ++ [a]) token principal now) :
    Live log token principal now := by
  obtain ⟨created, later, since, young, chain⟩ := live
  rcases since_append.mp since with ⟨-, rfl⟩ | ⟨earlier, rfl, before, -⟩
  · exact absurd rfl (about principal)
  · refine ⟨created, earlier, before, young, ?_⟩
    rw [idleClock, readings_append, if_neg kept, List.append_nil] at chain
    exact chain

/-- A resolve that comes to nothing leaves nothing for a later one. -/
theorem live_append_resolve (called : a.call = .resolve token) (passed : a.time ≤ now)
    (live : Live (log ++ [a]) token principal now) : Live log token principal a.time := by
  obtain ⟨created, later, since, young, chain⟩ := live
  rcases since_append.mp since with ⟨-, rfl⟩ | ⟨earlier, rfl, before, -⟩
  · cases called
  · refine ⟨created, earlier, before,
      Int.lt_of_le_of_lt (Int.sub_le_sub_right passed created) young, ?_⟩
    rw [idleClock, readings_append, if_pos called, ← List.cons_append] at chain
    obtain ⟨clock, -, last⟩ := List.isChain_append.mp (List.isChain_append.mp chain).1
    exact List.isChain_append.mpr ⟨clock, List.isChain_singleton _, fun x end_ y this => by
      cases this
      have before := last x end_ ⟨a.time, a.answer.isSome⟩ rfl
      exact before⟩

/-! ### The dictionary -/

/-- The entry is what the calls since its creation have made of it. -/
def Held (log : List Answered) (token : Str) (entry : SessionEntry) : Prop :=
  ∃ later, Since log token entry.principal entry.created later ∧
    (idleClock entry.created token later).IsChain InTime ∧
    (idleClock entry.created token later).getLast? = some ⟨entry.lastSeen, true⟩

theorem live_of_held {entry : SessionEntry} (distinct : (log.filterMap (·.drawn)).Nodup)
    (held : Held log token entry) :
    Live log token principal now ↔ entry.principal = principal ∧ entry.expired now = false := by
  obtain ⟨later, since, chain, last⟩ := held
  have joined : (idleClock entry.created token later ++ [Reading.mk now true]).IsChain InTime ↔
      now - entry.lastSeen < idleTimeout := by
    rw [List.isChain_append]
    constructor
    · rintro ⟨-, -, apart⟩
      exact apart _ last _ rfl rfl
    · refine fun young => ⟨chain, List.isChain_singleton _, fun x end_ y this _ => ?_⟩
      cases last.symm.trans end_
      cases this
      exact young
  have fresh : entry.expired now = false ↔ now - entry.created < absoluteLifetime ∧
      now - entry.lastSeen < idleTimeout := by
    simp [SessionEntry.expired]
  rw [fresh]
  constructor
  · rintro ⟨created, later', other, young, clock⟩
    obtain ⟨rfl, rfl, rfl⟩ := since_unique distinct since other
    exact ⟨rfl, young, joined.mp clock⟩
  · rintro ⟨rfl, young, seen⟩
    exact ⟨entry.created, later, since, young, joined.mpr seen⟩

/-- What the entries say about the calls so far: an entry that is gone is gone for good. -/
structure Tracks (log : List Answered) (entries : SessionEntries) : Prop where
  held : ∀ token entry, entries.get? token = some entry → Held log token entry
  gone : ∀ token, entries.get? token = none → ∀ principal now, (∀ a ∈ log, a.time ≤ now) →
    ¬Live log token principal now

theorem resolveEntry_answer (entries : SessionEntries) : (resolveEntry now token entries).1 =
    ((entries.get? token).filter (fun entry => !entry.expired now)).map (·.principal) := by
  unfold resolveEntry
  cases entries.get? token with
  | none => rfl
  | some entry => cases expired : entry.expired now <;> simp [expired]

theorem get?_resolveEntry (entries : SessionEntries) (j : Str) :
    (resolveEntry now token entries).2.get? j =
    if j = token then ((entries.get? token).filter (fun entry => !entry.expired now)).map
      ({ · with lastSeen := now })
    else entries.get? j := by
  unfold resolveEntry
  cases held : entries.get? token with
  | none =>
    by_cases same : j = token
    · rw [if_pos same, same]
      exact held
    · exact (if_neg same).symm
  | some entry => cases expired : entry.expired now <;> simp [expired, Option.filter]

theorem resolveEntry_live {entries : SessionEntries} (tracks : Tracks log entries)
    (distinct : (log.filterMap (·.drawn)).Nodup) (clock : ∀ a ∈ log, a.time ≤ now) :
    (resolveEntry now token entries).1 = some principal ↔ Live log token principal now := by
  rw [resolveEntry_answer]
  cases found : entries.get? token with
  | none => exact ⟨fun answered => (nomatch answered), fun live =>
      absurd live (tracks.gone token found principal now clock)⟩
  | some entry =>
    rw [live_of_held distinct (tracks.held token entry found)]
    cases expired : entry.expired now <;> simp [expired]

theorem held_append {entry : SessionEntry} (apart : token ≠ a.call.token)
    (held : Held log token entry) : Held (log ++ [a]) token entry := by
  obtain ⟨later, since, chain, last⟩ := held
  have unread : a.call ≠ .resolve token := fun same => apart (by rw [same]; rfl)
  have unrevoked : a.call ≠ .revoke token := fun same => apart (by rw [same]; rfl)
  refine ⟨later ++ [a], since_append.mpr (Or.inr ⟨later, rfl, since, unrevoked⟩), ?_⟩
  rw [idleClock, readings_append, if_neg unread, List.append_nil]
  exact ⟨chain, last⟩

/-- A call moves the entry of its own token only. -/
theorem tracks_append {entries after : SessionEntries} (token : Str) (tracks : Tracks log entries)
    (about : a.call.token = token)
    (others : ∀ j, j ≠ token → after.get? j = entries.get? j)
    (held : ∀ entry, after.get? token = some entry → Held (log ++ [a]) token entry)
    (gone : after.get? token = none → ∀ principal now, a.time ≤ now →
      ¬Live (log ++ [a]) token principal now) :
    Tracks (log ++ [a]) after := by
  subst about
  constructor
  · intro token entry found
    by_cases same : token = a.call.token
    · subst same
      exact held entry found
    · exact held_append same (tracks.held token entry ((others token same).symm.trans found))
  · intro token found principal now clock live
    have passed : a.time ≤ now := clock a (List.mem_append_right _ (List.mem_singleton_self a))
    by_cases same : token = a.call.token
    · subst same
      exact gone found principal now passed live
    · have uncreated : ∀ principal, a.call ≠ .create token principal :=
        fun _ made => same (by rw [made]; rfl)
      have unread : a.call ≠ .resolve token := fun made => same (by rw [made]; rfl)
      exact tracks.gone token ((others token same).symm.trans found) principal now
        (fun b member => clock b (List.mem_append_left _ member))
          (live_append_other uncreated unread live)

theorem tracks_create {entries : SessionEntries} (tracks : Tracks log entries) (now : Time)
    (token : Str) (principal : Principal) : Tracks (log ++ [⟨⟨now, .create token principal⟩, none⟩])
      (entries.set token ⟨principal, now, now⟩) := by
  refine tracks_append token tracks rfl ?_ ?_ ?_
  · intro j other
    rw [Dict.get?_set, if_neg other]
  · intro entry found
    rw [Dict.get?_set, if_pos rfl] at found
    obtain rfl := Option.some.inj found
    exact ⟨[], ⟨⟨log, rfl⟩, fun b member => absurd member List.not_mem_nil⟩,
      List.isChain_singleton _, rfl⟩
  · intro missing
    rw [Dict.get?_set, if_pos rfl] at missing
    cases missing

theorem tracks_revoke {entries : SessionEntries} (tracks : Tracks log entries) (now : Time)
    (token : Str) : Tracks (log ++ [⟨⟨now, .revoke token⟩, none⟩]) (entries.erase token) := by
  refine tracks_append token tracks rfl ?_ ?_ ?_
  · intro j other
    rw [Dict.get?_erase, if_neg other]
  · intro entry found
    rw [Dict.get?_erase, if_pos rfl] at found
    cases found
  · rintro - principal now - ⟨created, later, since, -⟩
    rcases since_append.mp since with ⟨-, made⟩ | ⟨earlier, -, -, unrevoked⟩
    · cases made
    · exact unrevoked rfl

theorem held_refreshed {entry : SessionEntry} (held : Held log token entry)
    (young : entry.expired now = false) (principal : Principal) :
    Held (log ++ [⟨⟨now, .resolve token⟩, some principal⟩]) token
      { entry with lastSeen := now } := by
  obtain ⟨later, since, chain, last⟩ := held
  have seen : now - entry.lastSeen < idleTimeout := by
    simp only [SessionEntry.expired, Bool.or_eq_false_iff, decide_eq_false_iff_not,
      Int.not_le] at young
    exact young.2
  refine ⟨_, since_append.mpr (Or.inr ⟨later, rfl, since, nofun⟩), ?_⟩
  rw [idleClock, readings_append, if_pos rfl, ← List.cons_append]
  refine ⟨List.isChain_append.mpr ⟨chain, List.isChain_singleton _, ?_⟩, List.getLast?_concat⟩
  intro x end_ y this _
  cases last.symm.trans end_
  cases this
  exact seen

theorem tracks_resolve {entries : SessionEntries} (tracks : Tracks log entries)
    (distinct : (log.filterMap (·.drawn)).Nodup) (clock : ∀ a ∈ log, a.time ≤ now) (token : Str) :
    Tracks (log ++ [⟨⟨now, .resolve token⟩, (resolveEntry now token entries).1⟩])
      (resolveEntry now token entries).2 := by
  have own : (resolveEntry now token entries).2.get? token =
      ((entries.get? token).filter (fun entry => !entry.expired now)).map
        ({ · with lastSeen := now }) := by
    rw [get?_resolveEntry, if_pos rfl]
  refine tracks_append token tracks rfl ?_ ?_ ?_
  · intro j other
    rw [get?_resolveEntry, if_neg other]
  · intro entry found
    rw [own] at found
    obtain ⟨old, kept, rfl⟩ := Option.map_eq_some_iff.mp found
    obtain ⟨held, young⟩ := Option.filter_eq_some_iff.mp kept
    rw [resolveEntry_answer, kept]
    exact held_refreshed (tracks.held token old held) (by simpa using young) _
  · intro missing principal later passed live
    have silent : (resolveEntry now token entries).1 = none := by
      rw [resolveEntry_answer, Option.map_eq_none_iff.mp (own.symm.trans missing)]
      rfl
    have once := (resolveEntry_live tracks distinct clock).mpr (live_append_resolve rfl passed live)
    rw [silent] at once
    cases once

/-! ### The table beside it -/

def rowOf (sha256 : Str → Str) (token : Str) (entry : SessionEntry) : SessionsRow :=
  ⟨sha256 token, entry.principal.discordId, entry.created, entry.lastSeen⟩

/-- A session the dictionary has forgotten may still have its row, which is too old. -/
structure Mirrors (sha256 : Str → Str) (log : List Answered) (entries : SessionEntries)
    (rows : List SessionsRow) : Prop where
  keys : (rows.map (·.tokenHash)).Nodup
  drawn : ∀ row ∈ rows, ∃ token ∈ log.filterMap (·.drawn), row.tokenHash = sha256 token
  held : ∀ token entry, entries.get? token = some entry → rowOf sha256 token entry ∈ rows
  gone : ∀ token, entries.get? token = none → ∀ row ∈ rows, row.tokenHash = sha256 token →
    ∀ now, (∀ a ∈ log, a.time ≤ now) → row.live sha256 now token = false

variable {sha256 : Str → Str} {entries : SessionEntries} {rows : List SessionsRow}

theorem live_rowOf (entry : SessionEntry) :
    (rowOf sha256 token entry).live sha256 now token = !entry.expired now := by
  have turned : ∀ limit since : Int, now - limit < since ↔ now - since < limit :=
    fun _ _ => ⟨Int.sub_lt_of_sub_lt, Int.sub_lt_of_sub_lt⟩
  unfold SessionsRow.live rowOf SessionEntry.expired
  dsimp only
  rw [Bool.eq_iff_iff]
  simp only [decide_true, Bool.true_and, Bool.and_eq_true, Bool.not_eq_true', Bool.or_eq_false_iff,
    decide_eq_true_eq, decide_eq_false_iff_not, Int.not_le]
  exact and_congr (turned _ _) (turned _ _)

theorem live_hash {row : SessionsRow} (live : row.live sha256 now token = true) :
    row.tokenHash = sha256 token := by
  simp only [SessionsRow.live, Bool.and_eq_true, decide_eq_true_eq] at live
  exact live.1.1

theorem live_later {row : SessionsRow} {later : Time} (passed : now ≤ later)
    (live : row.live sha256 later token = true) : row.live sha256 now token = true := by
  simp only [SessionsRow.live, Bool.and_eq_true, decide_eq_true_eq] at live ⊢
  obtain ⟨⟨hash, created⟩, seen⟩ := live
  exact ⟨⟨hash, Int.lt_of_le_of_lt (Int.sub_le_sub_right passed _) created⟩,
    Int.lt_of_le_of_lt (Int.sub_le_sub_right passed _) seen⟩

theorem Mirrors.row_unique (mirrors : Mirrors sha256 log entries rows) {entry : SessionEntry}
    (held : entries.get? token = some entry) {row : SessionsRow} (member : row ∈ rows)
    (hash : row.tokenHash = sha256 token) : row = rowOf sha256 token entry :=
  List.inj_on_of_nodup_map mirrors.keys member (mirrors.held token entry held) hash

/-- No row is live for a token the dictionary cannot resolve. -/
theorem Mirrors.none_live (mirrors : Mirrors sha256 log entries rows)
    (clock : ∀ a ∈ log, a.time ≤ now)
    (unresolved : ∀ entry, entries.get? token = some entry → entry.expired now = true) :
    ∀ row ∈ rows, row.live sha256 now token = false := by
  intro row member
  by_cases hash : row.tokenHash = sha256 token
  · cases held : entries.get? token with
    | none => exact mirrors.gone token held row member hash now clock
    | some entry =>
      rw [mirrors.row_unique held member hash, live_rowOf, unresolved entry held]
      rfl
  · exact eq_false_of_ne_true fun live => hash (live_hash live)

theorem resolveSession_answer (mirrors : Mirrors sha256 log entries rows)
    (clock : ∀ a ∈ log, a.time ≤ now) :
    (resolveSession sha256 now token rows).1 = (resolveEntry now token entries).1 := by
  have silent : (∀ entry, entries.get? token = some entry → entry.expired now = true) →
      (resolveSession sha256 now token rows).1 = none := by
    intro unresolved
    have found : rows.find? (·.live sha256 now token) = none :=
      List.find?_eq_none.mpr fun row member => by
        simp [mirrors.none_live clock unresolved row member]
    rw [resolveSession, found]
    rfl
  unfold resolveEntry
  cases held : entries.get? token with
  | none => exact silent fun entry found => by cases held.symm.trans found
  | some entry =>
    dsimp only
    cases expired : entry.expired now with
    | true =>
      have unresolved : ∀ other, entries.get? token = some other → other.expired now = true := by
        intro other found
        cases held.symm.trans found
        exact expired
      exact silent unresolved
    | false =>
      have live : (rowOf sha256 token entry).live sha256 now token = true :=
        by rw [live_rowOf, expired]; rfl
      cases found : rows.find? (·.live sha256 now token) with
      | none => exact absurd live (List.find?_eq_none.mp found _ (mirrors.held token entry held))
      | some row =>
        have hash := live_hash (List.find?_some found)
        rw [resolveSession, found, mirrors.row_unique held (List.mem_of_find?_eq_some found) hash]
        rfl

theorem mirrors_create (injective : Function.Injective sha256)
    (mirrors : Mirrors sha256 log entries rows) (undrawn : token ∉ log.filterMap (·.drawn))
    (principal : Principal) :
    Mirrors sha256 (log ++ [⟨⟨now, .create token principal⟩, none⟩])
      (entries.set token ⟨principal, now, now⟩)
      (createSession sha256 now token principal rows) := by
  have apart : ∀ row ∈ rows, row.tokenHash ≠ sha256 token := by
    rintro row member same
    obtain ⟨other, drawn, hash⟩ := mirrors.drawn row member
    exact undrawn (injective (hash.symm.trans same) ▸ drawn)
  constructor
  · rw [createSession, List.map_append]
    refine List.nodup_append.mpr ⟨mirrors.keys, List.nodup_singleton _,
      fun hash old other new => ?_⟩
    obtain ⟨row, member, rfl⟩ := List.mem_map.mp old
    rw [List.mem_singleton.mp new]
    exact apart row member
  · intro row member
    rw [List.filterMap_append]
    rcases List.mem_append.mp member with old | new
    · obtain ⟨other, drawn, hash⟩ := mirrors.drawn row old
      exact ⟨other, List.mem_append_left _ drawn, hash⟩
    · obtain rfl := List.mem_singleton.mp new
      exact ⟨token, List.mem_append_right _ (List.mem_singleton_self token), rfl⟩
  · intro other entry found
    rw [Dict.get?_set] at found
    split at found
    · rename_i same
      cases same
      cases found
      exact List.mem_append_right _ (List.mem_singleton_self _)
    · exact List.mem_append_left _ (mirrors.held other entry found)
  · intro other found row member hash later clock
    rw [Dict.get?_set] at found
    split at found
    · cases found
    · rename_i different
      rcases List.mem_append.mp member with old | new
      · exact mirrors.gone other found row old hash later fun a called =>
          clock a (List.mem_append_left _ called)
      · obtain rfl := List.mem_singleton.mp new
        exact absurd (injective hash).symm different

theorem mirrors_revoke (injective : Function.Injective sha256)
    (mirrors : Mirrors sha256 log entries rows) :
    Mirrors sha256 (log ++ [⟨⟨now, .revoke token⟩, none⟩]) (entries.erase token)
      (revokeSession sha256 token rows) := by
  have kept : ∀ row, row ∈ revokeSession sha256 token rows ↔
      row ∈ rows ∧ row.tokenHash ≠ sha256 token := by
    intro row
    rw [revokeSession, List.mem_filter, bne_iff_ne]
  constructor
  · exact mirrors.keys.sublist (List.filter_sublist.map _)
  · intro row member
    rw [List.filterMap_append]
    obtain ⟨other, drawn, hash⟩ := mirrors.drawn row ((kept row).mp member).1
    exact ⟨other, List.mem_append_left _ drawn, hash⟩
  · intro other entry found
    rw [Dict.get?_erase] at found
    split at found
    · cases found
    · rename_i different
      exact (kept _).mpr ⟨mirrors.held other entry found, fun same => different (injective same)⟩
  · intro other found row member hash later clock
    obtain ⟨old, apart⟩ := (kept row).mp member
    have different : other ≠ token := by
      rintro rfl
      exact apart hash
    rw [Dict.get?_erase, if_neg different] at found
    exact mirrors.gone other found row old hash later fun a called =>
      clock a (List.mem_append_left _ called)

/-- A resolve writes to the row of its own token, and only if it answers. -/
theorem mem_resolveSession {row : SessionsRow} : row ∈ (resolveSession sha256 now token rows).2 ↔
    (∃ old ∈ rows, old.live sha256 now token = true ∧ { old with lastSeenAt := now } = row) ∨
      (row ∈ rows ∧ row.live sha256 now token = false) :=
  mem_update

theorem hash_resolveSession (now : Time) (token : Str) (rows : List SessionsRow) :
    (resolveSession sha256 now token rows).2.map (·.tokenHash) = rows.map (·.tokenHash) := by
  rw [resolveSession, List.map_map]
  refine List.map_congr_left fun row _ => ?_
  show (if row.live sha256 now token then { row with lastSeenAt := now } else row).tokenHash =
    row.tokenHash
  split <;> rfl

/-- The row of a session that stays, its last visit moved along with the entry's. -/
theorem resolve_held (injective : Function.Injective sha256)
    (mirrors : Mirrors sha256 log entries rows) {other : Str} {entry : SessionEntry}
    (found : (resolveEntry now token entries).2.get? other = some entry) :
    rowOf sha256 other entry ∈ (resolveSession sha256 now token rows).2 := by
  rw [get?_resolveEntry] at found
  split at found
  · rename_i same
    subst same
    obtain ⟨old, kept, rfl⟩ := Option.map_eq_some_iff.mp found
    obtain ⟨held, young⟩ := Option.filter_eq_some_iff.mp kept
    refine mem_resolveSession.mpr (Or.inl ⟨rowOf sha256 other old,
      mirrors.held other old held, ?_, rfl⟩)
    rw [live_rowOf]
    exact young
  · rename_i different
    refine mem_resolveSession.mpr (Or.inr ⟨mirrors.held other entry found,
      eq_false_of_ne_true fun live => ?_⟩)
    exact different (injective (live_hash live))

/-- The row of a session that has gone is dead from now on. -/
theorem resolve_gone (injective : Function.Injective sha256)
    (mirrors : Mirrors sha256 log entries rows) (clock : ∀ a ∈ log, a.time ≤ now) {other : Str}
    (found : (resolveEntry now token entries).2.get? other = none) {row : SessionsRow}
    (member : row ∈ (resolveSession sha256 now token rows).2) (hash : row.tokenHash = sha256 other)
    {later : Time} (before : ∀ a ∈ log, a.time ≤ later) (reached : now ≤ later) :
    row.live sha256 later other = false := by
  rw [get?_resolveEntry] at found
  split at found
  · rename_i same
    subst same
    have unresolved : ∀ entry, entries.get? other = some entry → entry.expired now = true := by
      intro entry held
      rw [held, Option.map_eq_none_iff, Option.filter_eq_none_iff] at found
      simpa using found entry rfl
    have dead : ∀ row ∈ rows, row.live sha256 now other = false :=
      mirrors.none_live clock unresolved
    rcases mem_resolveSession.mp member with ⟨old, here, live, -⟩ | ⟨here, -⟩
    · rw [dead old here] at live
      cases live
    · refine eq_false_of_ne_true fun live => ?_
      have before := live_later reached live
      rw [dead row here] at before
      cases before
  · rename_i different
    rcases mem_resolveSession.mp member with ⟨old, -, live, rfl⟩ | ⟨here, -⟩
    · have theirs : old.tokenHash = sha256 other := hash
      exact absurd (injective (theirs.symm.trans (live_hash live))) different
    · exact mirrors.gone other found row here hash later before

theorem mirrors_resolve (injective : Function.Injective sha256)
    (mirrors : Mirrors sha256 log entries rows) (clock : ∀ a ∈ log, a.time ≤ now)
    (answer : Option Principal) :
    Mirrors sha256 (log ++ [⟨⟨now, .resolve token⟩, answer⟩]) (resolveEntry now token entries).2
      (resolveSession sha256 now token rows).2 where
  keys := by
    rw [hash_resolveSession]
    exact mirrors.keys
  drawn := by
    intro row member
    rw [List.filterMap_append]
    have same : row.tokenHash ∈ rows.map (·.tokenHash) :=
      hash_resolveSession now token rows ▸ List.mem_map_of_mem member
    obtain ⟨old, here, theirs⟩ := List.mem_map.mp same
    obtain ⟨other, drawn, hash⟩ := mirrors.drawn old here
    exact ⟨other, List.mem_append_left _ drawn, theirs.symm.trans hash⟩
  held := fun other entry found => resolve_held injective mirrors found
  gone := by
    intro other found row member hash later passed
    have before : ∀ a ∈ log, a.time ≤ later := fun a called =>
      passed a (List.mem_append_left _ called)
    have reached : now ≤ later := passed _ (List.mem_append_right _ (List.mem_singleton_self _))
    exact resolve_gone injective mirrors clock found member hash before reached

end

/-! ### Both stores, call by call -/

/-- The two stores after the same calls: one log, and the states that go with it. -/
structure InStep (sha256 : Str → Str) (calls : List TimedCall) (memory : Serving SessionEntries)
    (table : Serving (List SessionsRow)) : Prop where
  logs : table.log = memory.log
  calls : memory.log.map (·.toTimedCall) = calls
  tracks : Tracks memory.log memory.store
  mirrors : Mirrors sha256 memory.log memory.store table.store

section
variable {sha256 : Str → Str} {calls : List TimedCall} {memory : Serving SessionEntries}
  {table : Serving (List SessionsRow)}

theorem InStep.drawn (inStep : InStep sha256 calls memory table) :
    memory.log.filterMap (·.drawn) = calls.filterMap (·.drawn) := by
  rw [← inStep.calls, List.filterMap_map]
  rfl

theorem InStep.clock (inStep : InStep sha256 calls memory table) {now : Time}
    (clock : ∀ c ∈ calls, c.time ≤ now) : ∀ a ∈ memory.log, a.time ≤ now := by
  intro a called
  rw [← inStep.calls] at clock
  exact clock _ (List.mem_map_of_mem called)

theorem inStep_start (sha256 : Str → Str) : InStep sha256 [] ⟨Dict.empty, []⟩ ⟨[], []⟩ := by
  have tracks : Tracks [] (Dict.empty : SessionEntries) := by
    refine ⟨fun token entry found => (nomatch found), ?_⟩
    rintro token - principal now - ⟨created, later, ⟨⟨before, split⟩, -⟩, -⟩
    exact absurd split.symm (List.append_ne_nil_of_right_ne_nil _ (List.cons_ne_nil _ _))
  have mirrors : Mirrors sha256 [] (Dict.empty : SessionEntries) [] :=
    ⟨List.nodup_nil, fun row member => (nomatch member), fun token entry found => (nomatch found),
      fun token _ row member => (nomatch member)⟩
  exact ⟨rfl, rfl, tracks, mirrors⟩

theorem inStep_serve (injective : Function.Injective sha256)
    (inStep : InStep sha256 calls memory table) (c : TimedCall)
    (clock : ∀ d ∈ calls, d.time ≤ c.time) (fresh : ((calls ++ [c]).filterMap (·.drawn)).Nodup) :
    InStep sha256 (calls ++ [c]) (inMemorySessionStore.serve memory c)
      ((postgresSessionStore sha256).serve table c) := by
  have clock := inStep.clock clock
  rw [List.filterMap_append, ← inStep.drawn] at fresh
  have distinct := (List.nodup_append.mp fresh).1
  have listed : ∀ answer, (memory.log ++ [Answered.mk c answer]).map (·.toTimedCall) = calls ++
      [c] := by
    intro answer
    rw [List.map_append, inStep.calls]
    rfl
  obtain ⟨now, call⟩ := c
  cases call with
  | create token principal =>
    have undrawn : token ∉ memory.log.filterMap (·.drawn) :=
      fun old => (List.nodup_append.mp fresh).2.2 token old token
        (List.mem_singleton_self token) rfl
    refine ⟨?_, listed _, tracks_create inStep.tracks now token principal,
      mirrors_create injective inStep.mirrors undrawn principal⟩
    show table.log ++ _ = memory.log ++ _
    rw [inStep.logs]
    rfl
  | resolve token =>
    have same : (resolveSession sha256 now token table.store).1 =
        (resolveEntry now token memory.store).1 :=
      resolveSession_answer inStep.mirrors clock
    refine ⟨?_, listed _, tracks_resolve inStep.tracks distinct clock token,
      mirrors_resolve injective inStep.mirrors clock _⟩
    show table.log ++ [⟨⟨now, .resolve token⟩, (resolveSession sha256 now token table.store).1⟩] =
      memory.log ++ _
    rw [inStep.logs, same]
    rfl
  | revoke token =>
    refine ⟨?_, listed _, tracks_revoke inStep.tracks now token,
      mirrors_revoke injective inStep.mirrors⟩
    show table.log ++ _ = memory.log ++ _
    rw [inStep.logs]
    rfl

theorem inStep_run (injective : Function.Injective sha256)
    (clock : (calls.map (·.time)).Pairwise (· ≤ ·)) (fresh : (calls.filterMap (·.drawn)).Nodup) :
    InStep sha256 calls (inMemorySessionStore.run calls .empty)
      ((postgresSessionStore sha256).run calls []) := by
  induction calls using List.reverseRecOn with
  | nil => exact inStep_start sha256
  | append_singleton calls c ih =>
    rw [List.map_append, List.pairwise_append] at clock
    have earlier : (calls.filterMap (·.drawn)).Nodup := by
      rw [List.filterMap_append] at fresh
      exact (List.nodup_append.mp fresh).1
    have passed : ∀ d ∈ calls, d.time ≤ c.time := fun d called =>
      clock.2.2 d.time (List.mem_map_of_mem called) c.time (List.mem_singleton_self _)
    have step := inStep_serve injective (ih clock.1 earlier) c passed fresh
    unfold SessionStore.run at step ⊢
    rw [List.foldl_append, List.foldl_append]
    exact step

/-- Both stores answer every call alike, and a resolve finds a session as long as it is live. -/
theorem session_stores_agree (injective : Function.Injective sha256)
    (clock : (calls.map (·.time)).Pairwise (· ≤ ·)) (fresh : (calls.filterMap (·.drawn)).Nodup) :
    ((postgresSessionStore sha256).run calls []).log = (inMemorySessionStore.run calls .empty).log ∧
      ∀ earlier now token rest principal, calls = earlier ++ ⟨now, .resolve token⟩ :: rest →
        ((inMemorySessionStore.resolve now token
          (inMemorySessionStore.run earlier .empty).store).1 = some principal ↔
          Live (inMemorySessionStore.run earlier .empty).log token principal now) := by
  refine ⟨(inStep_run injective clock fresh).logs, ?_⟩
  rintro earlier now token rest principal rfl
  rw [List.map_append, List.pairwise_append] at clock
  rw [List.filterMap_append] at fresh
  have distinct := (List.nodup_append.mp fresh).1
  have inStep := inStep_run injective clock.1 distinct
  have passed : ∀ c ∈ earlier, c.time ≤ now := fun c called =>
    clock.2.2 c.time (List.mem_map_of_mem called) now List.mem_cons_self
  exact resolveEntry_live inStep.tracks (inStep.drawn ▸ distinct) (inStep.clock passed)

end

def hours (n : Int) : Time := n * 3600 * 1000000

def firstVisits : List TimedCall :=
  [⟨hours 0, .create (str "token") ⟨str "7"⟩⟩, ⟨hours 1, .resolve (str "token")⟩]

/-- Two hours after the last visit the session is gone, and so it stays. -/
def visits : List TimedCall :=
  firstVisits ++ [⟨hours 3, .resolve (str "token")⟩, ⟨hours 4, .resolve (str "token")⟩]

example : (inMemorySessionStore.run visits .empty).log.map (·.answer) = [none, some ⟨str "7"⟩, none,
    none] := by decide

theorem session_stores_agree_visits :
    ((postgresSessionStore id).run visits []).log = (inMemorySessionStore.run visits .empty).log ∧
      ((inMemorySessionStore.resolve (hours 3) (str "token")
        (inMemorySessionStore.run firstVisits .empty).store).1 =
        some ⟨str "7"⟩ ↔ Live (inMemorySessionStore.run firstVisits .empty).log (str "token")
          ⟨str "7"⟩ (hours 3)) := by
  have clock : (visits.map (·.time)).Pairwise (· ≤ ·) := by decide
  have agree := session_stores_agree Function.injective_id clock (by decide)
  exact ⟨agree.1, agree.2 firstVisits (hours 3) (str "token") _ ⟨str "7"⟩ rfl⟩

end Rosadmin
