import Rosadmin.Web.Routes
import Rosadmin.Foundation.Calendar
import Rosadmin.Foundation.Words
import Rosadmin.Foundation.Windows

/-!
# The rate limit

Two limiters count the hits of a bucket in the current minute: one keeps rows
that the sweep prunes, the other a dictionary under the minute's text.
-/

namespace Rosadmin.Web
open Foundation

inductive LimitedEndpoint where
  | begin
  | callback
  | searchMembers
  | addMember
  | removeMember
  deriving DecidableEq

def LimitedEndpoint.pathFormat : LimitedEndpoint → Str
  | begin => str "/api/auth/begin"
  | callback => str "/api/auth/callback"
  | searchMembers => str "/api/members/search"
  | addMember => str "/api/groups/\x7bgroup_id\x7d/members"
  | removeMember => str "/api/groups/\x7bgroup_id\x7d/members/\x7bmember_id\x7d"

/-- A request as the limit sees it: `_client_ip` is `none` where neither the header nor a peer is
there. -/
structure Arrival where
  endpoint : LimitedEndpoint
  clientIp : Option Str
  now : Time

def endpointBucket (endpoint : LimitedEndpoint) (clientIp : Str) : Str :=
  str "auth:" ++ endpoint.pathFormat ++ str ":" ++ clientIp

structure RateLimitCountersRow where
  bucket : Str
  windowStart : Time
  count : Nat

def RateLimitCountersRow.of (bucket : Str) (window : Time) (row : RateLimitCountersRow) : Bool :=
  row.bucket = bucket && row.windowStart = window

/-- `PostgresRateLimiter` over `rate_limit_counters`, and the sweep's `prune_expired`. -/
def postgresRateLimiter : WindowCounter Str Time (List RateLimitCountersRow) where
  bump bucket now table :=
    match table.find? (·.of bucket (windowStart now)) with
    | none => (1, table ++ [⟨bucket, windowStart now, 1⟩])
    | some row =>
      (row.count + 1, table.map fun r => if r.of bucket (windowStart now)
        then { r with count := r.count + 1 } else r)
  forget now table := table.filter fun row => ¬row.windowStart < now - 3600000000

/-- `InMemoryRateLimiter`; nothing prunes it. -/
def inMemoryRateLimiter : WindowCounter Str Time (Dict (Str × Str) Nat) where
  bump bucket now counts :=
    let key := (bucket, minuteText (now / 60000000).toNat)
    let count := (counts.get? key).getD 0 + 1
    (count, counts.set key count)
  forget _ counts := counts

inductive DoorEvent where
  | arrives (a : Arrival)
  | prunes (now : Time)

section
variable {σ : Type} (limiter : WindowCounter Str Time σ)

/-- Which requests `rate_limited` lets pass. -/
def verdicts : σ → List DoorEvent → List (Arrival × Bool)
  | _, [] => []
  | s, .arrives a :: events => match a.clientIp with
    | none => (a, true) :: verdicts s events
    | some ip =>
      let counted := limiter.bump (endpointBucket a.endpoint ip) a.now s
      (a, decide (counted.1 ≤ authRateLimit)) :: verdicts counted.2 events
  | s, .prunes now :: events => verdicts (limiter.forget now s) events

end

def Arrival.by (endpoint : LimitedEndpoint) (ip : Str) (a : Arrival) : Bool :=
  a.endpoint = endpoint && a.clientIp = some ip

/-- What one client is told at an endpoint. -/
def verdictsFor (endpoint : LimitedEndpoint) (ip : Str) (all : List (Arrival × Bool)) : List Bool :=
  (all.filter fun v => v.1.by endpoint ip).map (·.2)

/-- When a client asks at an endpoint. -/
def arrivalTimes (endpoint : LimitedEndpoint) (ip : Str) (events : List DoorEvent) : List Time :=
  events.filterMap fun
    | .arrives a => if a.by endpoint ip then some a.now else none
    | .prunes _ => none

/-- Of the requests of one minute, the first twenty pass. -/
def allowance (times : List Time) : List Bool :=
  (windowTallies windowStart [] times).map (· ≤ authRateLimit)

def DoorEvent.instant : DoorEvent → Time
  | .arrives a => a.now
  | .prunes now => now

/-- A `datetime` from the epoch on. -/
def Dated (now : Time) : Prop := 0 ≤ now ∧ now < 253402300800000000

/-- The clock of a request is at most 59 minutes behind that of a pruning before it. -/
def PruneSparesWindow (pruned now : Time) : Prop := pruned - 3540000000 ≤ now

def DoorEvent.Spares : DoorEvent → DoorEvent → Prop
  | .prunes pruned, .arrives a => PruneSparesWindow pruned a.now
  | _, _ => True

theorem endpointBucket_injective {endpoint other : LimitedEndpoint} {ip otherIp : Str}
    (same : endpointBucket endpoint ip = endpointBucket other otherIp) :
    endpoint = other ∧ ip = otherIp := by
  have plain : ∀ e : LimitedEndpoint, 0x3a ∉ e.pathFormat := fun e => by cases e <;> decide
  -- no template holds a colon, so the first one after `auth:` ends it
  have cut : ∀ (e : LimitedEndpoint) (ip : Str),
      cutFirst 0x3a ((endpointBucket e ip).drop 5) = some (e.pathFormat, ip) := by
    intro e ip
    have rest : (endpointBucket e ip).drop 5 = e.pathFormat ++ 0x3a :: ip := by
      rw [endpointBucket, List.append_assoc, List.append_assoc]
      rfl
    rw [rest, cutFirst_append (plain e)]
  have parts := (cut endpoint ip).symm.trans
    ((congrArg (fun key => cutFirst 0x3a (key.drop 5)) same).trans (cut other otherIp))
  obtain ⟨path, ips⟩ := Prod.mk.inj (Option.some.inj parts)
  refine ⟨?_, ips⟩
  revert path
  cases endpoint <;> cases other <;> decide

/-- The endpoint a resource is served at, where it is limited. -/
def Resource.limitedEndpoint : Resource → Option LimitedEndpoint
  | .me | .myGroups => none
  | .searchMembers _ => some .searchMembers
  | .addMember _ _ => some .addMember
  | .removeMember _ _ => some .removeMember

/-- The routes hold a request against the bucket of its endpoint. -/
theorem bucket_endpoint (request : Request) :
    bucket request = request.resource.limitedEndpoint.bind fun endpoint =>
      (clientIp request).map (endpointBucket endpoint) := by
  rw [bucket]
  cases request.resource <;> cases clientIp request <;> rfl

/-! ### What each limiter keeps -/

def countsOf (table : List RateLimitCountersRow) (bucket : Str) (window : Time) : Nat :=
  ((table.find? (·.of bucket window)).map (·.count)).getD 0

theorem windowStart_spared {pruned now : Int} (spares : PruneSparesWindow pruned now) :
    ¬windowStart now < pruned - 3600000000 := by
  have near : pruned - 3540000000 ≤ now := spares
  change ¬(now - now % 60000000 : Int) < pruned - 3600000000
  omega

theorem of_other {bucket key : Str} {window w : Time} {row : RateLimitCountersRow}
    (other : ¬(key = bucket ∧ w = window)) (held : row.of bucket window) :
    row.of key w = false := by
  simp only [RateLimitCountersRow.of, Bool.and_eq_true, decide_eq_true_eq] at held
  obtain ⟨rfl, rfl⟩ := held
  refine eq_false_of_ne_true fun found => other ?_
  simp only [RateLimitCountersRow.of, Bool.and_eq_true, decide_eq_true_eq] at found
  exact ⟨found.1.symm, found.2.symm⟩

theorem find?_bumped (table : List RateLimitCountersRow) (p q : RateLimitCountersRow → Bool)
    (blind : ∀ row n, q { row with count := n } = q row) :
    (table.map fun r => if p r then { r with count := r.count + 1 } else r).find? q =
      (table.find? q).map fun r => if p r then { r with count := r.count + 1 } else r := by
  induction table with
  | nil => rfl
  | cons row table ih =>
    have kept : q (if p row then { row with count := row.count + 1 } else row) = q row := by
      split
      · exact blind row _
      · rfl
    rw [List.map_cons, List.find?_cons, List.find?_cons, kept, ih]
    cases q row <;> rfl

theorem postgresRateLimiter_reads :
    postgresRateLimiter.Reads windowStart Dated PruneSparesWindow countsOf where
  answer := by
    intro bucket now table _
    simp only [postgresRateLimiter, countsOf]
    cases table.find? (·.of bucket (windowStart now)) <;> rfl
  bumped := by
    intro bucket now key u table _ _
    simp only [postgresRateLimiter, countsOf]
    cases found : table.find? (·.of bucket (windowStart now)) with
    | none =>
      dsimp only
      rw [List.find?_append]
      by_cases own : key = bucket ∧ windowStart u = windowStart now
      · obtain ⟨rfl, same⟩ := own
        rw [same, found]
        simp [RateLimitCountersRow.of]
      · have mine : (RateLimitCountersRow.mk bucket (windowStart now) 1).of bucket
            (windowStart now) := by
          simp [RateLimitCountersRow.of]
        have other := of_other own mine
        rw [if_neg own, List.find?_cons, other, List.find?_nil, Option.or_none, Nat.add_zero]
    | some row =>
      dsimp only
      rw [find?_bumped table _ _ (fun _ _ => rfl)]
      by_cases own : key = bucket ∧ windowStart u = windowStart now
      · obtain ⟨rfl, same⟩ := own
        have held : row.of key (windowStart now) = true := List.find?_some found
        rw [same, found]
        simp [held]
      · rw [if_neg own, Nat.add_zero]
        cases read : table.find? (·.of key (windowStart u)) with
        | none => rfl
        | some r =>
          have mine : r.of key (windowStart u) = true := List.find?_some read
          have unheld : ¬r.of bucket (windowStart now) = true := by
            intro held
            rw [of_other own held] at mine
            cases mine
          rw [Option.map_some, if_neg unheld]
  forgotten := by
    intro bucket pruned now table spares
    simp only [postgresRateLimiter, countsOf]
    rw [List.find?_filter]
    congr 3
    funext row
    have spared := windowStart_spared spares
    by_cases own : row.of bucket (windowStart now) = true
    · have window : row.windowStart = windowStart now := by
        simp only [RateLimitCountersRow.of, Bool.and_eq_true, decide_eq_true_eq] at own
        exact own.2
      simp [own, window, spared]
    · simp [own]

theorem windowStart_minute (now : Int) : (windowStart now : Int) / 60000000 = now / 60000000 := by
  change (now - now % 60000000) / 60000000 = now / 60000000
  omega

theorem minuteText_window {now u : Int} (dated : Dated now) (dated' : Dated u) :
    minuteText (u / 60000000).toNat = minuteText (now / 60000000).toNat ↔
      windowStart u = windowStart now := by
  obtain ⟨start, bound⟩ := dated
  obtain ⟨start', bound'⟩ := dated'
  have written : ∀ {t : Int}, 0 ≤ t → t < 253402300800000000 →
      (t / 60000000).toNat < writtenMinutes := by
    intro t _ _
    simp only [writtenMinutes]
    omega
  constructor
  · intro same
    have minute := minuteText_injective (written start' bound') (written start bound) same
    have split : ∀ t : Int, 0 ≤ t → (windowStart t : Int) =
        60000000 * ((t / 60000000).toNat : Int) := by
      intro t _
      change t - t % 60000000 = _
      omega
    rw [split u start', split now start, minute]
  · intro same
    have minute := congrArg (fun w : Int => w / 60000000) same
    rw [windowStart_minute, windowStart_minute] at minute
    rw [minute]

theorem inMemoryRateLimiter_reads : inMemoryRateLimiter.Reads windowStart Dated PruneSparesWindow
    (fun counts bucket window => (counts.get? (bucket,
      minuteText ((window : Int) / 60000000).toNat)).getD 0) where
  answer := by
    intro bucket now counts _
    rw [windowStart_minute]
    rfl
  bumped := by
    intro bucket now key u counts dated dated'
    dsimp only [inMemoryRateLimiter]
    rw [windowStart_minute, Dict.get?_set]
    have own := minuteText_window dated dated'
    by_cases here : key = bucket ∧ windowStart u = windowStart now
    · obtain ⟨rfl, same⟩ := here
      rw [own.mpr same]
      simp [same]
    · rw [if_neg here, if_neg]
      · rfl
      · intro same
        obtain ⟨bucket', text⟩ := Prod.mk.inj same
        exact here ⟨bucket', own.mp text⟩
  forgotten := by
    intro bucket pruned now counts _
    rfl

/-- The counters of the routes, which nothing prunes. -/
def routeRateLimiter : WindowCounter Str Time (Str → Time → Nat) where
  bump bucket now counters := hit now bucket counters
  forget _ counters := counters

theorem routeRateLimiter_reads :
    routeRateLimiter.Reads windowStart Dated PruneSparesWindow (fun counters => counters) where
  answer := by
    intro bucket now counters _
    rfl
  bumped := by
    intro bucket now key u counters _ _
    dsimp only [routeRateLimiter, hit]
    by_cases own : key = bucket
    · subst own
      by_cases same : windowStart u = windowStart now
      · rw [Function.update_self, same, Function.update_self]
        simp
      · rw [Function.update_self, Function.update_of_ne same]
        simp [same]
    · rw [Function.update_of_ne own]
      simp [own]
  forgotten := by
    intro bucket pruned now counters _
    rfl

/-! ### The door -/

/-- What a limiter is asked for. -/
def DoorEvent.call : DoorEvent → Option (WindowEvent Str Time)
  | .arrives a => a.clientIp.map fun ip => .bump (endpointBucket a.endpoint ip) a.now
  | .prunes now => some (.forget now)

theorem call_arrives {a : Arrival} {call : WindowEvent Str Time}
    (made : (DoorEvent.arrives a).call = some call) :
    ∃ ip, a.clientIp = some ip ∧ call = .bump (endpointBucket a.endpoint ip) a.now := by
  obtain ⟨ip, here, rfl⟩ := Option.map_eq_some_iff.mp made
  exact ⟨ip, here, rfl⟩

theorem calls_spanned {events : List DoorEvent} (dated : ∀ e ∈ events, Dated e.instant) :
    ∀ call ∈ events.filterMap DoorEvent.call, Dated call.instant := by
  intro call member
  obtain ⟨e, held, made⟩ := List.mem_filterMap.mp member
  have onTime := dated e held
  cases e with
  | arrives a =>
    obtain ⟨ip, -, rfl⟩ := call_arrives made
    exact onTime
  | prunes now =>
    cases made
    exact onTime

theorem calls_spared {events : List DoorEvent} (steady : events.Pairwise DoorEvent.Spares) :
    (events.filterMap DoorEvent.call).Pairwise (WindowEvent.Spares PruneSparesWindow) := by
  refine List.pairwise_filterMap.mpr (steady.imp ?_)
  intro e f spares first made second made'
  cases e with
  | arrives a =>
    obtain ⟨ip, -, rfl⟩ := call_arrives made
    trivial
  | prunes now =>
    cases made
    cases f with
    | arrives a =>
      obtain ⟨ip, -, rfl⟩ := call_arrives made'
      exact spares
    | prunes now =>
      cases made'
      trivial

theorem by_iff {a : Arrival} {endpoint : LimitedEndpoint} {ip : Str} :
    a.by endpoint ip = true ↔ a.endpoint = endpoint ∧ a.clientIp = some ip := by
  simp [Arrival.by]

theorem calls_instants (endpoint : LimitedEndpoint) (ip : Str) (events : List DoorEvent) :
    WindowEvent.instants (endpointBucket endpoint ip) (events.filterMap DoorEvent.call) =
      arrivalTimes endpoint ip events := by
  induction events with
  | nil => rfl
  | cons e events ih =>
    rw [arrivalTimes, List.filterMap_cons, List.filterMap_cons, ← arrivalTimes]
    cases e with
    | prunes now => exact ih
    | arrives a =>
      cases asked : a.clientIp with
      | none =>
        have other : ¬a.by endpoint ip = true :=
          fun own => absurd (by_iff.mp own).2 (by simp [asked])
        simp only [DoorEvent.call, asked, Option.map_none, if_neg other]
        exact ih
      | some from_ =>
        simp only [DoorEvent.call, asked, Option.map_some, WindowEvent.instants]
        by_cases own : a.by endpoint ip = true
        · obtain ⟨rfl, same⟩ := by_iff.mp own
          obtain rfl := Option.some.inj (asked.symm.trans same)
          rw [if_pos rfl, if_pos own, ih]
        · have other : ¬endpointBucket a.endpoint from_ = endpointBucket endpoint ip := by
            intro same
            obtain ⟨rfl, rfl⟩ := endpointBucket_injective same
            exact own (by_iff.mpr ⟨rfl, asked⟩)
          rw [if_neg other, if_neg own, ih]

theorem verdictsFor_own {endpoint : LimitedEndpoint} {ip : Str} {a : Arrival} {passes : Bool}
    {all : List (Arrival × Bool)} (own : a.by endpoint ip) :
    verdictsFor endpoint ip ((a, passes) :: all) =
      passes :: verdictsFor endpoint ip all := by
  rw [verdictsFor, List.filter_cons, if_pos own]
  rfl

theorem verdictsFor_other {endpoint : LimitedEndpoint} {ip : Str} {a : Arrival} {passes : Bool}
    {all : List (Arrival × Bool)} (other : ¬a.by endpoint ip) :
    verdictsFor endpoint ip ((a, passes) :: all) = verdictsFor endpoint ip all := by
  rw [verdictsFor, List.filter_cons, if_neg other]
  rfl

section
variable {σ : Type} {limiter : WindowCounter Str Time σ}

theorem verdicts_answers (endpoint : LimitedEndpoint) (ip : Str) (s : σ) (events : List DoorEvent) :
    verdictsFor endpoint ip (verdicts limiter s events) =
      (((limiter.answers s (events.filterMap DoorEvent.call)).filter
        (·.1 = endpointBucket endpoint ip)).map (·.2)).map
        (decide <| · ≤ authRateLimit) := by
  induction events generalizing s with
  | nil => rfl
  | cons e events ih =>
    cases e with
    | prunes now => exact ih (limiter.forget now s)
    | arrives a =>
      cases asked : a.clientIp with
      | none =>
        have other : ¬a.by endpoint ip = true :=
          fun own => absurd (by_iff.mp own).2 (by simp [asked])
        rw [verdicts, asked]
        dsimp only
        rw [verdictsFor_other other, List.filterMap_cons_none (by simp [DoorEvent.call, asked])]
        exact ih s
      | some from_ =>
        rw [verdicts, asked, List.filterMap_cons_some (by rw [DoorEvent.call, asked]; rfl)]
        dsimp only [WindowCounter.answers]
        by_cases own : a.by endpoint ip = true
        · obtain ⟨rfl, same⟩ := by_iff.mp own
          obtain rfl := Option.some.inj (asked.symm.trans same)
          rw [verdictsFor_own own, List.filter_cons_of_pos (by simp), List.map_cons,
            List.map_cons, ih]
        · have other : ¬endpointBucket a.endpoint from_ = endpointBucket endpoint ip := by
            intro same
            obtain ⟨rfl, rfl⟩ := endpointBucket_injective same
            exact own (by_iff.mpr ⟨rfl, asked⟩)
          rw [verdictsFor_other own, List.filter_cons_of_neg (by simpa using other), ih]

theorem verdicts_alone {reads : σ → Str → Time → Nat}
    (lawful : limiter.Reads windowStart Dated PruneSparesWindow reads) {s : σ}
    (fresh : ∀ key window, reads s key window = 0) {events : List DoorEvent}
    (dated : ∀ e ∈ events, Dated e.instant) (steady : events.Pairwise DoorEvent.Spares)
    (endpoint : LimitedEndpoint) (ip : Str) :
    verdictsFor endpoint ip (verdicts limiter s events) =
      allowance (arrivalTimes endpoint ip events) := by
  have alone := WindowCounter.answers_alone lawful (endpointBucket endpoint ip) [] s
    (calls_spanned dated)
    (calls_spared steady) (fun t _ => fresh _ _)
  rw [verdicts_answers, alone, calls_instants]
  rfl

end

/-- Whichever limiter counts, however the sweep prunes and whoever else asks, a client is let pass
at an endpoint for the first twenty requests of a minute and for no other. -/
theorem rate_limit_per_client {events : List DoorEvent} (dated : ∀ e ∈ events, Dated e.instant)
    (steady : events.Pairwise DoorEvent.Spares) (endpoint : LimitedEndpoint) (ip : Str) :
    verdictsFor endpoint ip (verdicts postgresRateLimiter [] events) =
      allowance (arrivalTimes endpoint ip events) ∧
      verdictsFor endpoint ip (verdicts inMemoryRateLimiter Dict.empty events) =
        allowance (arrivalTimes endpoint ip events) ∧
      verdictsFor endpoint ip (verdicts routeRateLimiter (fun _ _ => 0) events) =
        allowance (arrivalTimes endpoint ip events) :=
  ⟨verdicts_alone postgresRateLimiter_reads (fun _ _ => rfl) dated steady endpoint ip,
    verdicts_alone inMemoryRateLimiter_reads (fun _ _ => rfl) dated steady endpoint ip,
    verdicts_alone routeRateLimiter_reads (fun _ _ => rfl) dated steady endpoint ip⟩

/-- Two clients at the turn of a minute, and a sweep whose clock is half an hour ahead. -/
def minuteTurns : List DoorEvent :=
  [.arrives ⟨.callback, some (str "::1"), 1772902799000000⟩,
    .arrives ⟨.callback, some (str "10.0.0.7"), 1772902799500000⟩,
    .prunes 1772904600000000, .arrives ⟨.callback, some (str "::1"), 1772902800000000⟩]

theorem rate_limit_per_client_turns :
    verdictsFor .callback (str "::1") (verdicts inMemoryRateLimiter Dict.empty minuteTurns) =
      allowance [1772902799000000, 1772902800000000] := by
  have dated : ∀ e ∈ minuteTurns, Dated e.instant := by
    simp [minuteTurns, DoorEvent.instant, Dated]
  have steady : minuteTurns.Pairwise DoorEvent.Spares := by
    simp [minuteTurns, DoorEvent.Spares, PruneSparesWindow]
  exact (rate_limit_per_client dated steady .callback (str "::1")).2.1

end Rosadmin.Web
