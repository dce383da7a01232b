import Rosadmin.Membership.Pages

/-!
# Requests under a budget

Every read of the upstream goes through one paced request, which waits out a 429
a few times. A listing over a server that refuses now and then is the plain
listing, or it raises the 429; it never comes out short.
-/

namespace Rosadmin
open Foundation

/-- What a `GET /users` asks for. -/
structure UsersParams where
  limit : Nat
  offset : Option Nat
  email : Option Str

structure HttpReply where
  statusCode : Nat
  retryAfter : Option Str
  body : Json

inductive PullError where
  /-- no reply at all -/
  | transport
  | httpStatus (code : Nat)
  | decode (failure : DecodeFailure)

/-- The requests sent, and how long was waited between them. -/
structure Pace where
  sent : Nat
  waited : List Double

def rateLimitAttempts : Nat := 5

def rateLimitWindow : Double := .finite 30 0

/-- `0 <= wait <= 10 * _RATE_LIMIT_WINDOW`; a `nan` compares false. -/
def saneWait : Double → Bool
  | .finite m e => 0 ≤ m && (if 0 ≤ e then m * 2 ^ e.toNat ≤ 300 else m ≤ 300 * 2 ^ (-e).toNat)
  | .inf _ | .nan => false

def raiseForStatus (reply : HttpReply) : Except PullError HttpReply :=
  if 200 ≤ reply.statusCode ∧ reply.statusCode < 300 then .ok reply
    else .error (.httpStatus reply.statusCode)

section
-- `float` of a text, and the reply to each request in the order they are sent
variable (float : Str → Option Double) (server : Nat → UsersParams → Option HttpReply)

def waitAfter (reply : HttpReply) : Double :=
  let wait := (float (reply.retryAfter.getD [])).getD rateLimitWindow
  if saneWait wait then wait else rateLimitWindow

/-- `_get_users` with so many attempts left after this one. -/
def getUsers (params : UsersParams) : Nat → Pace → Except PullError HttpReply × Pace
  | 0, s => match server s.sent params with
    | none => (.error .transport, ⟨s.sent + 1, s.waited⟩)
    | some reply => (raiseForStatus reply, ⟨s.sent + 1, s.waited⟩)
  | attempts + 1, s => match server s.sent params with
    | none => (.error .transport, ⟨s.sent + 1, s.waited⟩)
    | some reply =>
      if reply.statusCode ≠ 429 then (raiseForStatus reply, ⟨s.sent + 1, s.waited⟩)
      else getUsers params attempts ⟨s.sent + 1, s.waited ++ [waitAfter float reply]⟩

def requestUsers (params : UsersParams) (s : Pace) : Except PullError HttpReply × Pace :=
  getUsers float server params (rateLimitAttempts - 1) s

/-- `list_members`, for so many pages. -/
def listMembersOver : Nat → Listing → Pace → Except PullError Listing × Pace
  | 0, listing, s => (.ok listing, s)
  | turns + 1, listing, s =>
    if listing.finished then (.ok listing, s)
    else match requestUsers float server ⟨pageSize, some listing.offset, none⟩ s with
      | (.error error, s) => (.error error, s)
      | (.ok reply, s) => match listTurn reply.body listing with
        | .error failure => (.error (.decode failure), s)
        | .ok listing => listMembersOver turns listing s

/-- The first record with an email to project; any other failure propagates. -/
def firstMember : List Json → Decoded (Option Member)
  | [] => .ok none
  | raw :: raws => match decodeUser raw with
    | .ok member => .ok (some member)
    | .error (.malformedMember _) => firstMember raws
    | .error failure => .error failure

def findByEmail (email : Str) (s : Pace) : Except PullError (Option Member) × Pace :=
  match requestUsers float server ⟨pageSize, none, some email⟩ s with
  | (.error error, s) => (.error error, s)
  | (.ok reply, s) =>
    ((do
      let data ← raising (getOr reply.body (str "data") (.arr []))
      let raws ← raising (jsonItems data)
      firstMember raws).mapError .decode, s)

end

/-- The record has no email to project. -/
def malformed (raw : Json) : Prop := ∃ id, decodeUser raw = .error (.malformedMember id)

/-- The first record with an email decides. -/
theorem firstMember_cases (raws : List Json) :
    (firstMember raws = .ok none ∧ ∀ raw ∈ raws, malformed raw) ∨
      ∃ before raw after, raws = before ++ raw :: after ∧ (∀ other ∈ before, malformed other) ∧
        ((∃ member, decodeUser raw = .ok member ∧ firstMember raws = .ok (some member)) ∨
          ∃ failure, decodeUser raw = .error failure ∧ ¬malformed raw ∧
            firstMember raws = .error failure) := by
  induction raws with
  | nil => exact .inl ⟨rfl, nofun⟩
  | cons raw raws ih =>
    rw [firstMember]
    cases decodes : decodeUser raw with
    | ok member => exact .inr ⟨[], raw, raws, rfl, nofun, .inl ⟨member, decodes, rfl⟩⟩
    | error failure =>
      cases failure with
      | malformedMember id =>
        have skipped : malformed raw := ⟨id, decodes⟩
        rcases ih with ⟨none, all⟩ | ⟨before, first, after, rfl, skips, decided⟩
        · exact .inl ⟨none, List.forall_mem_cons.mpr ⟨skipped, all⟩⟩
        · exact .inr ⟨raw :: before, first, after, rfl,
            List.forall_mem_cons.mpr ⟨skipped, skips⟩, decided⟩
      | standingMissing | standingUnrecognized | builtin =>
        refine .inr ⟨[], raw, raws, rfl, nofun, .inr ⟨_, decodes, ?_, rfl⟩⟩
        rintro ⟨id, other⟩
        cases decodes.symm.trans other

/-! ### One request -/

/-- A reply that is not an error carries what the request is to be answered. -/
def Honest (answer : UsersParams → Json) (server : Nat → UsersParams → Option HttpReply) : Prop :=
  ∀ n params reply, server n params = some reply → 200 ≤ reply.statusCode ∧ reply.statusCode < 300 →
    reply.body = answer params

/-- The request was answered with a 429. -/
def RateRefused (server : Nat → UsersParams → Option HttpReply) (params : UsersParams) (n : Nat) :
    Prop :=
  ∃ reply, server n params = some reply ∧ reply.statusCode = 429

/-- A reply that is the reason for an error, or that never came. -/
inductive Provoked (server : Nat → UsersParams → Option HttpReply) : PullError → Prop where
  | lost {n : Nat} {params : UsersParams} (missing : server n params = none) : Provoked
      server .transport
  | status {n : Nat} {params : UsersParams} {reply : HttpReply}
    (replied : server n params = some reply)
    (bad : ¬(200 ≤ reply.statusCode ∧ reply.statusCode < 300)) :
    Provoked server (.httpStatus reply.statusCode)

/-- What a request with so many attempts leaves behind. -/
structure Asked (answer : UsersParams → Json) (server : Nat → UsersParams → Option HttpReply)
    (params : UsersParams) (attempts : Nat) (s : Pace) (result : Except PullError HttpReply)
    (t : Pace) : Prop where
  sent : s.sent < t.sent ∧ t.sent ≤ s.sent + attempts
  waited : (∀ wait ∈ s.waited, saneWait wait = true) → ∀ wait ∈ t.waited, saneWait wait = true
  answered : ∀ reply, result = .ok reply → reply.body = answer params
  raised : ∀ error, result = .error error → Provoked server error
  refused : result = .error (.httpStatus 429) →
    t.sent = s.sent + attempts ∧ ∀ j < attempts, RateRefused server params (s.sent + j)

section
variable {float : Str → Option Double} {server : Nat → UsersParams → Option HttpReply}
    {answer : UsersParams → Json}

theorem waitAfter_sane (reply : HttpReply) : saneWait (waitAfter float reply) = true := by
  unfold waitAfter
  dsimp only
  split
  · assumption
  · rfl

theorem raiseForStatus_ok {reply same : HttpReply} (passed : raiseForStatus reply = .ok same) :
    same = reply ∧ 200 ≤ reply.statusCode ∧ reply.statusCode < 300 := by
  unfold raiseForStatus at passed
  split at passed
  · cases passed
    exact ⟨rfl, by assumption⟩
  · cases passed

theorem raiseForStatus_error {reply : HttpReply} {error : PullError}
    (failed : raiseForStatus reply = .error error) :
    error = .httpStatus reply.statusCode ∧ ¬(200 ≤ reply.statusCode ∧ reply.statusCode < 300) := by
  unfold raiseForStatus at failed
  split at failed
  · cases failed
  · cases failed
    exact ⟨rfl, by assumption⟩

theorem asked_once (honest : Honest answer server) {params : UsersParams} {attempts : Nat}
    {s : Pace} {reply : HttpReply} (replied : server s.sent params = some reply)
    (last : reply.statusCode = 429 → attempts = 0) :
    Asked answer server params (attempts + 1) s (raiseForStatus reply) ⟨s.sent + 1, s.waited⟩ where
  sent := by
    dsimp only
    omega
  waited := id
  answered := by
    intro same passed
    obtain ⟨rfl, fine⟩ := raiseForStatus_ok passed
    exact honest _ _ _ replied fine
  raised := by
    intro error failed
    obtain ⟨rfl, bad⟩ := raiseForStatus_error failed
    exact .status replied bad
  refused := by
    intro failed
    have code := (raiseForStatus_error failed).1
    have limited : reply.statusCode = 429 := (PullError.httpStatus.inj code).symm
    obtain rfl := last limited
    refine ⟨rfl, fun j within => ?_⟩
    obtain rfl : j = 0 := by omega
    exact ⟨reply, replied, limited⟩

theorem asked_lost {params : UsersParams} {attempts : Nat} {s : Pace}
    (missing : server s.sent params = none) :
    Asked answer server params (attempts + 1) s (.error .transport) ⟨s.sent + 1, s.waited⟩ where
  sent := by
    dsimp only
    omega
  waited := id
  answered := nofun
  raised := by
    rintro error ⟨⟩
    exact .lost missing
  refused := nofun

theorem getUsers_asked (honest : Honest answer server) (params : UsersParams) (attempts : Nat)
    (s : Pace) :
    Asked answer server params (attempts + 1) s (getUsers float server params attempts s).1
      (getUsers float server params attempts s).2 := by
  induction attempts generalizing s with
  | zero =>
    rw [getUsers]
    cases replied : server s.sent params with
    | none => exact asked_lost replied
    | some reply => exact asked_once honest replied fun _ => rfl
  | succ attempts ih =>
    rw [getUsers]
    cases replied : server s.sent params with
    | none => exact asked_lost replied
    | some reply =>
      dsimp only
      by_cases limited : reply.statusCode = 429
      · rw [if_neg (fun other => other limited)]
        have later := ih ⟨s.sent + 1, s.waited ++ [waitAfter float reply]⟩
        obtain ⟨⟨more, within⟩, waited, answered, raised, refused⟩ := later
        refine ⟨⟨?_, ?_⟩, ?_, answered, raised, ?_⟩
        · exact Nat.lt_of_succ_lt more
        · dsimp only at within
          omega
        · intro sane
          refine waited fun wait member => ?_
          rcases List.mem_append.mp member with before | here
          · exact sane wait before
          · obtain rfl := List.mem_singleton.mp here
            exact waitAfter_sane reply
        · intro failed
          obtain ⟨count, all⟩ := refused failed
          refine ⟨by dsimp only at count; omega, fun j inside => ?_⟩
          cases j with
          | zero => exact ⟨reply, replied, limited⟩
          | succ j =>
            have next := all j (by omega)
            rwa [Nat.add_assoc, Nat.add_comm 1 j] at next
      · rw [if_pos limited]
        exact asked_once honest replied fun same => absurd same limited

theorem requestUsers_asked (honest : Honest answer server) (params : UsersParams) (s : Pace) :
    Asked answer server params rateLimitAttempts s (requestUsers float server params s).1
      (requestUsers float server params s).2 :=
  getUsers_asked honest params (rateLimitAttempts - 1) s

end

/-! ### The listing -/

/-- The last requests that were sent, as many as are tried, were all refused. -/
def RefusedLast (server : Nat → UsersParams → Option HttpReply) (t : Pace) : Prop :=
  ∃ params, rateLimitAttempts ≤ t.sent ∧ ∀ j < rateLimitAttempts,
    RateRefused server params (t.sent - rateLimitAttempts + j)

/-- What a read of so many requests leaves, beside the plain read of the same data. -/
structure ReadsPlain {α : Type} (server : Nat → UsersParams → Option HttpReply) (requests : Nat)
    (plain : Decoded α) (s : Pace) (result : Except PullError α) (t : Pace) : Prop where
  sent : t.sent ≤ s.sent + rateLimitAttempts * requests
  waited : (∀ wait ∈ s.waited, saneWait wait = true) → ∀ wait ∈ t.waited, saneWait wait = true
  ok : ∀ a, result = .ok a → plain = .ok a
  failed : ∀ failure, result = .error (.decode failure) → plain = .error failure
  raised : ∀ error, result = .error error → Provoked server error ∨ ∃ failure,
    error = .decode failure
  refused : result = .error (.httpStatus 429) → RefusedLast server t

section
variable {float : Str → Option Double} {server : Nat → UsersParams → Option HttpReply}
    {answer : UsersParams → Json}

theorem Asked.refusedLast {params : UsersParams} {s t : Pace} {result : Except PullError HttpReply}
    (asked : Asked answer server params rateLimitAttempts s result t)
    (failed : result = .error (.httpStatus 429)) :
    RefusedLast server t := by
  obtain ⟨count, all⟩ := asked.refused failed
  refine ⟨params, by omega, fun j within => ?_⟩
  rw [count, Nat.add_sub_cancel]
  exact all j within

theorem readsPlain_ok {requests : Nat} {s t : Pace} {a : α}
    (sent : t.sent ≤ s.sent + rateLimitAttempts * requests)
    (waited : (∀ wait ∈ s.waited, saneWait wait = true) → ∀ wait ∈ t.waited, saneWait wait = true) :
    ReadsPlain server requests (.ok a) s (.ok a) t where
  sent := sent
  waited := waited
  ok := by
    rintro _ ⟨⟩
    rfl
  failed := by rintro _ ⟨⟩
  raised := by rintro _ ⟨⟩
  refused := by rintro ⟨⟩

theorem readsPlain_failed {requests : Nat} {s t : Pace} {failure : DecodeFailure}
    (sent : t.sent ≤ s.sent + rateLimitAttempts * requests)
    (waited : (∀ wait ∈ s.waited, saneWait wait = true) → ∀ wait ∈ t.waited, saneWait wait = true) :
    ReadsPlain server requests (.error failure : Decoded α) s (.error (.decode failure)) t where
  sent := sent
  waited := waited
  ok := by rintro _ ⟨⟩
  failed := by
    rintro _ ⟨⟩
    rfl
  raised := by
    rintro _ ⟨⟩
    exact .inr ⟨failure, rfl⟩
  refused := by rintro ⟨⟩

/-- A request that raised ends the read, whatever the bodies hold. -/
theorem Asked.readsPlain {params : UsersParams} {s t : Pace} {error : PullError} {requests : Nat}
    {plain : Decoded α} (asked : Asked answer server params rateLimitAttempts s (.error error) t)
    (sent : t.sent ≤ s.sent + rateLimitAttempts * requests) :
    ReadsPlain server requests plain s (.error error) t where
  sent := sent
  waited := asked.waited
  ok := by rintro _ ⟨⟩
  failed := by
    rintro failure ⟨⟩
    cases asked.raised _ rfl
  raised := by
    rintro _ ⟨⟩
    exact .inl (asked.raised _ rfl)
  refused := by
    rintro ⟨⟩
    exact asked.refusedLast rfl

theorem listMembersOver_reads (honest : Honest answer server) {pages : Nat → UsersPage}
    (served : ∀ offset, answer ⟨pageSize, some offset, none⟩ = (pages offset).body) (turns : Nat)
    (listing : Listing) (s : Pace) :
    ReadsPlain server turns (listLoop pages turns listing) s
      (listMembersOver float server turns listing s).1
      (listMembersOver float server turns listing s).2 := by
  induction turns generalizing listing s with
  | zero => exact readsPlain_ok (Nat.le_add_right _ _) id
  | succ turns ih =>
    rw [listMembersOver, listLoop]
    by_cases finished : listing.finished = true
    · rw [if_pos finished, if_pos finished]
      exact readsPlain_ok (Nat.le_add_right _ _) id
    · rw [if_neg finished, if_neg finished, ← served]
      have asked := @requestUsers_asked float server answer honest ⟨pageSize,
        some listing.offset, none⟩ s
      revert asked
      generalize requestUsers float server ⟨pageSize, some listing.offset, none⟩ s = requested
      obtain ⟨result, t⟩ := requested
      intro asked
      dsimp only at asked ⊢
      have atMost : t.sent ≤ s.sent + rateLimitAttempts := asked.sent.2
      have spent : rateLimitAttempts * (turns + 1) = rateLimitAttempts * turns +
        rateLimitAttempts := Nat.mul_succ _ _
      have within : t.sent ≤ s.sent + rateLimitAttempts * (turns + 1) := by omega
      cases result with
      | error error => exact asked.readsPlain within
      | ok reply =>
        dsimp only
        rw [asked.answered reply rfl]
        cases turn : listTurn (answer ⟨pageSize, some listing.offset, none⟩) listing with
        | error failure => exact readsPlain_failed within asked.waited
        | ok next =>
          rw [ok_bind]
          dsimp only
          obtain ⟨sent, waited, ok, failed, raised, refused⟩ := ih next t
          exact ⟨by omega, fun sane => waited (asked.waited sane), ok, failed, raised, refused⟩

theorem findByEmail_reads (honest : Honest answer server) {email : Str} {data : List Json}
    (served : getOr (answer ⟨pageSize, none, some email⟩) (str "data") (.arr []) = .ok (.arr data))
    (s : Pace) :
    ReadsPlain server 1 (firstMember data) s (findByEmail float server email s).1
      (findByEmail float server email s).2 := by
  rw [findByEmail]
  have asked := @requestUsers_asked float server answer honest ⟨pageSize, none, some email⟩ s
  revert asked
  generalize requestUsers float server ⟨pageSize, none, some email⟩ s = requested
  obtain ⟨result, t⟩ := requested
  intro asked
  dsimp only at asked ⊢
  cases result with
  | error error => exact asked.readsPlain asked.sent.2
  | ok reply =>
    dsimp only
    rw [asked.answered reply rfl, served]
    simp only [raising, ok_bind, jsonItems]
    cases found : firstMember data with
    | error failure => exact readsPlain_failed asked.sent.2 asked.waited
    | ok member => exact readsPlain_ok asked.sent.2 asked.waited

end

end Rosadmin
