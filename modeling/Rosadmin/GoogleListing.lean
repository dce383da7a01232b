import Rosadmin.GoogleRetries

/-!
# Reading a group's members

`list_group_members` follows the page tokens until a page carries none. A
listing that ends early would have the sweep take the rest for absent, so what
matters is that there is none: a listing is whole, or it raises.
-/

namespace Rosadmin
open Foundation

/-- `GroupsPermissionLevel(role)`: a level the code does not model is `Other`. -/
def GroupsPermissionLevel.ofRole (role : Str) : GroupsPermissionLevel :=
  if role = str "OWNER" then .owner
  else if role = str "MANAGER" then .manager
  else if role = str "MEMBER" then .member
  else .other

/-- One item of a page, with the keys it carries. -/
structure MemberResource where
  email : Option Str
  role : Option Str
  status : Option Str
  type : Option Str

structure MembersPage where
  members : List MemberResource
  nextPageToken : Option Str

/-- An entry with no address or no role is skipped. -/
def MemberResource.entry (m : MemberResource) : Option GroupMemberEntry := do
  let email ← m.email
  let role ← m.role
  return ⟨email, .ofRole role, m.status, m.type⟩

def MembersPage.entries (page : MembersPage) : List GroupMemberEntry :=
  page.members.filterMap (·.entry)

/-- An empty token is none. -/
def MembersPage.next (page : MembersPage) : Option Str := page.nextPageToken.filter (· ≠ [])

section
variable {σ : Type} (fates : Nat → Delivery HttpError)
    (reads : Option Str → Except HttpError MembersPage)

/-- `while True`, for so many pages: none where they do not suffice. -/
def listGroupMembers : Nat → Option Str → List GroupMemberEntry → Tried σ →
    Option (Except HttpError (List GroupMemberEntry)) × Tried σ
  | 0, _, _, t => (none, t)
  | fuel + 1, token, entries, t =>
    match retryTransient (delivered fates (fun w => (reads token, w))) t with
    | (.error error, t) => (some (.error error), t)
    | (.ok page, t) =>
      match page.next with
      | none => (some (.ok (entries ++ page.entries)), t)
      | some token => listGroupMembers fuel (some token) (entries ++ page.entries) t

/-- The pages the tokens lead through, and the refusal they end at, if they do. -/
inductive Walk : Option Str → List MembersPage → Option HttpError → Prop where
  | refused {token : Option Str} {error : HttpError} (answer : reads token = .error error) : Walk
      token [] (some error)
  | last {token : Option Str} {page : MembersPage} (answer : reads token = .ok page)
      (next : page.next = none) :
    Walk token [page] none
  | more {token : Option Str} {page : MembersPage} {after : Str} {rest : List MembersPage}
    {stop : Option HttpError} (answer : reads token = .ok page) (next : page.next = some after)
    (walk : Walk (some after) rest stop) :
    Walk token (page :: rest) stop

end

section
variable {σ : Type} {fates : Nat → Delivery HttpError}
    {reads : Option Str → Except HttpError MembersPage}

/-- A page is read as it is, or six struck tries raise the last error. -/
theorem page_retried (weather : Weather isTransientHttpError fates)
    (verdict : ∀ token error, reads token = .error error → isTransientHttpError error = false)
    (token : Option Str) (t : Tried σ) :
    ∃ after : Tried σ, after.tries ≤ t.tries + 6 ∧ after.world = t.world ∧
      (retryTransient (delivered fates (fun w => (reads token, w))) t = (reads token, after) ∨
        StruckSix fates t.tries ∧ ∃ error, isTransientHttpError error = true ∧
          retryTransient (delivered fates (fun w => (reads token, w))) t =
            (.error error, after)) := by
  have settling : Settling isTransientHttpError (fun w : σ => (reads token, w)) :=
    ⟨fun _ error answer => verdict token error answer, fun _ => rfl⟩
  have still : ∀ n k, worldAfter fates (fun w : σ => (reads token, w)) n k t.world = t.world :=
    fun n k => ite_self _
  rcases retrying_delivered weather settling 5 t with ⟨k, within, -, -, result⟩
    | ⟨struck, error, transient, result⟩
  · refine ⟨⟨t.world, t.tries + k + 1⟩, by dsimp only; omega, rfl, Or.inl ?_⟩
    rw [retryTransient, result, still]
  · refine ⟨⟨t.world, t.tries + 5 + 1⟩, Nat.le_refl _, rfl, Or.inr ⟨struck, error, transient, ?_⟩⟩
    rw [retryTransient, result, still]

theorem group_listing_whole (weather : Weather isTransientHttpError fates)
    (verdict : ∀ token error, reads token = .error error → isTransientHttpError error = false)
    {token : Option Str} {pages : List MembersPage} {stop : Option HttpError}
    (walk : Walk reads token pages stop) {fuel : Nat} (enough : pages.length < fuel)
    (entries : List GroupMemberEntry) (t : Tried σ) :
    ∃ after : Tried σ, after.tries ≤ t.tries + 6 * (pages.length + 1) ∧ after.world = t.world ∧
      (listGroupMembers fates reads fuel token entries t =
          (some (stop.elim (.ok (entries ++ pages.flatMap (·.entries))) .error), after) ∨
        ∃ error, isTransientHttpError error = true ∧ (∃ n, StruckSix fates n) ∧
          listGroupMembers fates reads fuel token entries t = (some (.error error), after)) := by
  induction walk generalizing fuel entries t with
  | @refused token error answer =>
    obtain ⟨fuel, rfl⟩ := Nat.exists_eq_succ_of_ne_zero (Nat.ne_zero_of_lt enough)
    obtain ⟨next, few, same, read | ⟨struck, last, transient, read⟩⟩ :=
      page_retried weather verdict token t
    · refine ⟨next, few, same, Or.inl ?_⟩
      rw [listGroupMembers, read, answer]
      rfl
    · refine ⟨next, few, same, Or.inr ⟨last, transient, ⟨_, struck⟩, ?_⟩⟩
      rw [listGroupMembers, read]
  | @last token page answer none =>
    obtain ⟨fuel, rfl⟩ := Nat.exists_eq_succ_of_ne_zero (Nat.ne_zero_of_lt enough)
    obtain ⟨next, few, same, read | ⟨struck, error, transient, read⟩⟩ :=
      page_retried weather verdict token t
    · refine ⟨next, by rw [List.length_singleton]; omega, same, Or.inl ?_⟩
      rw [listGroupMembers, read, answer]
      simp [none]
    · refine ⟨next, by
        rw [List.length_singleton]; omega, same, Or.inr ⟨error, transient, ⟨_, struck⟩, ?_⟩⟩
      rw [listGroupMembers, read]
  | @more token page onward rest stop answer next walk ih =>
    obtain ⟨fuel, rfl⟩ := Nat.exists_eq_succ_of_ne_zero (Nat.ne_zero_of_lt enough)
    rw [List.length_cons] at enough ⊢
    obtain ⟨reached, few, same, read | ⟨struck, error, transient, read⟩⟩ :=
      page_retried weather verdict token t
    · have turn : listGroupMembers fates reads (fuel + 1) token entries t =
          listGroupMembers fates reads fuel (some onward) (entries ++ page.entries) reached := by
        rw [listGroupMembers, read, answer]
        simp [next]
      obtain ⟨after, fewer, still, result⟩ :=
        ih (Nat.lt_of_succ_lt_succ enough) (entries ++ page.entries) reached
      refine ⟨after, by omega, still.trans same, ?_⟩
      rw [turn, List.flatMap_cons, ← List.append_assoc]
      exact result
    · refine ⟨reached, by omega, same, Or.inr ⟨error, transient, ⟨_, struck⟩, ?_⟩⟩
      rw [listGroupMembers, read]

end

def firstPage : MembersPage := ⟨[⟨some (str "nora@pdx.org"), some (str "MEMBER"), none, none⟩],
    some (str "t1")⟩

/-- It holds an entry of an unknown level and one with no address, and its token is empty. -/
def secondPage : MembersPage :=
  ⟨[⟨some (str "kris@pdx.org"), some (str "CURATOR"), none, none⟩,
    ⟨none, some (str "MEMBER"), none, none⟩], some []⟩

def pagedReads (token : Option Str) : Except HttpError MembersPage :=
  if token = none then .ok firstPage else .ok secondPage

theorem group_listing_whole_paged :
    ∃ after : Tried Unit, after.tries ≤ 0 + 6 * (2 + 1) ∧ after.world = () ∧
      (listGroupMembers lostAnswer pagedReads 3 none [] ⟨(), 0⟩ =
          (some (.ok [⟨str "nora@pdx.org", .member, none, none⟩,
            ⟨str "kris@pdx.org", .other, none, none⟩]), after) ∨
        ∃ error, isTransientHttpError error = true ∧ (∃ n, StruckSix lostAnswer n) ∧
          listGroupMembers lostAnswer pagedReads 3 none [] ⟨(), 0⟩ =
            (some (.error error), after)) := by
  have verdict : ∀ token error, pagedReads token = .error error →
      isTransientHttpError error = false := by
    intro token error refused
    rw [pagedReads] at refused
    split at refused <;> cases refused
  have walk : Walk pagedReads none [firstPage, secondPage] none := .more rfl rfl (.last rfl rfl)
  exact group_listing_whole lostAnswer_weather verdict walk (by decide) [] ⟨(), 0⟩

end Rosadmin
