import Rosadmin.Roster.Pull

/-!
# The columns of a record

Which records the columns of `members` can hold, and what they hold of one.
-/

namespace Rosadmin
open Foundation

structure Member.RecordedAs (server : Server) (member : Member) (cols : MemberColumns) : Prop where
  stId : cols.stId = member.stId
  firstName : bindJson server member.firstName = .ok cols.firstName
  lastName : bindJson server member.lastName = .ok cols.lastName
  alternateName : bindJson server member.alternateName = .ok cols.alternateName
  email : bindJson server member.email = .ok (some cols.email)
  alternateEmail : cols.alternateEmail = member.alternateEmail
  discordUserId : cols.discordUserId = member.discordId
  standing : cols.standing = member.standing
  isChapterLeader : cols.isChapterLeader = member.isChapterLeader
  leadershipAssessment : cols.leadershipAssessment = assess member.isChapterLeader member.leads

def inBigint (n : Int) : Prop := -2 ^ 63 ≤ n ∧ n < 2 ^ 63

def Server.HoldsKey (server : Server) (s : Str) : Prop :=
  sendable s = true ∧ server.indexable s = true

section
variable {server : Server} {member : Member} {cols : MemberColumns}

theorem bindBigint_ok {n m : Int} : bindBigint n = .ok m ↔ inBigint n ∧ n = m := by
  simp only [bindBigint, ensure_bind_ok, pure_ok, Bool.and_eq_true, decide_eq_true_iff, inBigint]

theorem bindText_ok {s t : Str} : bindText s = .ok t ↔ sendable s = true ∧ s = t := by
  simp only [bindText, ensure_bind_ok, pure_ok]

theorem bindKey_ok {s t : Str} : bindKey server s = .ok t ↔ server.HoldsKey s ∧ s = t := by
  rw [bindKey, bind_ok]
  simp only [bindText_ok, ensure_bind_ok, pure_ok]
  constructor
  · rintro ⟨_, ⟨clean, rfl⟩, fits, rfl⟩
    exact ⟨⟨clean, fits⟩, rfl⟩
  · rintro ⟨⟨clean, fits⟩, rfl⟩
    exact ⟨s, ⟨clean, rfl⟩, fits, rfl⟩

theorem bindEmail_ok {value : Json} {email : Email} :
    bindEmail server value = .ok email ↔ bindJson server value = .ok (some email) ∧
      server.HoldsKey email := by
  rw [bindEmail, bind_ok]
  constructor
  · rintro ⟨text, assigned, bound⟩
    cases text with
    | none => exact nomatch bound
    | some text =>
      obtain ⟨held, rfl⟩ := bindKey_ok.mp bound
      exact ⟨assigned, held⟩
  · rintro ⟨assigned, held⟩
    exact ⟨some email, assigned, bindKey_ok.mpr ⟨held, rfl⟩⟩

theorem mapM_ok {α : Type} {bind : α → Except DbError α} {held : α → Prop}
    (bound : ∀ a b, bind a = .ok b ↔ held a ∧ a = b) {value column : Option α} :
    value.mapM bind = .ok column ↔ (∀ a ∈ value, held a) ∧ value = column := by
  cases value with
  | none => simp [Option.mapM_none, pure_ok]
  | some a =>
    rw [Option.mapM_some, ← bind_pure_comp, bind_ok]
    constructor
    · rintro ⟨b, stored, rest⟩
      obtain ⟨holds, rfl⟩ := (bound a b).mp stored
      exact ⟨fun c same => Option.some.inj same ▸ holds, pure_ok.mp rest⟩
    · rintro ⟨holds, rfl⟩
      exact ⟨a, (bound a a).mpr ⟨holds a rfl, rfl⟩, rfl⟩

end

def Server.HoldsText (server : Server) : Json → Prop
  | .null => True
  | .str s => sendable s = true
  | value => (server.assign value).isSome = true

def Server.HoldsEmail (server : Server) : Json → Prop
  | .null => False
  | .str s => server.HoldsKey s
  | value => ∃ text, server.assign value = some text ∧ server.HoldsKey text

/-- A record that the columns of `members` can hold, each field by itself. -/
structure Member.Storable (server : Server) (member : Member) : Prop where
  stId : inBigint member.stId
  firstName : server.HoldsText member.firstName
  lastName : server.HoldsText member.lastName
  alternateName : server.HoldsText member.alternateName
  email : server.HoldsEmail member.email
  alternateEmail : ∀ address ∈ member.alternateEmail, sendable address = true
  discordId : ∀ id ∈ member.discordId, inBigint id

section
variable {server : Server} {member : Member} {cols : MemberColumns}

theorem bindJson_str {s : Str} {column : Option Str} :
    bindJson server (.str s) = .ok column ↔ sendable s = true ∧ column = some s := by
  cases stored : bindText s with
  | ok t =>
    obtain ⟨clean, rfl⟩ := bindText_ok.mp stored
    have bound : bindJson server (.str s) = .ok (some s) := by rw [bindJson, stored]; rfl
    rw [bound, Except.ok.injEq, eq_comm]
    exact (and_iff_right clean).symm
  | error e =>
    have failed : bindJson server (.str s) = .error e := by rw [bindJson, stored]; rfl
    rw [failed]
    constructor
    · intro bound
      cases bound
    · rintro ⟨clean, -⟩
      cases stored.symm.trans (bindText_ok.mpr ⟨clean, rfl⟩)

theorem bindJson_other {value : Json} {column : Option Str} (null : value ≠ .null)
    (string : ∀ s, value ≠ .str s) :
    bindJson server value = .ok column ↔ ∃ text, server.assign value = some text ∧
      column = some text := by
  rw [bindJson.eq_3 server value null string]
  cases server.assign value with
  | none => simp
  | some text =>
    constructor
    · intro bound
      exact ⟨text, rfl, (Except.ok.inj bound).symm⟩
    · rintro ⟨_, same, rfl⟩
      rw [Option.some.inj same]

theorem holdsText_iff {value : Json} : server.HoldsText value ↔
    ∃ column, bindJson server value = .ok column := by
  fun_cases Server.HoldsText server value with
  | case1 => exact iff_of_true trivial ⟨none, rfl⟩
  | case2 s => simp [bindJson_str]
  | case3 value null string => simp [bindJson_other null string, Option.isSome_iff_exists]

theorem holdsEmail_iff {value : Json} : server.HoldsEmail value ↔
    ∃ email, bindEmail server value = .ok email := by
  simp only [bindEmail_ok]
  fun_cases Server.HoldsEmail server value with
  | case1 => exact iff_of_false id fun ⟨_, bound, _⟩ => nomatch bound
  | case2 s =>
    simp only [bindJson_str, Option.some.injEq]
    constructor
    · intro held
      exact ⟨s, ⟨held.1, rfl⟩, held⟩
    · rintro ⟨_, ⟨-, rfl⟩, held⟩
      exact held
  | case3 value null string =>
    simp only [bindJson_other null string, Option.some.injEq]
    constructor
    · rintro ⟨text, assigned, held⟩
      exact ⟨text, ⟨text, assigned, rfl⟩, held⟩
    · rintro ⟨_, ⟨text, assigned, rfl⟩, held⟩
      exact ⟨_, assigned, held⟩

theorem bindMember_ok (bound : bindMember server member = .ok cols) :
    member.Storable server ∧ member.RecordedAs server cols := by
  obtain ⟨_, first, bound⟩ := bind_ok.mp bound
  obtain ⟨_, second, bound⟩ := bind_ok.mp bound
  obtain ⟨_, third, bound⟩ := bind_ok.mp bound
  obtain ⟨_, fourth, bound⟩ := bind_ok.mp bound
  obtain ⟨_, fifth, bound⟩ := bind_ok.mp bound
  obtain ⟨_, sixth, bound⟩ := bind_ok.mp bound
  obtain ⟨_, seventh, bound⟩ := bind_ok.mp bound
  cases pure_ok.mp bound
  obtain ⟨stId, rfl⟩ := bindBigint_ok.mp first
  obtain ⟨alternateEmail, rfl⟩ := (mapM_ok fun _ _ => bindText_ok).mp sixth
  obtain ⟨discordId, rfl⟩ := (mapM_ok fun _ _ => bindBigint_ok).mp seventh
  have firstName := holdsText_iff.mpr ⟨_, second⟩
  have lastName := holdsText_iff.mpr ⟨_, third⟩
  have alternateName := holdsText_iff.mpr ⟨_, fourth⟩
  have email := holdsEmail_iff.mpr ⟨_, fifth⟩
  obtain ⟨stored, -⟩ := bindEmail_ok.mp fifth
  exact ⟨⟨stId, firstName, lastName, alternateName, email, alternateEmail, discordId⟩,
    ⟨rfl, second, third, fourth, stored, rfl, rfl, rfl, rfl, rfl⟩⟩

theorem Member.RecordedAs.unique {a b : MemberColumns} (first : member.RecordedAs server a)
    (second : member.RecordedAs server b) : a = b := by
  cases a
  cases b
  rw [MemberColumns.mk.injEq]
  refine ⟨first.stId.trans second.stId.symm, ?_, ?_, ?_, ?_,
    first.alternateEmail.trans second.alternateEmail.symm,
    first.discordUserId.trans second.discordUserId.symm, first.standing.trans second.standing.symm,
    first.isChapterLeader.trans second.isChapterLeader.symm,
    first.leadershipAssessment.trans second.leadershipAssessment.symm⟩
  · exact Except.ok.inj (first.firstName.symm.trans second.firstName)
  · exact Except.ok.inj (first.lastName.symm.trans second.lastName)
  · exact Except.ok.inj (first.alternateName.symm.trans second.alternateName)
  · exact Option.some.inj (Except.ok.inj (first.email.symm.trans second.email))

theorem Member.RecordedAs.rostered {members : List Member} (holds : member.RecordedAs server cols)
    (listed : member ∈ members) : cols.stId ∈ members.map (·.stId) :=
      holds.stId ▸ List.mem_map_of_mem listed

theorem Member.RecordedAs.bindEmail (storable : member.Storable server)
    (holds : member.RecordedAs server cols) : bindEmail server member.email = .ok cols.email := by
  obtain ⟨email, bound⟩ := holdsEmail_iff.mp storable.email
  obtain ⟨assigned, -⟩ := bindEmail_ok.mp bound
  cases assigned.symm.trans holds.email
  exact bound

theorem storable_iff : member.Storable server ↔ ∃ cols, bindMember server member = .ok cols := by
  constructor
  · rintro ⟨stId, firstName, lastName, alternateName, email, alternateEmail, discordId⟩
    obtain ⟨_, firstName⟩ := holdsText_iff.mp firstName
    obtain ⟨_, lastName⟩ := holdsText_iff.mp lastName
    obtain ⟨_, alternateName⟩ := holdsText_iff.mp alternateName
    obtain ⟨_, email⟩ := holdsEmail_iff.mp email
    have alternateEmail := (mapM_ok fun _ _ => bindText_ok).mpr ⟨alternateEmail, rfl⟩
    have discordId := (mapM_ok fun _ _ => bindBigint_ok).mpr ⟨discordId, rfl⟩
    have stId := bindBigint_ok.mpr ⟨stId, rfl⟩
    rw [bindMember, stId, ok_bind, firstName, ok_bind, lastName, ok_bind, alternateName, ok_bind,
      email, ok_bind, alternateEmail, ok_bind, discordId, ok_bind]
    exact ⟨_, rfl⟩
  · rintro ⟨cols, bound⟩
    exact (bindMember_ok bound).1

theorem compareEmail_ok {email : Option Str} (bound : bindMember server member = .ok cols) :
    compareEmail server member.email = .ok email ↔
      server.compares member.email = true ∧ email = some cols.email := by
  rw [compareEmail, ensure_bind_ok, (bindMember_ok bound).2.email, Except.ok.injEq]
  exact and_congr_right fun _ => eq_comm

/-! ### Only the upsert clashes -/

theorem bindText_unclashing {s : Str} : bindText s ≠ .error .uniqueViolation :=
  bind_ne_error (ensure_ne_error (by decide)) fun _ => ok_ne_error

theorem bindKey_unclashing {s : Str} : bindKey server s ≠ .error .uniqueViolation := by
  apply bind_ne_error bindText_unclashing
  intro _
  exact bind_ne_error (ensure_ne_error (by decide)) fun _ => ok_ne_error

theorem bindBigint_unclashing {n : Int} : bindBigint n ≠ .error .uniqueViolation :=
  bind_ne_error (ensure_ne_error (by decide)) fun _ => ok_ne_error

theorem bindJson_unclashing {value : Json} : bindJson server value ≠ .error .uniqueViolation := by
  fun_cases bindJson server value with
  | case1 => exact ok_ne_error
  | case2 s => exact map_ne_error bindText_unclashing
  | case3 => exact ok_ne_error
  | case4 => simp

theorem bindEmail_unclashing {value : Json} : bindEmail server value ≠ .error .uniqueViolation := by
  apply bind_ne_error bindJson_unclashing
  intro email
  cases email with
  | none => simp
  | some email => exact bindKey_unclashing

theorem mapM_unclashing {α β : Type} {bind : α → Except DbError β}
    (clean : ∀ a, bind a ≠ .error .uniqueViolation) {value : Option α} :
    value.mapM bind ≠ .error .uniqueViolation := by
  cases value with
  | none => exact ok_ne_error
  | some a =>
    rw [Option.mapM_some, ← bind_pure_comp]
    exact bind_ne_error (clean a) fun _ => ok_ne_error

theorem bindMember_unclashing : bindMember server member ≠ .error .uniqueViolation := by
  apply bind_ne_error bindBigint_unclashing
  intro _
  apply bind_ne_error bindJson_unclashing
  intro _
  apply bind_ne_error bindJson_unclashing
  intro _
  apply bind_ne_error bindJson_unclashing
  intro _
  apply bind_ne_error bindEmail_unclashing
  intro _
  apply bind_ne_error (mapM_unclashing fun _ => bindText_unclashing)
  intro _
  exact bind_ne_error (mapM_unclashing fun _ => bindBigint_unclashing) fun _ => ok_ne_error

end

/-! ### A plain record and server -/

/-- Takes every text, and nothing else. -/
def textServer : Server where
  assign := fun _ => none
  comparable := fun _ => false
  indexable := fun _ => true

/-- A record in good standing of which little but the address is known. -/
def plainRecord (stId : Int) (email : Email) : Member :=
  { stId, email := .str email, alternateEmail := none, standing := .goodStanding, discordId := none,
    firstName := .null, lastName := .null, alternateName := .null, isChapterLeader := false,
    leads := [], leadsNodup := List.nodup_nil }

end Rosadmin
