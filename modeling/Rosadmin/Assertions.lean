import Rosadmin.Foundation.Base64
import Rosadmin.Sso

/-!
# What a token can raise

`verify_assertion` whole, over Python's own base64 and json. A token leaves the
`AssertionRejected` tree where `json.loads` raises something other than a
`JSONDecodeError`: on the message peeked at before the signature is checked, or
on the payload that verified.
-/

namespace Rosadmin.Sso
open Foundation

/-- `cryptography` and PySETO, which may verify what they like. -/
structure Pyseto where
  isKey : Bytes → Bool
  decode : Bytes → Str → Option Bytes

/-- The libraries as they are, where `nesting` containers may be open at once. -/
def Pyseto.paseto (pyseto : Pyseto) (nesting : Nat) : Paseto where
  urlsafeB64decode := urlsafeB64decode
  loads := loads nesting
  isKey := pyseto.isKey
  decode := pyseto.decode

/-- `verify_assertion` -/
def verifyToken (paseto : Paseto) (keys : SigningKeys) (fromisoformat : Str → Option Timestamp)
    (settings : SsoSettings) (token : Str) (now : Time) : Except TokenFault VerifiedAssertion := do
  let claims ← tokenClaims paseto keys token
  (verifyAssertion fromisoformat settings claims now).mapError .rejected

/-- The bytes of a v4.public token that stand before its signature. -/
def signedMessage (token : Str) : Option Bytes :=
  match token.splitOn 0x2e with
  | version :: purpose :: body :: _ =>
    if version ≠ str "v4" ∨ purpose ≠ str "public" then none
    else (urlsafeB64decode (body ++ padding body)).map fun raw => raw.take (raw.length - 64)
  | _ => none

/-- The message is an object whose `kid` is this one. -/
def Names (nesting : Nat) (token kid : Str) : Prop :=
  ∃ data claims, signedMessage token = some data ∧ loads nesting data = .ok (.obj claims) ∧
    Json.find claims (str "kid") = some (.str kid) ∧ kid ≠ []

/-- Both texts of a token are legible: its message, and what verifies under the key pinned for the
`kid` it names. -/
structure Readable (pyseto : Pyseto) (nesting : Nat) (keys : SigningKeys) (token : Str) : Prop where
  message : ∀ data, signedMessage token = some data → Legible nesting data
  payload : ∀ kid key data, Names nesting token kid → keys.byKid.get? kid = some key →
    pyseto.decode key token = some data → Legible nesting data

/-- An assertion comes out, or a member of the `AssertionRejected` tree. -/
def Contained {α : Type} (result : Except TokenFault α) : Prop :=
  (∃ a, result = .ok a) ∨ ∃ reason, result = .error (.rejected reason)

theorem contained_iff_not_raised {α : Type} {result : Except TokenFault α} :
    Contained result ↔ result ≠ .error .raised := by
  cases result with
  | ok a => exact iff_of_true (Or.inl ⟨a, rfl⟩) ok_ne_error
  | error fault =>
    cases fault with
    | rejected reason => exact iff_of_true (Or.inr ⟨reason, rfl⟩) (fun same => nomatch same)
    | raised =>
      refine iff_of_false ?_ (fun different => different rfl)
      rintro (⟨a, same⟩ | ⟨reason, same⟩)
      · cases same
      · cases same

section
variable (pyseto : Pyseto) (nesting : Nat) {keys : SigningKeys} {token : Str}

theorem loadsObject_raised {data : Bytes} :
    loadsObject (pyseto.paseto nesting) data ≠ .error .raised ↔ Legible nesting data := by
  have loaded : (pyseto.paseto nesting).loads data = loads nesting data := rfl
  rw [legible_iff, loadsObject, loaded]
  split
  · rename_i read
    simp [read]
  · rename_i read
    simp [read]
  · rename_i read
    simp [read]
  · rename_i error other read
    exact iff_of_false (fun kept => kept rfl) (fun each => other (each error read))

theorem loadsObject_ok {data : Bytes} {claims : Claims} :
    loadsObject (pyseto.paseto nesting) data = .ok claims ↔
      loads nesting data = .ok (.obj claims) := by
  have loaded : (pyseto.paseto nesting).loads data = loads nesting data := rfl
  rw [loadsObject, loaded]
  split
  · rename_i read
    simp [read]
  · rename_i other read
    constructor
    · intro same
      cases same
    · intro same
      rw [read] at same
      cases same
      exact absurd rfl (other claims)
  · rename_i read
    simp [read]
  · rename_i read
    simp [read]

/-! ### The peek -/

/-- The `kid` of a message that is an object. -/
def kidOf (claims : Claims) : Except TokenFault Str :=
  match Json.find claims (str "kid") with
  | some (.str (c :: rest)) => .ok (c :: rest)
  | _ => .error (.rejected (.malformedAssertion (str "assertion is missing its kid")))

theorem kidOf_ok {claims : Claims} {kid : Str} :
    kidOf claims = .ok kid ↔ Json.find claims (str "kid") = some (.str kid) ∧ kid ≠ [] := by
  rw [kidOf]
  split
  · rename_i c rest found
    rw [found]
    constructor
    · rintro ⟨⟩
      exact ⟨rfl, List.cons_ne_nil c rest⟩
    · rintro ⟨same, -⟩
      cases same
      rfl
  · rename_i other
    refine iff_of_false (fun same => nomatch same) ?_
    rintro ⟨found, filled⟩
    obtain ⟨c, rest, rfl⟩ := List.exists_cons_of_ne_nil filled
    exact other c rest found

theorem kidOf_raised (claims : Claims) : kidOf claims ≠ .error .raised := by
  rw [kidOf]
  split
  · exact ok_ne_error
  · exact fun same => nomatch same

theorem peekKid_of_none (unsigned : signedMessage token = none) :
    ∃ reason, peekKid (pyseto.paseto nesting) token = .error (.rejected reason) := by
  unfold signedMessage at unsigned
  unfold peekKid
  generalize token.splitOn 0x2e = parts at unsigned
  rcases parts with _ | ⟨version, _ | ⟨purpose, _ | ⟨body, rest⟩⟩⟩
  · exact ⟨_, rfl⟩
  · exact ⟨_, rfl⟩
  · exact ⟨_, rfl⟩
  dsimp only at unsigned ⊢
  by_cases foreign : version ≠ str "v4" ∨ purpose ≠ str "public"
  · exact ⟨_, if_pos foreign⟩
  rw [if_neg foreign] at unsigned ⊢
  have refused : (pyseto.paseto nesting).urlsafeB64decode (body ++ padding body) = none :=
    Option.map_eq_none_iff.mp unsigned
  rw [refused]
  exact ⟨_, rfl⟩

theorem peekKid_of_message {data : Bytes} (message : signedMessage token = some data) :
    peekKid (pyseto.paseto nesting) token =
      (loadsObject (pyseto.paseto nesting) data >>= kidOf) := by
  unfold signedMessage at message
  unfold peekKid
  generalize token.splitOn 0x2e = parts at message
  rcases parts with _ | ⟨version, _ | ⟨purpose, _ | ⟨body, rest⟩⟩⟩
  · cases message
  · cases message
  · cases message
  dsimp only at message ⊢
  by_cases foreign : version ≠ str "v4" ∨ purpose ≠ str "public"
  · rw [if_pos foreign] at message
    cases message
  rw [if_neg foreign] at message ⊢
  obtain ⟨raw, read, rfl⟩ := Option.map_eq_some_iff.mp message
  have decoded : (pyseto.paseto nesting).urlsafeB64decode (body ++ padding body) = some raw := read
  rw [decoded]
  rfl

/-- The peek escapes only where the message is not legible. -/
theorem peekKid_raised : peekKid (pyseto.paseto nesting) token ≠ .error .raised ↔
    ∀ data, signedMessage token = some data → Legible nesting data := by
  cases message : signedMessage token with
  | none =>
    obtain ⟨reason, refused⟩ := peekKid_of_none pyseto nesting message
    rw [refused]
    exact iff_of_true (fun same => nomatch same) (fun data same => nomatch same)
  | some data =>
    simp only [Option.some.injEq, forall_eq']
    rw [peekKid_of_message pyseto nesting message, ← loadsObject_raised pyseto]
    cases loadsObject (pyseto.paseto nesting) data with
    | error fault => simp [bind, Except.bind]
    | ok claims => exact iff_of_true (kidOf_raised claims) ok_ne_error

theorem peekKid_ok {kid : Str} :
    peekKid (pyseto.paseto nesting) token = .ok kid ↔ Names nesting token kid := by
  unfold Names
  cases message : signedMessage token with
  | none =>
    obtain ⟨reason, refused⟩ := peekKid_of_none pyseto nesting message
    rw [refused]
    refine iff_of_false (fun same => nomatch same) ?_
    rintro ⟨data, claims, same, -⟩
    cases same
  | some data =>
    simp only [peekKid_of_message pyseto nesting message, bind_ok, loadsObject_ok, kidOf_ok,
      Option.some.injEq, exists_and_left, exists_eq_left']

variable {pyseto nesting}

theorem tokenClaims_of_kid {kid : Str}
    (valid : ∀ kid key, keys.byKid.get? kid = some key → pyseto.isKey key = true)
    (peeked : peekKid (pyseto.paseto nesting) token = .ok kid) :
    tokenClaims (pyseto.paseto nesting) keys token ≠ .error .raised ↔
      ∀ key, keys.byKid.get? kid = some key → ∀ data, pyseto.decode key token = some data →
        Legible nesting data := by
  rw [tokenClaims, peeked, ok_bind, SigningKeys.keyFor]
  cases pinned : keys.byKid.get? kid with
  | none =>
    refine iff_of_true ?_ (fun key there => ?_)
    · intro same
      cases same
    · cases there
  | some key =>
    have made : ensure ((pyseto.paseto nesting).isKey key) TokenFault.raised = .ok () :=
      ensure_ok.mpr (valid kid key pinned)
    have decodes : (pyseto.paseto nesting).decode key token = pyseto.decode key token := rfl
    rw [ok_bind, made, ok_bind, decodes]
    simp only [Option.some.injEq, forall_eq']
    cases decoded : pyseto.decode key token with
    | none =>
      refine iff_of_true ?_ (fun data verified => ?_)
      · intro same
        cases same
      · cases verified
    | some payload =>
      simp only [loadsObject_raised, Option.some.injEq, forall_eq']

/-- Under keys that are keys, a token escapes only where its message or its verified payload is not
legible. -/
theorem tokenClaims_raised
    (valid : ∀ kid key, keys.byKid.get? kid = some key → pyseto.isKey key = true) :
    tokenClaims (pyseto.paseto nesting) keys token ≠ .error .raised ↔
      Readable pyseto nesting keys token := by
  have message : _ ↔ ∀ data, signedMessage token = some data → Legible nesting data :=
    peekKid_raised pyseto nesting
  have named : ∀ kid, peekKid (pyseto.paseto nesting) token = .ok kid ↔ Names nesting token kid :=
    fun _ => peekKid_ok pyseto nesting
  cases peeked : peekKid (pyseto.paseto nesting) token with
  | error fault =>
    have failed : tokenClaims (pyseto.paseto nesting) keys token = .error fault := by
      rw [tokenClaims, peeked]
      rfl
    rw [failed]
    rw [peeked] at message
    constructor
    · intro kept
      refine ⟨message.mp (by simpa using kept), fun kid key data names => ?_⟩
      cases peeked.symm.trans ((named kid).mpr names)
    · intro readable
      simpa using message.mpr readable.message
  | ok kid =>
    rw [tokenClaims_of_kid valid peeked]
    constructor
    · intro payload
      refine ⟨message.mp (by rw [peeked]; exact ok_ne_error),
        fun other key data names pinned verified => ?_⟩
      cases peeked.symm.trans ((named other).mpr names)
      exact payload key pinned data verified
    · intro readable key pinned data verified
      exact readable.payload kid key data ((named kid).mp peeked) pinned verified

/-- `verify_assertion` stays inside its tree exactly where the token's message, and its payload once
that is verified, are legible. -/
theorem contained_iff (fromisoformat : Str → Option Timestamp) (settings : SsoSettings) (now : Time)
    (valid : ∀ kid key, keys.byKid.get? kid = some key → pyseto.isKey key = true) :
    Contained (verifyToken (pyseto.paseto nesting) keys fromisoformat settings token now) ↔
      Readable pyseto nesting keys token := by
  rw [contained_iff_not_raised, ← tokenClaims_raised valid, verifyToken]
  cases tokenClaims (pyseto.paseto nesting) keys token with
  | error fault => simp [bind, Except.bind]
  | ok claims =>
    refine iff_of_true ?_ ok_ne_error
    rw [ok_bind]
    cases verifyAssertion fromisoformat settings claims now with
    | error reason => exact fun same => nomatch same
    | ok assertion => exact ok_ne_error

end

/-! ### A token whose message is not text -/

/-- One byte that no UTF-8 text has, and an empty signature. -/
def undecodableToken : Str := str "v4.public._w" ++ List.replicate 85 0x41

/-- Any 32 bytes make a key, and nothing verifies. -/
def unsignedPyseto : Pyseto where
  isKey := fun key => key.length = 32
  decode := fun _ _ => none

def zeroKeys : SigningKeys := ⟨Dict.empty.set (str "v1") (List.replicate 32 0)⟩

theorem contained_iff_undecodable :
    Contained (verifyToken (unsignedPyseto.paseto 1000) zeroKeys (fun _ => none)
      ⟨[], [], [], [], []⟩ undecodableToken 0) ↔
      Readable unsignedPyseto 1000 zeroKeys undecodableToken := by
  apply contained_iff
  intro kid key pinned
  obtain rfl : List.replicate 32 0 = key := by
    rw [zeroKeys, Dict.get?_set] at pinned
    split at pinned
    · exact Option.some.inj pinned
    · cases pinned
  rfl

theorem undecodable_escapes :
    ¬Contained (verifyToken (unsignedPyseto.paseto 1000) zeroKeys (fun _ => none)
      ⟨[], [], [], [], []⟩ undecodableToken 0) := by
  have message : signedMessage undecodableToken = some [0xff] := by decide +kernel
  have escapes : peekKid (unsignedPyseto.paseto 1000) undecodableToken = .error .raised := by
    rw [peekKid_of_message _ _ message]
    rfl
  rw [contained_iff_not_raised, not_not, verifyToken, tokenClaims, escapes]
  rfl

end Rosadmin.Sso
