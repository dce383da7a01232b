import Rosadmin.Foundation.Dict
import Rosadmin.Foundation.Fallible
import Rosadmin.Foundation.JsonText
import Rosadmin.Membership.Source

/-!
# The SSO protocol domain

`verify_assertion` in two parts: the token, whose `kid` picks the one pinned key
its signature has to verify under, and the claims of its payload, each checked
in the source's order. What verifies is PASETO's to say, and nothing here rests on
how a token is read; `fromisoformat` is the library's reading of a timestamp.
-/

namespace Rosadmin.Sso
open Foundation

structure SsoSettings where
  iss : Str
  aud : Str
  kid : Str
  guildId : Str
  socketPath : Str

/-- The verdict botonio signs into an assertion. Only `member` authorizes. -/
inductive Standing where
  | member | duesExpired | unverified | notInGuild
  deriving DecidableEq, Repr

def Standing.ofWire (wire : Str) : Option Standing :=
  [(str "member", Standing.member), (str "dues_expired", .duesExpired),
    (str "unverified", .unverified), (str "not_in_guild", .notInGuild)].lookup wire

inductive AssertionRejected where
  | badSignature | unknownKeyId (kid : Str) | wrongAudience | wrongIssuer | expired | wrongGuild
      | unknownStanding
  | malformedAssertion (message : Str)
  deriving DecidableEq

structure VerifiedAssertion where
  discordId : Str
  guild : Str
  standing : Standing
  jti : Str
  exp : Time
  deriving DecidableEq

/-- A parsed timestamp; without an offset it is naive. -/
structure Timestamp where
  instant : Time
  aware : Bool

/-- The claims of a payload whose signature verified. -/
abbrev Claims := List (Str × Json)

/-! ### The token -/

abbrev Bytes := List Nat

/-- Botonio's verifying keys, pinned by `kid`. -/
structure SigningKeys where
  byKid : Dict Str Bytes

/-- How a token fails: a rejection, or an exception outside that tree. -/
inductive TokenFault where
  | rejected (reason : AssertionRejected)
  | raised

/-- The libraries under the token's verification, whatever they read a token as. -/
structure Paseto where
  urlsafeB64decode : Str → Option Bytes
  loads : Bytes → Except LoadsError Json
  /-- Whether an Ed25519 key can be made of the bytes. -/
  isKey : Bytes → Bool
  /-- The payload of a token that verifies under the key. -/
  decode : Bytes → Str → Option Bytes

def SigningKeys.keyFor (keys : SigningKeys) (kid : Str) : Except TokenFault Bytes :=
  match keys.byKid.get? kid with
  | some key => .ok key
  | none => .error (.rejected (.unknownKeyId kid))

section
variable (paseto : Paseto)

def loadsObject (data : Bytes) : Except TokenFault Claims :=
  match paseto.loads data with
  | .ok (.obj claims) => .ok claims
  | .ok _ => .error (.rejected (.malformedAssertion (str "assertion payload is not a JSON object")))
  | .error .jsonDecodeError =>
      .error (.rejected (.malformedAssertion (str "assertion payload is not valid JSON")))
  | .error _ => .error .raised

/-- `"=" * (-len(part) % 4)` -/
def padding (part : Str) : Str := List.replicate ((4 - part.length % 4) % 4) 0x3d

/-- The unverified `kid` claim. -/
def peekKid (token : Str) : Except TokenFault Str :=
  match token.splitOn 0x2e with
  | version :: purpose :: body :: _ =>
    if version ≠ str "v4" ∨ purpose ≠ str "public" then .error (.rejected .badSignature)
    else match paseto.urlsafeB64decode (body ++ padding body) with
      | none => .error (.rejected (.malformedAssertion
          (str "assertion payload is not valid base64url")))
      | some raw => do
        -- less the signature
        let claims ← loadsObject paseto (raw.take (raw.length - 64))
        match Json.find claims (str "kid") with
        | some (.str (c :: rest)) => return c :: rest
        | _ => .error (.rejected (.malformedAssertion (str "assertion is missing its kid")))
  | _ => .error (.rejected .badSignature)

/-- The claims of a token whose signature verifies under the key pinned for its `kid`. -/
def tokenClaims (keys : SigningKeys) (token : Str) : Except TokenFault Claims := do
  let kid ← peekKid paseto token
  let key ← keys.keyFor kid
  ensure (paseto.isKey key) .raised
  match paseto.decode key token with
  | none => .error (.rejected .badSignature)
  | some payload => loadsObject paseto payload

/-- One key, the one pinned for the token's own `kid`, verified it. -/
structure Signed (keys : SigningKeys) (token : Str) (claims : Claims) : Prop where
  verified : ∃ kid key payload, peekKid paseto token = .ok kid ∧ keys.byKid.get? kid = some key ∧
    paseto.decode key token = some payload ∧ paseto.loads payload = .ok (.obj claims)

theorem tokenClaims_ok {keys : SigningKeys} {token : Str} {claims : Claims}
    (verified : tokenClaims paseto keys token = .ok claims) : Signed paseto keys token claims := by
  obtain ⟨kid, peeked, verified⟩ := bind_ok.mp verified
  obtain ⟨key, pinned, verified⟩ := bind_ok.mp verified
  obtain ⟨-, verified⟩ := ensure_bind_ok.mp verified
  have pinned : keys.byKid.get? kid = some key := by
    rw [SigningKeys.keyFor] at pinned
    split at pinned
    · cases pinned
      assumption
    · cases pinned
  split at verified
  · cases verified
  · rename_i payload decoded
    refine ⟨kid, key, payload, peeked, pinned, decoded, ?_⟩
    rw [loadsObject] at verified
    split at verified
    · rename_i loaded
      cases verified
      exact loaded
    · cases verified
    · cases verified
    · cases verified

end

/-! ### The claims -/

/-- `assertion {name} claim {fault}` -/
def malformedClaim (name fault : Str) : AssertionRejected :=
  .malformedAssertion (str "assertion " ++ name ++ str " claim " ++ fault)

def requiredClaim (claims : Claims) (name : Str) : Except AssertionRejected Str :=
  match Json.find claims name with
  | some (.str (c :: rest)) => .ok (c :: rest)
  | _ => .error (malformedClaim name (str "is missing or empty"))

/-- `claims.get(name) == expected` -/
def claimIs (claims : Claims) (name expected : Str) : Bool :=
  match Json.find claims name with
  | some (.str value) => value == expected
  | _ => false

def claimStanding (claims : Claims) : Except AssertionRejected Standing :=
  match Json.find claims (str "standing") with
  | some (.str wire) => match Standing.ofWire wire with
    | some standing => .ok standing
    | none => .error .unknownStanding
  | _ => .error .unknownStanding

section
variable (fromisoformat : Str → Option Timestamp)

def claimTime (claims : Claims) (name : Str) : Except AssertionRejected Time :=
  match Json.find claims name with
  | some (.str value) => match fromisoformat value with
    | some parsed =>
      if parsed.aware then .ok parsed.instant
      else .error (malformedClaim name (str "has no timezone offset"))
    | none => .error (malformedClaim name (str "is not a timestamp"))
  | _ => .error (malformedClaim name (str "is missing or malformed"))

def claimNotBefore (claims : Claims) : Except AssertionRejected (Option Time) :=
  match Json.find claims (str "nbf") with
  | none => .ok none
  | some _ => (claimTime fromisoformat claims (str "nbf")).map some

def verifyAssertion (settings : SsoSettings) (claims : Claims) (now : Time) :
    Except AssertionRejected VerifiedAssertion := do
  ensure (claimIs claims (str "iss") settings.iss) .wrongIssuer
  ensure (claimIs claims (str "aud") settings.aud) .wrongAudience
  let exp ← claimTime fromisoformat claims (str "exp")
  let nbf ← claimNotBefore fromisoformat claims
  ensure (now < exp && nbf.all (· ≤ now)) .expired
  ensure (claimIs claims (str "guild") settings.guildId) .wrongGuild
  let standing ← claimStanding claims
  let discordId ← requiredClaim claims (str "sub")
  let jti ← requiredClaim claims (str "jti")
  return { discordId, guild := settings.guildId, standing, jti, exp }

/-- What an assertion says that its claims have to say too. -/
structure Attested (settings : SsoSettings) (claims : Claims) (now : Time) (a : VerifiedAssertion) :
    Prop where
  iss : claimIs claims (str "iss") settings.iss = true
  aud : claimIs claims (str "aud") settings.aud = true
  guild : claimIs claims (str "guild") settings.guildId = true ∧ a.guild = settings.guildId
  exp : claimTime fromisoformat claims (str "exp") = .ok a.exp
  live : now < a.exp
  begun : ∀ value, Json.find claims (str "nbf") = some value →
    ∃ nbf, claimTime fromisoformat claims (str "nbf") = .ok nbf ∧ nbf ≤ now
  standing : claimStanding claims = .ok a.standing
  sub : requiredClaim claims (str "sub") = .ok a.discordId
  jti : requiredClaim claims (str "jti") = .ok a.jti

theorem verifyAssertion_ok {settings : SsoSettings} {claims : Claims} {now : Time}
    {a : VerifiedAssertion} (passed : verifyAssertion fromisoformat settings claims now = .ok a) :
    Attested fromisoformat settings claims now a := by
  obtain ⟨iss, passed⟩ := ensure_bind_ok.mp passed
  obtain ⟨aud, passed⟩ := ensure_bind_ok.mp passed
  obtain ⟨exp, expires, passed⟩ := bind_ok.mp passed
  obtain ⟨nbf, begins, passed⟩ := bind_ok.mp passed
  obtain ⟨window, passed⟩ := ensure_bind_ok.mp passed
  obtain ⟨guild, passed⟩ := ensure_bind_ok.mp passed
  obtain ⟨standing, stood, passed⟩ := bind_ok.mp passed
  obtain ⟨discordId, sub, passed⟩ := bind_ok.mp passed
  obtain ⟨jti, named, passed⟩ := bind_ok.mp passed
  cases pure_ok.mp passed
  rw [Bool.and_eq_true, decide_eq_true_iff] at window
  refine ⟨iss, aud, ⟨guild, rfl⟩, expires, window.1, fun value there => ?_, stood, sub, named⟩
  rw [claimNotBefore, there] at begins
  cases read : claimTime fromisoformat claims (str "nbf") with
  | error e =>
    rw [read] at begins
    cases begins
  | ok time =>
    rw [read] at begins
    cases begins
    exact ⟨time, rfl, of_decide_eq_true window.2⟩

end

end Rosadmin.Sso
