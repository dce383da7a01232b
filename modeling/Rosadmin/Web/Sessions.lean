import Rosadmin.Foundation.Dict
import Rosadmin.Membership.Source

/-!
# Server-side sessions

An opaque token in, the principal behind it out: the `sessions` table, and the
dictionary that stands in for it.
-/

namespace Rosadmin
open Foundation

def absoluteLifetime : Time := 12 * 3600 * 1000000

def idleTimeout : Time := 2 * 3600 * 1000000

structure Principal where
  discordId : Str
  deriving DecidableEq

structure SessionsRow where
  tokenHash : Str
  discordId : Str
  createdAt : Time
  lastSeenAt : Time
  deriving DecidableEq

section
variable (sha256 : Str → Str) (now : Time)

/-- `sha256` is taken of the token's UTF-8, which it has: no cookie carries a lone surrogate. -/
def SessionsRow.live (token : Str) (row : SessionsRow) : Bool :=
  row.tokenHash = sha256 token && now - absoluteLifetime < row.createdAt &&
    now - idleTimeout < row.lastSeenAt

/-- `UPDATE sessions SET last_seen_at = now() .. RETURNING discord_id` -/
def resolveSession (token : Str) (sessions : List SessionsRow) :
    Option Principal × List SessionsRow :=
  ((sessions.find? (·.live sha256 now token)).map (fun row => ⟨row.discordId⟩),
    sessions.map (fun row => if row.live sha256 now token then { row with lastSeenAt := now }
      else row))

/-- `INSERT INTO sessions`: both times default to `now()`. -/
def createSession (token : Str) (principal : Principal) (sessions : List SessionsRow) :
    List SessionsRow :=
  sessions ++ [⟨sha256 token, principal.discordId, now, now⟩]

end

def revokeSession (sha256 : Str → Str) (token : Str) (sessions : List SessionsRow) :
    List SessionsRow :=
  sessions.filter (fun row => row.tokenHash != sha256 token)

/-- `_Entry` -/
structure SessionEntry where
  principal : Principal
  created : Time
  lastSeen : Time
  deriving DecidableEq

def SessionEntry.expired (now : Time) (entry : SessionEntry) : Bool :=
  absoluteLifetime ≤ now - entry.created || idleTimeout ≤ now - entry.lastSeen

abbrev SessionEntries := Dict Str SessionEntry

def resolveEntry (now : Time) (token : Str) (entries : SessionEntries) :
    Option Principal × SessionEntries :=
  match entries.get? token with
  | none => (none, entries)
  | some entry =>
    if entry.expired now then (none, entries.erase token)
    else (some entry.principal, entries.set token { entry with lastSeen := now })

/-- The port both stores implement. A token is drawn by `create` itself, so it comes in as an
argument. -/
structure SessionStore (σ : Type) where
  create : Time → Str → Principal → σ → σ
  resolve : Time → Str → σ → Option Principal × σ
  revoke : Str → σ → σ

def inMemorySessionStore : SessionStore SessionEntries where
  create := fun now token principal entries => entries.set token ⟨principal, now, now⟩
  resolve := resolveEntry
  revoke := fun token entries => entries.erase token

def postgresSessionStore (sha256 : Str → Str) : SessionStore (List SessionsRow) where
  create := createSession sha256
  resolve := resolveSession sha256
  revoke := revokeSession sha256

end Rosadmin
