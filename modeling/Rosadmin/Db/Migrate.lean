import Rosadmin.Foundation.Dict
import Rosadmin.Foundation.Fallible
import Rosadmin.Foundation.Json
import Rosadmin.Foundation.Uri

/-!
# The migration URI

`migrate_uri` writes the migration role's credential into a URI, and what the
URI names is read back from its parts. `quote` leaves a slash alone, and a slash
ends the authority.
-/

namespace Rosadmin.Db
open Foundation

/-! ### Building the URI -/

/-- `None` is the `UnicodeEncodeError` of a lone surrogate. -/
def migrateUri (user password host port dbname : Str) : Option Str := do
  return str "postgresql+psycopg://" ++ (← quote (str "/") user) ++ str ":" ++
    (← quote (str "/") password) ++ str "@" ++ host ++ str ":" ++ port ++ str "/" ++ dbname

/-- What the file of a directory holds, where there is one. -/
abbrev Files := Str → Str → Option (List UInt8)

/-- `returned` is whether a carriage return was read last, which takes a newline along. -/
def newlinesFrom (returned : Bool) : Str → Str
  | [] => []
  | c :: rest =>
    if c = 0x0a ∧ returned then newlinesFrom false rest
    else if c = 0x0d then 0x0a :: newlinesFrom true rest
    else c :: newlinesFrom false rest

def universalNewlines (text : Str) : Str := newlinesFrom false text

inductive CredentialError where
  | unicodeDecodeError

/-- `Path.read_text(encoding="utf-8")` -/
def readText (data : List UInt8) : Except CredentialError Str :=
  match decodeUtf8 data with
  | some text => .ok (universalNewlines text)
  | none => .error .unicodeDecodeError

/-- The file of a directory that is named, stripped. -/
def deliveredCredential (files : Files) (env : Dict Str Str) (name : Str) :
    Except CredentialError (Option Str) :=
  match env.get? (str "CREDENTIALS_DIRECTORY") with
  | some creds =>
    if creds ≠ [] then
      match files creds name with
      | some data => (readText data).map fun text => some (strip text)
      | none => .ok none
    else .ok none
  | none => .ok none

def readCredential (files : Files) (env : Dict Str Str) (name envVar : Str) :
    Except CredentialError (Option Str) := do
  let delivered ← deliveredCredential files env name
  let inline := (env.get? envVar).map strip
  return (delivered.filter (· ≠ [])).or (inline.filter (· ≠ []))

inductive MigrateError where
  | runtimeError (message : Str)
  | unicodeDecodeError
  | unicodeEncodeError

def migratePassword (files : Files) (env : Dict Str Str) : Except MigrateError Str :=
  match readCredential files env (str "db_migration_password")
    (str "ROSADMIN_DB_MIGRATE_PASSWORD") with
  | .ok (some password) => .ok password
  | .ok none => .error (.runtimeError (str "database migration password is not configured"))
  | .error .unicodeDecodeError => .error .unicodeDecodeError

def migrateUser (env : Dict Str Str) : Str :=
  (env.get? (str "ROSADMIN_DB_MIGRATE_USER")).getD (str "rosadmin_staging_migrate")

def migrateHost (env : Dict Str Str) : Str :=
  (env.get? (str "ROSADMIN_DB_MIGRATE_HOST")).getD (str "127.0.0.1")

def migratePort (env : Dict Str Str) : Str :=
  (env.get? (str "ROSADMIN_DB_MIGRATE_PORT")).getD (str "5433")

def migrateName (env : Dict Str Str) : Str :=
  (env.get? (str "ROSADMIN_DB_NAME")).getD (str "rosadmin_staging")

def migrateUriFromEnv (files : Files) (env : Dict Str Str) : Except MigrateError Str := do
  let password ← migratePassword files env
  match migrateUri (migrateUser env) password (migrateHost env) (migratePort env)
    (migrateName env) with
  | some uri => .ok uri
  | none => .error .unicodeEncodeError

example : migrateUriFromEnv (fun _ _ => some [0x70, 0x77, 0x0d, 0x0a])
    (Dict.empty.set (str "CREDENTIALS_DIRECTORY") (str "/run/credentials")) =
    .ok (str "postgresql+psycopg://rosadmin_staging_migrate:pw@127.0.0.1:5433/rosadmin_staging") := by
  rfl

/-! ### What the URI names -/

structure Connection where
  user : Str
  password : Str
  host : Str
  port : Str
  dbname : Str
  deriving DecidableEq

/-- The parts of a URI, percent-decoded; a part that is missing names no connection. -/
def Connection.ofParts (uri : Uri) : Option Connection := do
  let user ← percentDecode (← uri.user)
  let password ← percentDecode (← uri.password)
  let host ← percentDecode uri.host
  let port ← percentDecode (← uri.port)
  let dbname ← percentDecode uri.path.tail
  return ⟨user, password, host, port, dbname⟩

def Connection.read (uri : Str) : Option Connection := (Uri.parse uri).bind ofParts

/-- The URI is built, and names what it was built from. -/
def Survives (user password host port dbname : Str) : Prop :=
  (migrateUri user password host port dbname).bind Connection.read = some ⟨user, password, host,
    port, dbname⟩

/-- Free of the characters that cut a URI apart. -/
def Plain (text : Str) : Prop := ∀ c ∈ text, c ∉ str ":/?#[]@%"

instance (text : Str) : Decidable (Plain text) := inferInstanceAs (Decidable (∀ _ ∈ _, _))

def Numeric (port : Str) : Prop := port ≠ [] ∧ ∀ c ∈ port, 0x30 ≤ c ∧ c ≤ 0x39

instance (port : Str) : Decidable (Numeric port) := inferInstanceAs (Decidable (_ ∧ _))

/-- No lone surrogate. -/
def Encodable (text : Str) : Prop := ∀ c ∈ text, c.isValidChar

instance (text : Str) : Decidable (Encodable text) := inferInstanceAs (Decidable (∀ _ ∈ _, _))

section
variable {user password host port dbname uri : Str}

theorem migrateUri_eq_some : migrateUri user password host port dbname = some uri ↔
    ∃ user' password', quote (str "/") user = some user' ∧
      quote (str "/") password = some password' ∧
      uri = Uri.text (str "postgresql+psycopg") user' password' host port (0x2f :: dbname) := by
  have written : ∀ user' password', str "postgresql+psycopg://" ++ user' ++ str ":" ++ password' ++
      str "@" ++ host ++ str ":" ++ port ++ str "/" ++ dbname =
        Uri.text (str "postgresql+psycopg") user' password' host port (0x2f :: dbname) := by
    intro user' password'
    simp [Uri.text, str]
  unfold migrateUri
  cases quote (str "/") user with
  | none => simp
  | some user' =>
    cases quote (str "/") password with
    | none => simp
    | some password' =>
      simp only [Option.bind_eq_bind, Option.bind_some, written, Option.pure_def, Option.some.injEq,
        exists_and_left, exists_eq_left']
      exact eq_comm

theorem migrateUri_isSome :
    (migrateUri user password host port dbname).isSome ↔ Encodable user ∧ Encodable password := by
  unfold Encodable migrateUri
  rw [← encodeUtf8_isSome, ← encodeUtf8_isSome]
  simp only [quote]
  cases encodeUtf8 user with
  | none => simp
  | some _ =>
    cases encodeUtf8 password with
    | none => simp
    | some _ => simp

theorem plain_of_numeric (numeric : Numeric port) : Plain port := by
  intro c member
  have above : ∀ d ∈ str ":/?#[]@%", d < 0x30 ∨ 0x39 < d := by decide
  intro marked
  have := above c marked
  have := numeric.2 c member
  omega

/-! ### Reading it back -/

theorem quote_free {text quoted : Str} (made : quote (str "/") text = some quoted) {d : Nat}
    (marked : d ∈ str ":?#@") : d ∉ quoted := by
  have reserved : ∀ d ∈ str ":?#@", unreserved d = false ∧ d ≠ 0x25 ∧ d ∉ str "/" := by decide
  obtain ⟨reserved, unmarked, escaped⟩ := reserved d marked
  exact fun member => escaped ((mem_quote made reserved unmarked).mp member).2.1

theorem slash_mem_quote {text quoted : Str} (made : quote (str "/") text = some quoted) :
    0x2f ∈ quoted ↔ 0x2f ∈ text := by
  rw [mem_quote made (by decide) (by decide)]
  exact ⟨fun h => h.2.2, fun member => ⟨by decide, by decide, member⟩⟩

theorem endsAuthority_iff {c : Nat} : endsAuthority c = true ↔ c = 0x2f ∨ c ∈ str "?#" := by
  simp [endsAuthority, str]

/-- What quoting writes ends the authority only where the text holds a slash. -/
theorem endsAuthority_quote {text quoted : Str} (made : quote (str "/") text = some quoted)
    (slashless : 0x2f ∉ text) : ∀ c ∈ quoted, endsAuthority c = false := by
  have marks : ∀ d ∈ str "?#", d ∈ str ":?#@" := by decide
  intro c member
  refine eq_false_of_ne_true fun ends => ?_
  rcases endsAuthority_iff.mp ends with rfl | mark
  · exact slashless ((slash_mem_quote made).mp member)
  · exact quote_free made (marks c mark) member

theorem Plain.free {text : Str} (plain : Plain text) {d : Nat} (marked : d ∈ str ":/?#[]@%") :
    d ∉ text :=
  fun member => plain d member marked

theorem Plain.endsAuthority {text : Str} (plain : Plain text) :
    ∀ c ∈ text, endsAuthority c = false := by
  have marks : ∀ d ∈ str "?#", d ∈ str ":/?#[]@%" := by decide
  intro c member
  refine eq_false_of_ne_true fun ends => plain c member ?_
  rcases endsAuthority_iff.mp ends with rfl | mark
  · decide
  · exact marks c mark

theorem Plain.endsPath {text : Str} (plain : Plain text) : ∀ c ∈ text, endsPath c = false := by
  have marks : ∀ d ∈ str "?#", d ∈ str ":/?#[]@%" := by decide
  intro c member
  refine eq_false_of_ne_true fun ends => plain c member (marks c ?_)
  exact List.contains_iff_mem.mp ends

/-- Without a slash in the credential every part is read back. -/
theorem Connection.read_migrateUri (hostPlain : Plain host) (portPlain : Plain port)
    (namePlain : Plain dbname) (userSlashless : 0x2f ∉ user) (passwordSlashless : 0x2f ∉ password)
    (built : migrateUri user password host port dbname = some uri) :
    read uri = some ⟨user, password, host, port, dbname⟩ := by
  obtain ⟨user', password', userMade, passwordMade, rfl⟩ := migrateUri_eq_some.mp built
  have authority : ∀ c ∈ user' ++ password' ++ host ++ port, endsAuthority c = false := by
    simp only [List.forall_mem_append]
    exact ⟨⟨⟨endsAuthority_quote userMade userSlashless,
      endsAuthority_quote passwordMade passwordSlashless⟩,
      hostPlain.endsAuthority⟩, portPlain.endsAuthority⟩
  have schemeFree : 0x3a ∉ str "postgresql+psycopg" := by decide
  have parsed := Uri.parse_text schemeFree (quote_free userMade (by decide)) authority
    (hostPlain.free (by decide))
    ⟨portPlain.free (by decide), portPlain.free (by decide)⟩ namePlain.endsPath
  have decoded : ofParts ⟨str "postgresql+psycopg", some user', some password', host, some port,
      0x2f :: dbname⟩ = some ⟨user, password, host, port, dbname⟩ := by
    simp only [ofParts, Option.bind_eq_bind, Option.bind_some, List.tail_cons, Option.pure_def,
      percentDecode_quote (by decide) userMade, percentDecode_quote (by decide) passwordMade,
      percentDecode_plain (hostPlain.free (by decide)),
        percentDecode_plain (portPlain.free (by decide)),
      percentDecode_plain (namePlain.free (by decide))]
  rw [read, parsed, Option.bind_some, decoded]

/-- A slash in the credential ends the authority before the at-sign, so no user is read. -/
theorem Connection.read_slashed (slashed : 0x2f ∈ user ∨ 0x2f ∈ password)
    (built : migrateUri user password host port dbname = some uri) : read uri = none := by
  obtain ⟨user', password', userMade, passwordMade, rfl⟩ := migrateUri_eq_some.mp built
  have slash : 0x2f ∈ user' ++ 0x3a :: password' := by
    rw [List.mem_append, List.mem_cons, slash_mem_quote userMade, slash_mem_quote passwordMade]
    exact slashed.imp_right Or.inr
  have atless : 0x40 ∉ user' ++ 0x3a :: password' := by
    simp [quote_free userMade (d := 0x40) (by decide),
      quote_free passwordMade (d := 0x40) (by decide)]
  obtain ⟨before, after, split⟩ := List.append_of_mem slash
  have written : Uri.text (str "postgresql+psycopg") user' password' host port (0x2f :: dbname) =
      str "postgresql+psycopg" ++ str "://" ++
        (before ++ 0x2f :: (after ++ 0x40 :: (host ++ 0x3a :: (port ++ 0x2f :: dbname)))) := by
    have front : user' ++ (0x3a :: password' ++
        0x40 :: (host ++ 0x3a :: (port ++ 0x2f :: dbname))) =
          before ++ 0x2f :: (after ++ 0x40 :: (host ++ 0x3a :: (port ++ 0x2f :: dbname))) := by
      rw [← List.append_assoc, split, List.append_assoc, List.cons_append]
    rw [← front]
    simp [Uri.text, str]
  have bare : 0x40 ∉ (before ++
      0x2f :: (after ++ 0x40 :: (host ++ 0x3a :: (port ++ 0x2f :: dbname)))).takeWhile
        (!endsAuthority ·) := by
    rw [takeWhile_before (by decide)]
    intro member
    refine atless ?_
    rw [split]
    exact List.mem_append_left _ ((List.takeWhile_prefix _).subset member)
  rw [read, written, Uri.parse_scheme (by decide), Option.bind_some, ofParts,
    Uri.parts_user_none bare]
  rfl

/-- A credential survives exactly when it can be encoded and holds no slash. -/
theorem survives_iff (hostPlain : Plain host) (portNumeric : Numeric port)
    (namePlain : Plain dbname) : Survives user password host port dbname ↔
      (Encodable user ∧ Encodable password) ∧ 0x2f ∉ user ∧ 0x2f ∉ password := by
  rw [← migrateUri_isSome, Survives]
  constructor
  · intro survives
    obtain ⟨uri, built, named⟩ := Option.bind_eq_some_iff.mp survives
    refine ⟨by rw [built]; rfl, ?_⟩
    rw [← not_or]
    intro slashed
    rw [Connection.read_slashed slashed built] at named
    cases named
  · intro clean
    obtain ⟨encoded, userSlashless, passwordSlashless⟩ := clean
    obtain ⟨uri, built⟩ := Option.isSome_iff_exists.mp encoded
    rw [built, Option.bind_some]
    exact Connection.read_migrateUri hostPlain (plain_of_numeric portNumeric) namePlain
      userSlashless passwordSlashless
      built

theorem survives_iff_default : Survives (str "rosadmin_staging_migrate") (str "p@ss:w%rd?#")
    (str "127.0.0.1") (str "5433") (str "rosadmin_staging") :=
  (survives_iff (by decide) (by decide) (by decide)).mpr ⟨⟨by decide, by decide⟩,
    by decide, by decide⟩

/-- The default target with a slash in the password. -/
theorem slashed_password_lost :
    ¬Survives (str "rosadmin_staging_migrate") (str "a/b") (str "127.0.0.1") (str "5433")
    (str "rosadmin_staging") := by
  intro survives
  obtain ⟨uri, built, named⟩ := Option.bind_eq_some_iff.mp survives
  rw [Connection.read_slashed (Or.inr (by decide)) built] at named
  cases named

end

end Rosadmin.Db
