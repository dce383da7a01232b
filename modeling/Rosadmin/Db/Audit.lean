import Rosadmin.Db.Migrate
import Rosadmin.Foundation.Runs
import Rosadmin.JournalSend

/-!
# The audit trail

One choke point writes every audited event: the row first, then its mirror in
the journal. The ids land under a keyed digest, and the key is read anew at every
start, from a credential file or from the environment.
-/

namespace Rosadmin.Db
open Foundation

/-- The hex digest of an HMAC, by key and message. -/
abbrev Hmac := Octets → Octets → Str

inductive AuditKeyError where
  | runtimeError (message : Str)
  | unicodeDecodeError
  | unicodeEncodeError

def auditKeyFromEnv (files : Files) (env : Dict Str Str) : Except AuditKeyError Octets :=
  match readCredential files env (str "audit-hmac-key") (str "ROSADMIN_AUDIT_HMAC_KEY") with
  | .error .unicodeDecodeError => .error .unicodeDecodeError
  | .ok none => .error (.runtimeError (str "audit HMAC key is not configured"))
  | .ok (some raw) => match encodeUtf8 raw with
    | none => .error .unicodeEncodeError
    | some key => .ok key

structure AuditCall where
  action : Str
  actor : Str
  subject : Option Str
  detail : Option (List (Str × Json))

structure AuditLogRow where
  actorHmac : Str
  subjectHmac : Option Str
  action : Str
  detail : List (Str × Json)

/-- What becomes of the row's transaction. -/
inductive RowFate where
  /-- no connection could be had -/
  | unreached
  | refused
  | commits
  /-- The commit takes effect, and its answer is lost. -/
  | unanswered
  deriving DecidableEq

def RowFate.stands : RowFate → Bool
  | .commits | .unanswered => true
  | .unreached | .refused => false

inductive Journald where
  /-- no socket: a benign no-op -/
  | absent
  | working
  | broken
  deriving DecidableEq

/-- What the two stores make of one event. -/
structure SinkFate where
  row : RowFate
  journald : Journald

inductive AuditError where
  | unicodeEncodeError
  | database
  | journalSend
  | unrecorded (action : Str)
  deriving DecidableEq

structure Trail where
  auditLog : List AuditLogRow
  journal : List Octets

section
variable (hmac : Hmac) (key : Octets)

def pseudonym (value : Str) : Option Str := (encodeUtf8 value).map (hmac key)

/-- `None` is the `UnicodeEncodeError` of an id; `detail or {}`. -/
def AuditCall.row (call : AuditCall) : Option AuditLogRow := do
  let actorHmac ← pseudonym hmac key call.actor
  let subjectHmac ← call.subject.mapM (pseudonym hmac key)
  return ⟨actorHmac, subjectHmac, call.action, call.detail.getD []⟩

def AuditLogRow.datagram (row : AuditLogRow) : Option Octets :=
  JournalSend.payload (JournalSend.auditFields row.action row.actorHmac row.subjectHmac)

/-- `journal_send.audit`: the datagram sent, if one is. -/
def journalAudit (journald : Journald) (row : AuditLogRow) : Except AuditError (Option Octets) :=
  match journald with
  | .absent => .ok none
  | .working => match row.datagram with
    | none => .error .unicodeEncodeError
    | some datagram => .ok (some datagram)
  | .broken => match row.datagram with
    | none => .error .unicodeEncodeError
    | some _ => .error .journalSend

def record (fate : SinkFate) (call : AuditCall) (s : Trail) : Except AuditError Unit × Trail :=
  match call.row hmac key with
  | none => (.error .unicodeEncodeError, s)
  | some row =>
    -- the driver encodes the action only on a connection; its `UnicodeEncodeError` is no
    -- `psycopg.Error`
    if fate.row ≠ .unreached ∧ encodeUtf8 row.action = none then (.error .unicodeEncodeError, s)
    else
      let auditLog := if fate.row.stands then s.auditLog ++ [row] else s.auditLog
      match journalAudit fate.journald row with
      | .ok sent =>
        (if fate.row = .commits then .ok () else .error .database,
          ⟨auditLog, s.journal ++ sent.toList⟩)
      | .error .journalSend =>
        (.error (if fate.row = .commits then .journalSend else .unrecorded call.action),
          ⟨auditLog, s.journal⟩)
      | .error error => (.error error, ⟨auditLog, s.journal⟩)

/-- The errors of the stores are logged and stop here. -/
def recordBestEffort (fate : SinkFate) (call : AuditCall) (s : Trail) :
    Except AuditError Unit × Trail :=
  match record hmac key fate call s with
  | (.error .unicodeEncodeError, s) => (.error .unicodeEncodeError, s)
  | (_, s) => (.ok (), s)

end

/-! ### Starts and events -/

inductive SinkEvent where
  | boot (files : Files) (env : Dict Str Str)
  | record (fate : SinkFate) (call : AuditCall)

/-- What the caller of `record` was told, and what the stores had made of the event. -/
structure Told where
  call : AuditCall
  fate : SinkFate
  result : Except AuditError Unit

structure AuditedService where
  /-- `None` while the service does not run. -/
  key : Option Octets
  trail : Trail
  told : List Told

def AuditedService.step (hmac : Hmac) (s : AuditedService) : SinkEvent → AuditedService
  | .boot files env => { s with key := (auditKeyFromEnv files env).toOption }
  | .record fate call => match s.key with
    | none => s
    | some key =>
      let done := Rosadmin.Db.record hmac key fate call s.trail
      { s with trail := done.2, told := s.told ++ [⟨call, fate, done.1⟩] }

def auditRun (hmac : Hmac) (events : List SinkEvent) : AuditedService :=
  events.foldl (AuditedService.step hmac) ⟨none, ⟨[], []⟩, []⟩

/-- The answers by which a caller knows that the row stands. -/
def Told.stands (t : Told) : Bool :=
  match t.result with
  | .ok () | .error .journalSend => true
  | .error _ => false

/-- The caller was told that the row was not written, but its commit took effect. -/
def Told.lost (t : Told) : Bool :=
  match t.result with
  | .error .database | .error (.unrecorded _) => t.fate.row = .unanswered
  | _ => false

/-- The answers by which a caller knows that the journal, where there is one, holds the event. -/
def Told.mirrored (t : Told) : Bool :=
  match t.result with
  | .ok () | .error .database => true
  | .error _ => false

/-- A secret with no space around it, and no carriage return, which reading a file would turn into
a newline. -/
structure Trimmed (secret : Str) : Prop where
  filled : secret ≠ []
  front : secret.dropWhile isSpace = secret
  back : secret.reverse.dropWhile isSpace = secret.reverse
  unreturned : 0x0d ∉ secret

/-- Where a start finds the secret: in the credential file, or, where that is missing or blank, in
the environment; with any space around it. -/
inductive Delivers (secret : Str) (files : Files) (env : Dict Str Str) : Prop where
  | file {creds before after : Str} {data : Octets}
    (named : env.get? (str "CREDENTIALS_DIRECTORY") = some creds) (filled : creds ≠ [])
    (there : files creds (str "audit-hmac-key") = some data)
    (text : decodeUtf8 data = some (before ++ secret ++ after))
    (ahead : ∀ c ∈ before, isSpace c = true) (behind : ∀ c ∈ after, isSpace c = true)
  | inline {before after : Str}
    (fileless : ∀ creds data, env.get? (str "CREDENTIALS_DIRECTORY") = some creds → creds ≠ [] →
      files creds (str "audit-hmac-key") = some data →
      ∃ text, decodeUtf8 data = some text ∧ ∀ c ∈ text, isSpace c = true)
    (text : env.get? (str "ROSADMIN_AUDIT_HMAC_KEY") = some (before ++ secret ++ after))
    (ahead : ∀ c ∈ before, isSpace c = true) (behind : ∀ c ∈ after, isSpace c = true)

theorem strip_around {secret before after : Str} (trimmed : Trimmed secret)
    (ahead : ∀ c ∈ before, isSpace c = true) (behind : ∀ c ∈ after, isSpace c = true) :
    strip (before ++ secret ++ after) = secret := by
  -- a text that starts with no space stops the walk through the spaces before it
  have stops : ∀ text rest : Str, text ≠ [] → text.dropWhile isSpace = text →
      (text ++ rest).dropWhile isSpace = text ++ rest := by
    intro text rest filled front
    cases text with
    | nil => exact absurd rfl filled
    | cons c text =>
      cases space : isSpace c with
      | true =>
        rw [List.dropWhile_cons_of_pos space] at front
        have shorter := List.length_dropWhile_le isSpace text
        rw [front, List.length_cons] at shorter
        omega
      | false =>
        rw [List.cons_append, List.dropWhile_cons_of_neg (by simp [space])]
  have behind' : ∀ c ∈ after.reverse, isSpace c = true :=
    fun c member => behind c (List.mem_reverse.mp member)
  have back := stops secret.reverse [] (by simpa using trimmed.filled) trimmed.back
  rw [strip, List.append_assoc, List.dropWhile_append_of_pos ahead,
    stops secret after trimmed.filled trimmed.front,
    List.reverse_append, List.dropWhile_append_of_pos behind', ← List.append_nil secret.reverse,
      back, List.append_nil,
    List.reverse_reverse]

theorem strip_blank {text : Str} (blank : ∀ c ∈ text, isSpace c = true) : strip text = [] := by
  rw [strip, ← List.append_nil text, List.dropWhile_append_of_pos blank]
  rfl

theorem newlines_append (returned : Bool) (text rest : Str) : ∃ later : Bool,
    newlinesFrom returned (text ++ rest) = newlinesFrom returned text ++
      newlinesFrom later rest := by
  induction text generalizing returned with
  | nil => exact ⟨returned, rfl⟩
  | cons c text ih =>
    rw [List.cons_append, newlinesFrom, newlinesFrom]
    split
    · exact ih false
    · split
      · obtain ⟨later, same⟩ := ih true
        exact ⟨later, by rw [same, List.cons_append]⟩
      · obtain ⟨later, same⟩ := ih false
        exact ⟨later, by rw [same, List.cons_append]⟩

theorem newlines_blank {text : Str} (blank : ∀ c ∈ text, isSpace c = true) (returned : Bool) :
    ∀ c ∈ newlinesFrom returned text, isSpace c = true := by
  induction text generalizing returned with
  | nil => exact fun c member => nomatch member
  | cons c text ih =>
    obtain ⟨here, later⟩ := List.forall_mem_cons.mp blank
    rw [newlinesFrom]
    split
    · exact ih later false
    · split
      · exact List.forall_mem_cons.mpr ⟨by decide, ih later true⟩
      · exact List.forall_mem_cons.mpr ⟨here, ih later false⟩

theorem newlines_unreturned {text : Str} (unreturned : 0x0d ∉ text) :
    newlinesFrom false text = text := by
  induction text with
  | nil => rfl
  | cons c text ih =>
    have plain : c ≠ 0x0d := fun same => unreturned (same ▸ List.mem_cons_self)
    rw [newlinesFrom, if_neg (by simp), if_neg plain, ih fun member => unreturned (.tail c member)]

/-- What stands first in a secret is no newline, so one that was read before it takes nothing
along. -/
theorem newlines_secret {secret : Str} (trimmed : Trimmed secret) (returned : Bool) :
    newlinesFrom returned secret = secret := by
  cases secret with
  | nil => rfl
  | cons c secret =>
    have solid : isSpace c = false := by
      refine eq_false_of_ne_true fun space => ?_
      have front := trimmed.front
      rw [List.dropWhile_cons_of_pos space] at front
      have shorter := List.length_dropWhile_le isSpace secret
      rw [front, List.length_cons] at shorter
      omega
    have plain : c ≠ 0x0d := fun same => trimmed.unreturned (same ▸ List.mem_cons_self)
    have feedless : ¬(c = 0x0a ∧ returned) := by
      rintro ⟨rfl, -⟩
      cases solid
    rw [newlinesFrom, if_neg feedless, if_neg plain,
      newlines_unreturned fun member => trimmed.unreturned (.tail c member)]

/-- Reading a file changes the space around a secret into other space. -/
theorem strip_newlines {secret before after : Str} (trimmed : Trimmed secret)
    (ahead : ∀ c ∈ before, isSpace c = true) (behind : ∀ c ∈ after, isSpace c = true) :
    strip (universalNewlines (before ++ secret ++ after)) = secret := by
  obtain ⟨first, same⟩ := newlines_append false (before ++ secret) after
  obtain ⟨second, front⟩ := newlines_append false before secret
  rw [universalNewlines, same, front, newlines_secret trimmed]
  exact strip_around trimmed (newlines_blank ahead false) (newlines_blank behind first)

example : readText [0x6b, 0x0d, 0x31] = .ok (str "k\n1") := by rfl

section
variable {secret : Str} {files : Files} {env : Dict Str Str} {name : Str}

theorem deliveredCredential_file {creds before after : Str} {data : Octets}
    (trimmed : Trimmed secret) (named : env.get? (str "CREDENTIALS_DIRECTORY") = some creds)
    (filled : creds ≠ []) (there : files creds name = some data)
    (text : decodeUtf8 data = some (before ++ secret ++ after))
    (ahead : ∀ c ∈ before, isSpace c = true) (behind : ∀ c ∈ after, isSpace c = true) :
    deliveredCredential files env name = .ok (some secret) := by
  rw [deliveredCredential, named]
  dsimp only
  rw [if_pos filled, there]
  dsimp only
  rw [readText, text]
  dsimp only
  rw [Except.map, strip_newlines trimmed ahead behind]

/-- A file that is missing or blank delivers nothing. -/
theorem deliveredCredential_fileless
    (fileless : ∀ creds data, env.get? (str "CREDENTIALS_DIRECTORY") = some creds → creds ≠ [] →
      files creds name = some data →
      ∃ text, decodeUtf8 data = some text ∧ ∀ c ∈ text, isSpace c = true) :
    ∃ blank, deliveredCredential files env name = .ok blank ∧ blank.filter (· ≠ []) = none := by
  rw [deliveredCredential]
  cases named : env.get? (str "CREDENTIALS_DIRECTORY") with
  | none => exact ⟨none, rfl, rfl⟩
  | some creds =>
    dsimp only
    split
    · rename_i filled
      cases there : files creds name with
      | none => exact ⟨none, rfl, rfl⟩
      | some data =>
        obtain ⟨content, decoded, blank⟩ := fileless creds data named filled there
        dsimp only
        rw [readText, decoded]
        exact ⟨_, rfl, by simp [universalNewlines, strip_blank (newlines_blank blank false)]⟩
    · exact ⟨none, rfl, rfl⟩

theorem auditKey_delivered {key : Octets} (trimmed : Trimmed secret)
    (encoded : encodeUtf8 secret = some key) (delivers : Delivers secret files env) :
    auditKeyFromEnv files env = .ok key := by
  suffices read : readCredential files env (str "audit-hmac-key") (str "ROSADMIN_AUDIT_HMAC_KEY") =
      .ok (some secret) by
    rw [auditKeyFromEnv, read]
    dsimp only
    rw [encoded]
  have kept : (some secret).filter (fun text => decide (text ≠ [])) = some secret :=
    Option.filter_eq_some_iff.mpr ⟨rfl, decide_eq_true trimmed.filled⟩
  rw [readCredential]
  cases delivers with
  | file named filled there text ahead behind =>
    have delivered := deliveredCredential_file trimmed named filled there text ahead behind
    rw [delivered, ok_bind, kept]
    rfl
  | inline fileless text ahead behind =>
    obtain ⟨blank, delivered, vanished⟩ := deliveredCredential_fileless fileless
    rw [delivered, ok_bind, vanished, text, Option.map_some, strip_around trimmed ahead behind]
    dsimp only
    rw [kept]
    rfl

end

section
variable {hmac : Hmac} {key : Octets}

/-- The digest of an id is written in ASCII. -/
def Hexadecimal (hmac : Hmac) : Prop := ∀ key message, ∀ c ∈ hmac key message, c < 0x80

theorem encodeUtf8_pseudonym (hex : Hexadecimal hmac) {value digest : Str}
    (made : pseudonym hmac key value = some digest) : (encodeUtf8 digest).isSome := by
  obtain ⟨raw, -, rfl⟩ := Option.map_eq_some_iff.mp made
  refine encodeUtf8_isSome.mpr fun c member => Or.inl ?_
  have := hex key raw c member
  omega

theorem row_eq_some {call : AuditCall} {row : AuditLogRow} :
    call.row hmac key = some row ↔ pseudonym hmac key call.actor = some row.actorHmac ∧
      call.subject.mapM (pseudonym hmac key) = some row.subjectHmac ∧ row.action = call.action ∧
      row.detail = call.detail.getD [] := by
  obtain ⟨actorHmac, subjectHmac, action, detail⟩ := row
  rw [AuditCall.row]
  cases pseudonym hmac key call.actor with
  | none => simp
  | some digest => cases call.subject.mapM (pseudonym hmac key) <;> simp [eq_comm]

theorem datagram_isSome (hex : Hexadecimal hmac) {call : AuditCall} {row : AuditLogRow}
    (made : call.row hmac key = some row) (action : (encodeUtf8 row.action).isSome) :
    row.datagram.isSome := by
  obtain ⟨actor, subject, -⟩ := row_eq_some.mp made
  refine JournalSend.auditFields_isSome action (encodeUtf8_pseudonym hex actor) ?_
  intro digest present
  cases given : call.subject with
  | none =>
    rw [given] at subject
    cases (Option.some.inj subject).trans present
  | some value =>
    rw [given, present] at subject
    obtain ⟨digested, read, same⟩ := Option.map_eq_some_iff.mp subject
    obtain rfl := Option.some.inj same
    exact encodeUtf8_pseudonym hex read

/-- A row is added exactly where the caller is told that it stands, or where a commit lost its
answer; and a datagram is sent exactly where the caller is told of no failure, if there is a
journal. -/
theorem record_stores (hex : Hexadecimal hmac) (call : AuditCall) (fate : SinkFate) (s : Trail) :
    let done := record hmac key fate call s
    let t : Told := ⟨call, fate, done.1⟩
    done.2.auditLog.map some =
        s.auditLog.map some ++ (if t.stands || t.lost then [call.row hmac key] else []) ∧
      done.2.journal.map some = s.journal.map some ++
        (if t.mirrored && t.fate.journald ≠ .absent
          then [(call.row hmac key).bind AuditLogRow.datagram] else []) := by
  obtain ⟨fated, journald⟩ := fate
  dsimp only
  rw [record]
  cases made : call.row hmac key with
  | none => simp [Told.stands, Told.lost, Told.mirrored]
  | some row =>
    cases encoded : encodeUtf8 row.action with
    | some octets =>
      obtain ⟨datagram, sent⟩ :=
        Option.isSome_iff_exists.mp (datagram_isSome hex made (by simp [encoded]))
      cases journald <;> cases fated <;>
        simp [encoded, journalAudit, sent, RowFate.stands, Told.stands, Told.lost, Told.mirrored]
    | none =>
      by_cases reached : fated = .unreached
      · -- no connection encodes the action, so the journal is asked next
        subst reached
        cases journald <;> cases sent : row.datagram <;>
          simp [journalAudit, sent, RowFate.stands, Told.stands, Told.lost, Told.mirrored]
      · simp [encoded, reached, Told.stands, Told.lost, Told.mirrored]

/-- No failure of a store leaves `record_best_effort`, and an id that cannot be encoded does. -/
theorem recordBestEffort_ok (hex : Hexadecimal hmac) {call : AuditCall} (fate : SinkFate)
    (s : Trail) (subjectless : call.subject = none) (action : (encodeUtf8 call.action).isSome) :
    (recordBestEffort hmac key fate call s).1 = .ok () ↔ (encodeUtf8 call.actor).isSome := by
  obtain ⟨octets, encoded⟩ := Option.isSome_iff_exists.mp action
  cases actor : encodeUtf8 call.actor with
  | none =>
    have unmade : call.row hmac key = none := by
      rw [AuditCall.row, pseudonym, actor]
      rfl
    simp [recordBestEffort, record, unmade]
  | some raw =>
    have made : call.row hmac key =
        some ⟨hmac key raw, none, call.action, call.detail.getD []⟩ := by
      rw [AuditCall.row, pseudonym, actor, subjectless]
      rfl
    obtain ⟨datagram, sent⟩ := Option.isSome_iff_exists.mp (datagram_isSome hex made action)
    obtain ⟨fated, journald⟩ := fate
    cases journald <;> cases fated <;>
      simp [recordBestEffort, record, made, encoded, journalAudit, sent]

end

/-! ### Whole runs -/

/-- Every start finds the one secret, or no key at all. -/
def SinkEvent.Keeps (secret : Str) : SinkEvent → Prop
  | .boot files env => Delivers secret files env ∨ (auditKeyFromEnv files env).toOption = none
  | .record .. => True

def Told.row (hmac : Hmac) (key : Octets) (t : Told) : Option AuditLogRow := t.call.row hmac key

def Told.datagram (hmac : Hmac) (key : Octets) (t : Told) : Option Octets :=
  (t.row hmac key).bind AuditLogRow.datagram

/-- Both stores hold what the callers were told, under one key. -/
structure AuditedService.Accounted (hmac : Hmac) (key : Octets) (s : AuditedService) : Prop where
  oneKey : ∀ held ∈ s.key, held = key
  auditLog : s.trail.auditLog.map some =
    (s.told.filter fun t => t.stands || t.lost).map (Told.row hmac key)
  journal : s.trail.journal.map some =
    (s.told.filter fun t => t.mirrored && t.fate.journald ≠ .absent).map (Told.datagram hmac key)

section
variable {hmac : Hmac} {secret : Str} {key : Octets}

theorem map_filter_singleton {α β : Type} (p : α → Bool) (f : α → β) (a : α) :
    ([a].filter p).map f = if p a then [f a] else [] := by
  cases held : p a with
  | false => simp [held]
  | true => simp [held]

theorem AuditedService.Accounted.step (hex : Hexadecimal hmac) (trimmed : Trimmed secret)
    (encoded : encodeUtf8 secret = some key) {s : AuditedService} (accounted : s.Accounted hmac key)
    {event : SinkEvent} (keeps : event.Keeps secret) :
    (AuditedService.step hmac s event).Accounted hmac key := by
  obtain ⟨oneKey, auditLog, journal⟩ := accounted
  cases event with
  | boot files env =>
    refine ⟨fun held present => ?_, auditLog, journal⟩
    rcases keeps with delivers | missing
    · have booted := auditKey_delivered trimmed encoded delivers
      rw [AuditedService.step, booted] at present
      exact (Option.some.inj present).symm
    · rw [AuditedService.step, missing] at present
      cases present
  | record fate call =>
    cases running : s.key with
    | none =>
      rw [AuditedService.step, running]
      exact ⟨oneKey, auditLog, journal⟩
    | some held =>
      obtain rfl := oneKey held running
      rw [AuditedService.step, running]
      dsimp only
      obtain ⟨logged, mirrored⟩ := @record_stores hmac held hex call fate s.trail
      dsimp only at logged mirrored
      refine ⟨?_, ?_, ?_⟩
      · rintro other ⟨⟩
        rfl
      · rw [logged, auditLog, List.filter_append, List.map_append, map_filter_singleton]
        rfl
      · rw [mirrored, journal, List.filter_append, List.map_append, map_filter_singleton]
        rfl

theorem auditRun_accounted (hex : Hexadecimal hmac) (trimmed : Trimmed secret)
    (encoded : encodeUtf8 secret = some key) {events : List SinkEvent}
    (keeps : ∀ e ∈ events, e.Keeps secret) : (auditRun hmac events).Accounted hmac key :=
  run_invariant (fun _ _ accounted kept => accounted.step hex trimmed encoded kept)
    ⟨nofun, rfl, rfl⟩ (guarded_of_events keeps _)

/-- The rows under an actor's pseudonym are the actor's own. -/
theorem rows_of_actor {actor digest : Str} {told : List Told} {rows : List AuditLogRow}
    (named : pseudonym hmac key actor = some digest)
    (apart : ∀ t ∈ told, pseudonym hmac key t.call.actor = some digest → t.call.actor = actor)
    (made : rows.map some = told.map (Told.row hmac key)) :
    (rows.filter (·.actorHmac = digest)).map some =
      (told.filter (·.call.actor = actor)).map (Told.row hmac key) := by
  induction told generalizing rows with
  | nil =>
    cases List.map_eq_nil_iff.mp made
    rfl
  | cons t told ih =>
    cases rows with
    | nil => cases made
    | cons row rows =>
      obtain ⟨here, later⟩ := List.forall_mem_cons.mp apart
      obtain ⟨first, rest⟩ := List.cons.inj made
      have own : row.actorHmac = digest ↔ t.call.actor = actor := by
        have held := (row_eq_some.mp first.symm).1
        constructor
        · rintro rfl
          exact here held
        · rintro rfl
          exact Option.some.inj (held.symm.trans named)
      rw [List.filter_cons, List.filter_cons]
      by_cases mine : t.call.actor = actor
      · simp [own, mine, first, ih later rest]
      · simp [own, mine, ih later rest]

/-- However often the service starts, from whichever delivery of its secret and with whatever
failing of its stores: the log is the events whose callers were told that they stand, and those
whose commit lost its answer; the journal is the events whose callers were told of no failure to
send them, less those that met no journal; and one actor has one pseudonym. -/
theorem audit_trail_never_forks (hex : Hexadecimal hmac) (trimmed : Trimmed secret)
    (encoded : encodeUtf8 secret = some key) {events : List SinkEvent}
    (keeps : ∀ e ∈ events, e.Keeps secret) :
    (auditRun hmac events).trail.auditLog.map some =
        ((auditRun hmac events).told.filter fun t => t.stands || t.lost).map (Told.row hmac key) ∧
      (auditRun hmac events).trail.journal.map some = ((auditRun hmac events).told.filter
        fun t => t.mirrored && t.fate.journald ≠ .absent).map (Told.datagram hmac key) ∧
      ∀ actor digest, pseudonym hmac key actor = some digest →
        (∀ t ∈ (auditRun hmac events).told, pseudonym hmac key t.call.actor = some digest →
          t.call.actor = actor) →
        ((auditRun hmac events).trail.auditLog.filter (·.actorHmac = digest)).map some =
          ((auditRun hmac events).told.filter fun t =>
            (t.stands || t.lost) && t.call.actor = actor).map (Told.row hmac key) := by
  have accounted := auditRun_accounted hex trimmed encoded keeps
  refine ⟨accounted.auditLog, accounted.journal, ?_⟩
  intro actor digest named apart
  have own := rows_of_actor named (fun t member => apart t (List.mem_of_mem_filter member))
    accounted.auditLog
  rw [own, List.filter_filter]
  congr 2
  funext t
  exact Bool.and_comm _ _

end

/-- HMAC-SHA256 of two ids under the key `k1`. -/
def sampleHmac : Hmac := fun _ message =>
  if message = [0x61, 0x6c, 0x69, 0x63, 0x65] then
    str "aff3e2227d2581aeb66e413f8c39d1e207df72e915c13995b2577016f8ec643d"
  else if message = [0x62, 0x6f, 0x62] then
    str "c122de3dad4ff809676ac4bcc83bff9e52c6ed4f909a45dfe756c4ebf6369686"
  else []

/-- `k1`, and a line's end -/
def keyFile : Octets := [0x6b, 0x31, 0x0d, 0x0a]

/-- A start with the credential file and one with the variable. The journal breaks in between, and a
commit loses its answer. -/
def restarted : List SinkEvent :=
  [.boot (fun _ _ => some keyFile)
      (Dict.empty.set (str "CREDENTIALS_DIRECTORY") (str "/run/credentials")),
    .record ⟨.commits, .working⟩ ⟨str "auth.login", str "alice", none, none⟩,
    .record ⟨.commits, .broken⟩ ⟨str "auth.login", str "bob", none, none⟩,
    .boot (fun _ _ => none) (Dict.empty.set (str "ROSADMIN_AUDIT_HMAC_KEY") (str "k1")),
    .record ⟨.refused, .broken⟩ ⟨str "auth.login", str "alice", none, none⟩,
    .record ⟨.unanswered, .working⟩ ⟨str "auth.login", str "alice", none, none⟩,
    .record ⟨.commits, .absent⟩ ⟨str "auth.logout", str "alice", none, none⟩]

theorem audit_trail_never_forks_restarted :
    ((auditRun sampleHmac restarted).trail.auditLog.filter (·.actorHmac =
          str "aff3e2227d2581aeb66e413f8c39d1e207df72e915c13995b2577016f8ec643d")).map some =
      ((auditRun sampleHmac restarted).told.filter fun t =>
        (t.stands || t.lost) && t.call.actor = str "alice").map
          (Told.row sampleHmac [0x6b, 0x31]) := by
  have hex : Hexadecimal sampleHmac := by
    intro _ message
    rw [sampleHmac]
    split
    · decide
    · split
      · decide
      · exact nofun
  have trimmed : Trimmed (str "k1") := ⟨by decide, by decide, by decide, by decide⟩
  refine (audit_trail_never_forks hex trimmed (by decide) ?_).2.2 (str "alice") _ (by decide) ?_
  · simp only [restarted, List.forall_mem_cons, SinkEvent.Keeps]
    have file := @Delivers.file (str "k1") (fun _ _ => some keyFile)
      (Dict.empty.set (str "CREDENTIALS_DIRECTORY") (str "/run/credentials"))
        (str "/run/credentials")
      [] (str "\r\n") keyFile (by decide) (by decide) rfl (by decide) (by decide) (by decide)
    have inline := @Delivers.inline (str "k1") (fun _ _ => none)
      (Dict.empty.set (str "ROSADMIN_AUDIT_HMAC_KEY") (str "k1")) [] []
      (fun _ _ _ _ missing => nomatch missing) (by decide) (by decide) (by decide)
    exact ⟨.inl file, trivial, trivial, .inl inline, trivial, trivial, trivial, nofun⟩
  · decide

end Rosadmin.Db
