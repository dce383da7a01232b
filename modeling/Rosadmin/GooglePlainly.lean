import Rosadmin.GooglePropagation

/-!
# Polling as one call

Call for call, a creation that polls two lagging services refines the plain
sequence of calls, in which a poll is one call that may fail.
-/

namespace Rosadmin.Propagation
open Foundation

/-! ### The plain calls -/

/-- Google as the plain calls meet it. -/
def ReplicatedCalls.plain (google : ReplicatedCalls) (fates : Nat → Fate) : GoogleCalls :=
  ⟨fates, google.freshSettings, google.freshLabels⟩

/-- The fates listed, and an answer to every call after them. -/
def script (fates : List Fate) (n : Nat) : Fate := fates.getD n .answered

theorem script_next (before : List Fate) (fate : Fate) (after : List Fate) :
    script (before ++ [fate] ++ after) before.length = fate := by
  rw [script, List.append_assoc, List.getD_eq_getElem?_getD,
    List.getElem?_append_right (Nat.le_refl _), Nat.sub_self]
  rfl

/-- Two ends of one computation: the same failure, or two values that are `same`. -/
inductive SameEnd {ε α β : Type} (same : α → β → Prop) : Except ε α → Except ε β → Prop where
  | ok {a : α} {b : β} (values : same a b) : SameEnd same (.ok a) (.ok b)
  | error (failure : ε) : SameEnd same (.error failure) (.error failure)

section
variable {ε α β : Type} {same same' : α → β → Prop} {x : Except ε α} {y : Except ε β}

theorem SameEnd.mono (ends : SameEnd same x y) (weaker : ∀ a b, same a b → same' a b) :
    SameEnd same' x y := by
  cases ends with
  | ok values => exact .ok (weaker _ _ values)
  | error failure => exact .error failure

theorem SameEnd.mapError {φ : Type} (ends : SameEnd same x y) (f : ε → φ) :
    SameEnd same (x.mapError f) (y.mapError f) := by
  cases ends with
  | ok values => exact .ok values
  | error failure => exact .error _

end

/-- The plain calls end as these did, under fates of their own, whatever befalls the calls before
and after. -/
def Simulates {α β : Type} (plain : (Nat → Fate) → Google → Except Failure β × Google)
    (same : α → β → Prop) (g : Replicated) (result : Except Failure α × Replicated) : Prop :=
  ∀ before, ∃ fates answer, SameEnd same result.1 answer ∧ ∀ after,
    plain (script (before ++ fates ++ after)) ⟨g.groups, before.length⟩ =
      (answer, ⟨result.2.groups, (before ++ fates).length⟩)

section
variable {α β α' β' : Type} {plain : (Nat → Fate) → Google → Except Failure β × Google}
  {same : α → β → Prop} {next : (Nat → Fate) → β → Google → Except Failure β' × Google}
  {same' : α' → β' → Prop} {g : Replicated}

/-- What follows a computation may look at all of its end. -/
theorem Simulates.followed {result : Except Failure α × Replicated}
    (first : Simulates plain same g result)
    (rest : Except Failure α × Replicated → Except Failure α' × Replicated)
    (next : (Nat → Fate) → Except Failure β × Google → Except Failure β' × Google)
    (second : ∀ answer, SameEnd same result.1 answer →
      Simulates (fun fates h => next fates (answer, h)) same' result.2 (rest result)) :
    Simulates (fun fates h => next fates (plain fates h)) same' g (rest result) := by
  intro before
  obtain ⟨fates, answer, ends, runs⟩ := first before
  obtain ⟨more, answer', ends', runs'⟩ := second answer ends (before ++ fates)
  refine ⟨fates ++ more, answer', ends', fun after => ?_⟩
  have met := runs (more ++ after)
  rw [← List.append_assoc] at met
  have met' := runs' after
  rw [← List.append_assoc before fates more]
  dsimp only
  rw [met]
  exact met'

theorem simulates_done {outcome : Except Failure α} {answer : Except Failure β}
    (ends : SameEnd same outcome answer) (g : Replicated) :
    Simulates (fun _ h => (answer, h)) same g (outcome, g) := by
  intro before
  refine ⟨[], answer, ends, fun _ => ?_⟩
  rw [List.append_nil]

theorem Simulates.andThen {result : Except Failure α × Replicated}
    {rest : α → Replicated → Except Failure α' × Replicated} (first : Simulates plain same g result)
    (second : ∀ a b, result.1 = .ok a → same a b →
      Simulates (fun fates => next fates b) same' result.2 (rest a result.2)) :
    Simulates (fun fates h => Foundation.andThen (plain fates h) (next fates)) same' g
      (Foundation.andThen result rest) := by
  refine first.followed (Foundation.andThen · rest)
    (fun fates r => Foundation.andThen r (next fates)) ?_
  intro answer ends
  obtain ⟨outcome, g'⟩ := result
  dsimp only at second ends
  cases ends with
  | ok values => exact second _ _ rfl values
  | error failure => exact simulates_done (.error failure) g'

theorem Simulates.mono {same₂ : α → β → Prop} {result : Except Failure α × Replicated}
    (simulates : Simulates plain same g result) (weaker : ∀ a b, same a b → same₂ a b) :
    Simulates plain same₂ g result := by
  intro before
  obtain ⟨fates, answer, ends, runs⟩ := simulates before
  exact ⟨fates, answer, ends.mono weaker, runs⟩

theorem simulates_call {google : ReplicatedCalls} {plainly : Groups → Except HttpError β × Groups}
    {g' : Replicated}
    {outcome : Except Failure α} (fate : Fate) {answer : Except Failure β}
    (ends : SameEnd same outcome answer)
    (meets : ∀ fates n, fates n = fate →
      call (google.plain fates) plainly ⟨g.groups, n⟩ = (answer, ⟨g'.groups, n + 1⟩)) :
    Simulates (fun fates => call (google.plain fates) plainly) same g (outcome, g') := by
  intro before
  refine ⟨[fate], answer, ends, fun after => (meets _ _ (script_next before fate after)).trans ?_⟩
  rw [List.length_append]
  rfl

end

/-! ### Each call of the plain sequence -/

section
variable {α β : Type} {google : ReplicatedCalls} {email : Email} {b : GoogleGroupBuilder}
    {same : α → β → Prop} {g : Replicated}

theorem simulates_change {perform : Held → Except HttpError α × Held}
    {plainly : Groups → Except HttpError β × Groups}
    (leaves : ∀ h, (perform h).2.groups = (plainly h.groups).2)
    (ends : ∀ h, SameEnd same (perform h).1 (plainly h.groups).1) (g : Replicated) :
    Simulates (fun fates => call (google.plain fates) plainly) same g
      (raises (change google perform g)) := by
  unfold raises change
  cases google.fates g.calls with
  | none =>
    refine simulates_call .answered ((ends g.held).mapError Failure.http) ?_
    intro fates n met
    simp only [call, ReplicatedCalls.plain, met, groups_write, leaves]
    rfl
  | some struck =>
    obtain ⟨performed, error⟩ := struck
    refine simulates_call (.struck performed (.http error)) (.error _) ?_
    intro fates n met
    simp only [call, ReplicatedCalls.plain, met]
    cases performed with
    | true =>
      simp only [if_true, groups_write, leaves]
      rfl
    | false => rfl

theorem ask_ok {view : Replicated → Held} {read : Held → Except HttpError α} {a : α}
    (answered : (ask google view read g).1 = .ok a) : read (view g) = .ok a := by
  unfold ask at answered
  split at answered
  · exact answered
  · cases answered

/-- A read of a group that is there is answered, maybe from the past, or fails. -/
theorem simulates_ask {view : Replicated → Held} {read : Held → Except HttpError α}
    (there : ∀ a, read (view g) = .ok a → ∃ group, g.groups.get? email = some group) :
    Simulates (fun fates => call (google.plain fates) (getGroup email)) (fun _ _ => True) g
      (raises (ask google view read g)) := by
  have left : (ask google view read g).2.groups = g.groups := by rw [ask_snd, groups_called]
  have asked : ∀ a, (ask google view read g).1 = .ok a →
      ∃ group, g.groups.get? email = some group :=
    fun a answered => there a (ask_ok answered)
  revert left asked
  unfold raises
  rcases ask google view read g with ⟨error | a, g'⟩ <;> intro left asked
  · refine simulates_call (.struck false (.http error)) (.error _) ?_
    intro fates n met
    simp only [call, ReplicatedCalls.plain, met, left]
    rfl
  · obtain ⟨group, found⟩ := asked a rfl
    have ends : SameEnd (fun _ _ => True) (Except.ok a : Except Failure α) (.ok group) :=
      .ok trivial
    refine simulates_call .answered ends ?_
    intro fates n met
    simp only [call, ReplicatedCalls.plain, met, left, getGroup, found]
    rfl

theorem idOf_ok {h : Held} {id : Nat} (found : idOf email h = .ok id) :
    ∃ group, h.groups.get? email = some group := by
  unfold idOf getGroup at found
  split at found
  · exact ⟨_, ‹_›⟩
  · cases found

theorem simulates_rawGetId (email : Email) (g : Replicated) :
    Simulates (fun fates => call (google.plain fates) (getGroup email)) (fun _ _ => True) g
      (raises (rawGetId google email g)) :=
  simulates_ask fun _ found => idOf_ok found

theorem insertNew_groups (h : Held) :
    (insertNew google.freshSettings google.freshLabels b h).2.groups =
    (insertGroup (google.plain fun _ => .answered) b h.groups).2 := by
  unfold insertNew
  split <;> rename_i inserted <;> exact (congrArg Prod.snd inserted).symm

theorem insertNew_ends (h : Held) :
    SameEnd (fun _ _ => True) (insertNew google.freshSettings google.freshLabels b h).1
    (insertGroup (google.plain fun _ => .answered) b h.groups).1 := by
  unfold insertNew
  split <;> rename_i inserted
  · rw [show (insertGroup (google.plain fun _ => .answered) b h.groups).1 = .ok ()
      from congrArg Prod.fst inserted]
    exact .ok trivial
  · rw [show (insertGroup (google.plain fun _ => .answered) b h.groups).1 =
      .error _ from congrArg Prod.fst inserted]
    exact .error _

/-- A poll is one call that may fail, and changes nothing. -/
theorem simulates_poll {visible : Replicated → Except HttpError Bool × Replicated}
    (reads : ∀ groups g, g.groups = groups → (visible g).2.groups = groups) (g : Replicated) :
    Simulates (fun fates => Rosadmin.poll (google.plain fates)) Eq g (poll visible g) := by
  have left : (poll visible g).2.groups = g.groups :=
    (polling visible).attempts_keeps (fun h => h.groups = g.groups) (fun s here => reads _ s here)
      (fun _ _ here => here) rfl
  revert left
  rcases poll visible g with ⟨failure | ⟨⟩, g'⟩ <;> intro left
  · refine simulates_call (.struck false failure) (.error _) ?_
    intro fates n met
    simp only [call, ReplicatedCalls.plain, met, left]
    rfl
  · refine simulates_call .answered (.ok rfl) ?_
    intro fates n met
    simp only [call, ReplicatedCalls.plain, met, left]
    rfl

end

/-! ### The creation -/

section
variable {google : ReplicatedCalls} {email : Email} {b : GoogleGroupBuilder} {g : Replicated}

theorem ends_refl {ε α : Type} (x : Except ε α) : SameEnd Eq x x := by
  cases x with
  | ok => exact .ok rfl
  | error => exact .error _

theorem simulates_creationVisible (id : Nat) (g : Replicated) :
    Simulates (fun fates => Rosadmin.poll (google.plain fates)) Eq g
    (poll (creationVisible google email id) g) :=
  simulates_poll (fun groups _ here =>
    creationVisible_keeps (·.groups = groups) (fun _ still => still) here) g

theorem simulates_rawCreate (b : GoogleGroupBuilder) (g : Replicated) :
    Simulates (fun fates => Rosadmin.rawCreate (google.plain fates) b) (fun _ _ => True) g
      (rawCreate google b g) := by
  refine (simulates_change insertNew_groups insertNew_ends g).andThen fun id _ _ _ => ?_
  refine (simulates_creationVisible id _).followed (Foundation.andThen · fun _ g => (.ok id, g))
    (fun _ r => r) ?_
  intro answer
  rcases poll (creationVisible google b.email id) _ with ⟨outcome, g'⟩
  intro ends
  cases ends with
  | ok => exact simulates_done (.ok trivial) g'
  | error => exact simulates_done (.error _) g'

theorem simulates_rawConfigure (b : GoogleGroupBuilder) (id : Nat) (g : Replicated) :
    Simulates (fun fates => Rosadmin.rawConfigure (google.plain fates) b) Eq g
      (rawConfigure google b id g) := by
  refine (simulates_change (fun _ => rfl) (fun _ => ends_refl _) g).andThen fun _ _ _ _ => ?_
  refine (simulates_change (fun _ => rfl) (fun _ => ends_refl _) _).andThen fun _ _ _ _ => ?_
  exact simulates_poll (fun groups _ here =>
    settingsMatch_keeps (·.groups = groups) (fun _ still => still) here) _

theorem rawDelete_eq (calls : GoogleCalls) (email : Email) :
    Rosadmin.rawDelete calls email = fun g =>
    missingOk (Foundation.andThen (call calls (getGroup email) g) fun _ g =>
      Foundation.andThen (call calls (deleteGroup email) g) fun _ => Rosadmin.poll calls) := by
  funext g
  unfold Rosadmin.rawDelete missingOk
  dsimp only
  generalize (Foundation.andThen _ _ : Except Failure Unit × Google) = deleted
  rcases deleted with ⟨(_ | _) | _, _⟩ <;> rfl

theorem simulates_missingOk {outcome answer : Except Failure Unit}
    (ends : SameEnd Eq outcome answer) (g : Replicated) :
    Simulates (fun _ h => missingOk (answer, h)) Eq g (missingOk (outcome, g)) := by
  cases ends with
  | ok values => exact simulates_done (.ok values) g
  | error failure =>
    cases failure with
    | propagationTimeout => exact simulates_done (.error _) g
    | http error =>
      unfold missingOk
      dsimp only
      split
      · exact simulates_done (.ok rfl) g
      · exact simulates_done (.error _) g

theorem simulates_rawDelete (email : Email) (g : Replicated) :
    Simulates (fun fates => Rosadmin.rawDelete (google.plain fates) email) Eq g
      (rawDelete google email g) := by
  have deleted : Simulates (fun fates h =>
      Foundation.andThen (call (google.plain fates) (getGroup email) h) fun _ h =>
        Foundation.andThen (call (google.plain fates) (deleteGroup email) h) fun _ => Rosadmin.poll
          (google.plain fates)) Eq g
        (Foundation.andThen (raises (rawGetId google email g)) fun _ g =>
          Foundation.andThen (raises (change google (onGroups (deleteGroup email)) g)) fun _ => poll
            (groupGone google email)) := by
    refine (simulates_rawGetId email g).andThen fun _ _ _ _ => ?_
    refine (simulates_change (fun _ => rfl) (fun _ => ends_refl _) _).andThen fun _ _ _ _ => ?_
    exact simulates_poll (fun groups _ here =>
      groupGone_keeps (·.groups = groups) (fun _ still => still) here) _
  simp only [rawDelete_eq]
  exact deleted.followed missingOk (fun _ => missingOk) fun _ ends => simulates_missingOk ends _

theorem rawGetId_ok {id : Nat} (found : (raises (rawGetId google email g)).1 = .ok id) :
    ∃ group, g.groups.get? email = some group := by
  unfold raises at found
  cases answer : (rawGetId google email g).1 with
  | ok => exact idOf_ok (ask_ok answer)
  | error error =>
    rw [answer] at found
    cases found

theorem ask_groups {α : Type} (view : Replicated → Held) (read : Held → Except HttpError α)
    (g : Replicated) : (raises (ask google view read g)).2.groups = g.groups := by
  rw [raises, ask_snd, groups_called]

theorem simulates_rawFetch (email : Email) (g : Replicated) :
    Simulates (fun fates => Rosadmin.rawFetch (google.plain fates) email) (fun _ _ => True) g
      (rawFetch google email g) := by
  refine (simulates_rawGetId email g).andThen fun id _ found _ => ?_
  have kept : ∀ h : Replicated, h.groups = g.groups → ∃ group,
      h.groups.get? email = some group := by
    intro h same
    rw [same]
    exact rawGetId_ok found
  refine (simulates_ask fun _ _ => kept _ (ask_groups _ _ _)).andThen fun _ _ _ _ => ?_
  exact (simulates_ask fun _ _ => kept _ ((ask_groups _ _ _).trans (ask_groups _ _ _))).andThen
    fun _ _ _ _ => simulates_done (.ok trivial) _

/-- What is handed back is the same but for an adopted group, whose settings and labels a stale read
may show. -/
theorem simulates_afterCreate (b : GoogleGroupBuilder) {outcome : Except Failure Nat}
    {answer : Except Failure Unit} (ends : SameEnd (fun _ _ => True) outcome answer)
    (g : Replicated) :
    Simulates (fun fates => Rosadmin.afterCreate (google.plain fates) b answer)
      (fun a a' => b.existsBehavior ≠ .link → a = a') g (afterCreate google b outcome g) := by
  cases ends with
  | @ok id =>
    refine (simulates_rawConfigure b id g).andThen fun _ _ _ _ => ?_
    exact simulates_done (.ok fun _ => rfl) _
  | error failure =>
    cases failure with
    | propagationTimeout => exact simulates_done (.error _) g
    | http error =>
      unfold Rosadmin.afterCreate afterCreate
      dsimp only
      by_cases adopts : b.existsBehavior = .link ∧ error.statusCode = 409
      · simp only [if_pos adopts]
        exact (simulates_rawFetch b.email g).mono fun _ _ _ other => absurd adopts.1 other
      · simp only [if_neg adopts]
        exact simulates_done (.error _) g

theorem simulates_buildRemote (google : ReplicatedCalls) (b : GoogleGroupBuilder) (g : Replicated) :
    Simulates (fun fates => Rosadmin.buildRemote (google.plain fates) b) (fun a a' =>
      b.existsBehavior ≠ .link → a = a') g
      (buildRemote google b g) := by
  have cleared : Simulates (fun fates h =>
      if b.existsBehavior = .replace then Rosadmin.rawDelete (google.plain fates) b.email h
        else (.ok (), h)) Eq g (if b.existsBehavior = .replace then rawDelete google b.email g
          else (.ok (), g)) := by
    split
    · exact simulates_rawDelete b.email g
    · exact simulates_done (.ok rfl) g
  refine cleared.andThen fun _ _ _ _ => ?_
  exact (simulates_rawCreate b _).followed (fun r => afterCreate google b r.1 r.2)
    (fun fates r => Rosadmin.afterCreate (google.plain fates) b r.1 r.2) fun _ ends =>
      simulates_afterCreate b ends _

theorem andThen_made {α β : Type} {x : Except Failure α × Replicated}
    {rest : α → Replicated → Except Failure β × Replicated} {made : β}
    (ended : (Foundation.andThen x rest).1 = .ok made) :
    ∃ a, x.1 = .ok a ∧ (rest a x.2).1 = .ok made ∧
      (Foundation.andThen x rest).2 = (rest a x.2).2 := by
  rcases x with ⟨_ | a, s⟩
  · cases ended
  · exact ⟨a, rfl, ended, rfl⟩

theorem rawConfigure_seen {id : Nat} (configured : (rawConfigure google b id g).1 = .ok ()) :
    ∃ s, settingsMatch google b id s = (.ok true, (rawConfigure google b id g).2) := by
  unfold rawConfigure at configured ⊢
  obtain ⟨-, -, configured, left⟩ := andThen_made configured
  obtain ⟨-, -, configured, left'⟩ := andThen_made configured
  rw [left, left']
  obtain ⟨s, -, seen⟩ := poll_shown (fun _ => True) (fun t _ here =>
    settingsMatch_keeps (t ≤ ·.clock) (called_clock google) here)
    (fun _ _ => trivial) (fun _ _ _ => trivial) trivial configured
  exact ⟨s, seen⟩

theorem rawFetch_there {made : ProvisionedGroup} (ended : (rawFetch google email g).1 = .ok made) :
    ∃ group, (rawFetch google email g).2.groups.get? email = some group := by
  unfold rawFetch at ended ⊢
  obtain ⟨id, found, ended, left⟩ := andThen_made ended
  obtain ⟨_, -, ended, left'⟩ := andThen_made ended
  obtain ⟨_, -, -, left''⟩ := andThen_made ended
  have same : (rawFetch google email g).2.groups = g.groups := by
    unfold rawFetch
    rw [left, left', left'']
    exact (ask_groups _ _ _).trans ((ask_groups _ _ _).trans (ask_groups _ _ _))
  unfold rawFetch at same
  rw [same]
  exact rawGetId_ok found

/-- A group is handed back as it was asked for once both services were last seen to show it so, or
is adopted. -/
theorem buildRemote_seen {made : ProvisionedGroup} (ended : (buildRemote google b g).1 = .ok made) :
    (b.existsBehavior = .link ∧ ∃ group, (buildRemote google b g).2.groups.get? b.email =
      some group) ∨
      made = ⟨b.settings, b.labels⟩ ∧ ∃ id s,
        settingsMatch google b id s = (.ok true, (buildRemote google b g).2) := by
  unfold buildRemote at ended ⊢
  obtain ⟨-, -, ended, left⟩ := andThen_made ended
  rw [left]
  revert ended
  dsimp only
  rcases rawCreate google b _ with ⟨(error | _) | id, s⟩ <;> intro ended
  · unfold afterCreate at ended ⊢
    dsimp only at ended ⊢
    split at ended
    · rename_i adopts
      rw [if_pos adopts]
      exact Or.inl ⟨adopts.1, rawFetch_there ended⟩
    · cases ended
  · cases ended
  · obtain ⟨_, configured, ended, left⟩ := andThen_made ended
    refine Or.inr ⟨(Except.ok.inj ended).symm, id, ?_⟩
    rw [afterCreate, left]
    exact rawConfigure_seen configured

/-- However the two services lag and whatever strikes, a creation that polls leaves the directory as
some run of the plain sequence of calls does, and ends as it does. A group it configured was last
seen as it was asked for, and it gives up waiting after a minute at the earliest. -/
theorem creation_as_plain (google : ReplicatedCalls) (b : GoogleGroupBuilder) (g : Replicated) :
    (∃ fates, (Rosadmin.buildRemote (google.plain fates) b ⟨g.groups, 0⟩).2.groups =
      (buildRemote google b g).2.groups ∧
      SameEnd (fun a a' => b.existsBehavior ≠ .link → a = a') (buildRemote google b g).1
        (Rosadmin.buildRemote (google.plain fates) b ⟨g.groups, 0⟩).1) ∧
    (∀ made, (buildRemote google b g).1 = .ok made →
      (b.existsBehavior = .link ∧ ∃ group, (buildRemote google b g).2.groups.get? b.email =
        some group) ∨
        made = ⟨b.settings, b.labels⟩ ∧ ∃ id s,
          settingsMatch google b id s = (.ok true, (buildRemote google b g).2)) ∧
    ((buildRemote google b g).1 = .error .propagationTimeout →
      g.clock + 60000 ≤ (buildRemote google b g).2.clock) := by
  refine ⟨?_, fun _ ended => buildRemote_seen ended, (buildRemote_punctual b g).late⟩
  obtain ⟨fates, answer, ends, runs⟩ := simulates_buildRemote google b g []
  have met := runs []
  refine ⟨_, congrArg (fun r => r.2.groups) met, ?_⟩
  rw [show (Rosadmin.buildRemote _ b ⟨g.groups, 0⟩).1 = answer from congrArg Prod.fst met]
  exact ends

end

end Rosadmin.Propagation
