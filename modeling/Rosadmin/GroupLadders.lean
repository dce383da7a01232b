import Rosadmin.Foundation.Fallible
import Rosadmin.Foundation.Ladders
import Rosadmin.GroupAddresses

/-!
# The two shortening ladders

The addresses and the labels each come down three rungs. No rung is longer than
the one before it, so the last one decides a refusal and the first that fits is
the longest that does. The two kinds share no address.
-/

namespace Rosadmin
open Foundation

/-- A ladder whose rungs never lengthen, which refuses exactly when its last rung is over the cap
and otherwise takes the longest that is not. -/
structure Tight (cap : Nat) (form : Rung → Str) (whole : Str → Str) (tooLong : GroupNameTooLong)
    (minted : Except GroupNameTooLong Str) : Prop where
  descending : Descending (fun rung => (form rung).length) Rung.all
  refused : minted = .error tooLong ↔ cap < (form .initialed).length
  taken : (form .initialed).length ≤ cap →
    ∃ rung, Longest (fun rung => (form rung).length) cap Rung.all rung ∧
      minted = .ok (whole (form rung))

namespace Tight

variable {cap : Nat} {form : Rung → Str} {whole : Str → Str} {tooLong : GroupNameTooLong}
  {minted : Except GroupNameTooLong Str}

theorem of_find? (descending : Descending (fun rung => (form rung).length) Rung.all)
    (outcome : minted =
      (Rung.all.find? fun rung => (form rung).length ≤ cap).elim (.error tooLong)
        (fun rung => .ok (whole (form rung)))) :
    Tight cap form whole tooLong minted := by
  have last : Rung.all.find? (fun rung => (form rung).length ≤ cap) = none ↔
      cap < (form .initialed).length :=
    @Descending.none_iff _ _ _ [Rung.spelled, .typeInitialed] _ descending
  cases found : Rung.all.find? (fun rung => (form rung).length ≤ cap) with
  | none =>
    rw [found] at outcome
    have long := last.mp found
    exact ⟨descending, iff_of_true outcome long, fun fits => absurd fits (Nat.not_le_of_lt long)⟩
  | some rung =>
    rw [found] at outcome
    have fits : ¬cap < (form .initialed).length :=
      fun long => nomatch found.symm.trans (last.mpr long)
    have refused : minted ≠ .error tooLong := by
      rw [outcome]
      exact ok_ne_error
    exact ⟨descending, iff_of_false refused fits, fun _ =>
      ⟨rung, descending.longest found, outcome⟩⟩

end Tight

/-! ### The addresses -/

theorem length_slugShort_slugify (text : Str) :
    (slugShort (slugify text)).length ≤ (slugify text).length := by
  rw [slugShort_slugify]
  calc ((slugWords text).filterMap (·.head?)).length
      ≤ (slugWords text).length := List.length_filterMap_le _ _
    _ ≤ (slugify text).length := length_le_join (str "-") fun _ member => (mem_slugWords member).1

theorem localPart_descending (bodyName bodyType : Str) (kind : GroupKind) :
    Descending (fun rung => (Rung.localPart bodyName bodyType kind rung).length) Rung.all := by
  have names := length_slugShort_slugify bodyName
  have types := length_slugShort_slugify bodyType
  simp only [Descending, Rung.all, Rung.localPart, Rung.namePart, Rung.typePart, List.length_append,
    List.pairwise_cons, List.forall_mem_cons]
  simp
  omega

theorem googleGroupEmail_tight (bodyName bodyType : Str) (kind : GroupKind) (domain : Str) :
    Tight emailLocalCap (Rung.localPart bodyName bodyType kind) (· ++ str "@" ++ domain)
      (.emailLocalPart bodyName)
      (googleGroupEmail bodyName bodyType kind domain) := by
  refine .of_find? (localPart_descending bodyName bodyType kind) ?_
  rw [googleGroupEmail, googleGroupLocal_eq, emailRung]
  cases Rung.all.find? (fun rung => (Rung.localPart bodyName bodyType kind rung).length ≤
    emailLocalCap) <;> rfl

/-! ### The labels -/

section
variable (bodyName bodyType : Str) (kind : GroupKind)

def Rung.shown : Rung → Str
  | spelled => titlecase bodyName ++ str " " ++ bodyType
  | typeInitialed => titlecase bodyName ++ str " " ++ labelInitials bodyType
  | initialed => labelInitials bodyName ++ labelInitials bodyType

def Rung.label (rung : Rung) : Str := rung.shown bodyName bodyType ++ str " " ++ kind.displayWord

/-- The rung the label is taken from. -/
def labelRung : Option Rung := Rung.all.find? fun rung =>
    (rung.label bodyName bodyType kind).length ≤ displayNameCap

theorem googleGroupName_eq : googleGroupName bodyName bodyType kind =
    (labelRung bodyName bodyType kind).elim (.error (.displayName bodyName))
      (fun rung => .ok (rung.label bodyName bodyType kind)) := by
  have rungs : firstFitting displayNameCap (Rung.all.map (Rung.label bodyName bodyType kind)) =
      (labelRung bodyName bodyType kind).map (Rung.label bodyName bodyType kind) := List.find?_map
  simp only [Rung.all, List.map_cons, List.map_nil, Rung.label, Rung.shown] at rungs
  unfold googleGroupName
  dsimp only
  rw [rungs]
  cases labelRung bodyName bodyType kind <;> rfl

end

theorem length_labelInitials (text : Str) :
    (labelInitials text).length ≤ (titlecase text).length + 1 := by
  refine length_flatMap_le_join 0x20 (fun word => ?_) (words text)
  cases word with
  | nil => exact Nat.zero_le _
  | cons c rest =>
    dsimp only
    split
    · cases lower : isLowerChar c with
      | true =>
        rw [titleWord, if_pos lower, List.length_append]
        omega
      | false =>
        have raised := length_upperChar lower
        rw [titleWord, if_neg (by simp [lower]), List.length_cons]
        omega
    · exact Nat.zero_le _

theorem label_descending (bodyName : Str) (bodyType : BodyType) (kind : GroupKind) :
    Descending (fun rung => (Rung.label bodyName bodyType.value kind rung).length) Rung.all := by
  have names := length_labelInitials bodyName
  have types : (labelInitials bodyType.value).length ≤ bodyType.value.length := by
    cases bodyType <;> decide +kernel
  have space : (str " ").length = 1 := rfl
  simp only [Descending, Rung.all, Rung.label, Rung.shown, List.length_append, List.pairwise_cons,
    List.forall_mem_cons, space]
  simp
  omega

theorem googleGroupName_tight (bodyName : Str) (bodyType : BodyType) (kind : GroupKind) :
    Tight displayNameCap (Rung.label bodyName bodyType.value kind) id (.displayName bodyName)
      (googleGroupName bodyName bodyType.value kind) :=
  .of_find? (label_descending bodyName bodyType kind)
    (googleGroupName_eq bodyName bodyType.value kind)

/-! ### The two kinds -/

theorem localPart_letters (bodyName : Str) (bodyType : BodyType) (kind : GroupKind) (rung : Rung) :
    ∀ c ∈ rung.localPart bodyName bodyType.value kind, slugLetter c = true ∨ c = 0x2d := by
  have rest := ((typePart_slug bodyType rung).append (emailSuffix_slug kind)).letters
  rw [localPart_eq]
  refine List.forall_mem_append.mpr ⟨?_, List.forall_mem_cons.mpr ⟨Or.inr rfl, rest⟩⟩
  by_cases sluggable : Sluggable bodyName
  · exact (namePart_slug sluggable rung).letters
  · have empty : rung.namePart bodyName = [] := by
      cases rung <;> simp [Rung.namePart, slugify_nil sluggable, slugShort]
    rw [empty]
    exact fun _ none => absurd none List.not_mem_nil

theorem lastWord_localPart (bodyName bodyType : Str) (kind : GroupKind) (rung : Rung) :
    lastWord (rung.localPart bodyName bodyType kind) = kind.emailSuffix.reverse := by
  rw [localPart_eq, lastWord_append, lastWord_append]
  cases kind <;> decide

theorem takeWhile_address {local_ : Str} (domain : Str)
    (letters : ∀ c ∈ local_, slugLetter c = true ∨ c = 0x2d) :
    (local_ ++ (str "@" ++ domain)).takeWhile (· ≠ 0x40) = local_ := by
  have plain : ∀ c ∈ local_, decide (c ≠ 0x40) = true := by
    intro c member
    refine decide_eq_true fun sign => ?_
    rw [sign] at member
    exact absurd (letters _ member) (by decide)
  rw [List.takeWhile_append_of_pos plain]
  exact List.append_nil _

/-- Both ladders are tight, and no leaders address is an editors address. -/
theorem ladders_tight (bodyName : Str) (bodyType : BodyType) (kind : GroupKind) (domain : Str) :
    Tight emailLocalCap (Rung.localPart bodyName bodyType.value kind) (· ++ str "@" ++ domain)
      (.emailLocalPart bodyName)
      (googleGroupEmail bodyName bodyType.value kind domain) ∧
    Tight displayNameCap (Rung.label bodyName bodyType.value kind) id (.displayName bodyName)
      (googleGroupName bodyName bodyType.value kind) ∧
    ∀ bodyName' bodyType' domain',
      ¬∃ address, googleGroupEmail bodyName bodyType.value .leaders domain = .ok address ∧
        googleGroupEmail bodyName' (BodyType.value bodyType') .editors domain' = .ok address := by
  refine ⟨googleGroupEmail_tight .., googleGroupName_tight .., ?_⟩
  rintro bodyName' bodyType' domain' ⟨address, leaders, editors⟩
  obtain ⟨rung, -, same⟩ := googleGroupEmail_ok.mp leaders
  obtain ⟨rung', -, same'⟩ := googleGroupEmail_ok.mp editors
  have locals := congrArg (List.takeWhile (· ≠ 0x40)) (same.trans same'.symm)
  rw [takeWhile_address domain (localPart_letters _ _ _ _),
    takeWhile_address domain' (localPart_letters _ _ _ _)] at locals
  have kinds := congrArg lastWord locals
  rw [lastWord_localPart, lastWord_localPart] at kinds
  exact absurd kinds (by decide)

end Rosadmin
