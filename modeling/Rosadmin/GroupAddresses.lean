import Rosadmin.Foundation.Slugs
import Rosadmin.GroupNaming
import Rosadmin.Membership.Source

/-!
# The addresses a body's groups are minted under

The local part as one of three rungs, each a name part, a type part and the kind
under dashes. Which names make a well-formed part, and which bodies come out
under one address.
-/

namespace Rosadmin
open Foundation

/-! ### The slug of a name -/

def slugWords (text : Str) : List Str := words ((lower text).filter slugChar)

/-- A letter or a digit survives the slug. -/
def Sluggable (text : Str) : Prop := ∃ c ∈ lower text, slugLetter c = true

theorem slugChar_eq (c : Nat) : slugChar c = (slugLetter c || isSpace c) := rfl

theorem slugLetter_lt {c : Nat} (letter : slugLetter c = true) : c < 0x80 := by
  simp only [slugLetter, Bool.or_eq_true, Bool.and_eq_true, Nat.ble_eq] at letter
  omega

theorem isSpace_of_slugLetter {c : Nat} (letter : slugLetter c = true) : isSpace c = false := by
  have ascii : ∀ c < 0x80, slugLetter c = true → isSpace c = false := by decide
  exact ascii c (slugLetter_lt letter) letter

theorem mem_slugWords {text word : Str} (member : word ∈ slugWords text) :
    word ≠ [] ∧ ∀ c ∈ word, slugLetter c = true := by
  obtain ⟨filled, letters⟩ := mem_words member
  refine ⟨filled, fun c inside => ?_⟩
  obtain ⟨kept, letter⟩ := letters c inside
  have slugged := (List.mem_filter.mp kept).2
  rw [slugChar_eq, letter, Bool.or_false] at slugged
  exact slugged

theorem slugWords_ne_nil {text : Str} : slugWords text ≠ [] ↔ Sluggable text := by
  rw [slugWords, ne_eq, words_eq_nil]
  constructor
  · intro some_
    push Not at some_
    obtain ⟨c, kept, letter⟩ := some_
    obtain ⟨inside, slugged⟩ := List.mem_filter.mp kept
    rw [slugChar_eq, eq_false_of_ne_true letter, Bool.or_false] at slugged
    exact ⟨c, inside, slugged⟩
  · rintro ⟨c, inside, letter⟩ all
    have kept : c ∈ (lower text).filter slugChar :=
      List.mem_filter.mpr ⟨inside, by rw [slugChar_eq, letter]; rfl⟩
    have space := all c kept
    rw [isSpace_of_slugLetter letter] at space
    cases space

theorem slugify_slug {text : Str} (sluggable : Sluggable text) : Slug (slugify text) :=
  .of_join (slugWords_ne_nil.mpr sluggable) (fun _ member => mem_slugWords member)

theorem slugify_nil {text : Str} (none : ¬Sluggable text) : slugify text = [] := by
  have noWords : slugWords text = [] := by
    by_contra some_
    exact none (slugWords_ne_nil.mp some_)
  show join (str "-") (slugWords text) = []
  rw [noWords]
  rfl

theorem slugShort_slugify (text : Str) :
    slugShort (slugify text) = (slugWords text).filterMap (·.head?) := by
  by_cases some_ : slugWords text = []
  · rw [some_, slugify_nil (fun sluggable => slugWords_ne_nil.mpr sluggable some_)]
    rfl
  · have undashed : ∀ word ∈ slugWords text, 0x2d ∉ word := by
      intro word member dashed
      exact absurd ((mem_slugWords member).2 _ dashed) (by decide)
    show (List.splitOn 0x2d ([0x2d].intercalate (slugWords text))).filterMap (·.head?) = _
    rw [List.splitOn_intercalate 0x2d undashed some_]

theorem slugShort_letters (text : Str) : ∀ c ∈ slugShort (slugify text), slugLetter c = true := by
  rw [slugShort_slugify]
  intro c member
  obtain ⟨word, inside, first⟩ := List.mem_filterMap.mp member
  exact (mem_slugWords inside).2 c (List.mem_of_head? first)

theorem slugShort_slug {text : Str} (sluggable : Sluggable text) :
    Slug (slugShort (slugify text)) := by
  refine .of_letters ?_ (slugShort_letters text)
  rw [slugShort_slugify]
  cases named : slugWords text with
  | nil => exact absurd named (slugWords_ne_nil.mpr sluggable)
  | cons word rest =>
    obtain ⟨c, letters, filled⟩ :=
      List.exists_cons_of_ne_nil (mem_slugWords (named ▸ List.mem_cons_self)).1
    rw [filled]
    exact List.cons_ne_nil _ _

/-! ### The rungs -/

inductive Rung where
  | spelled | typeInitialed | initialed
  deriving DecidableEq, Repr

namespace Rung

/-- In the order they are tried. -/
def all : List Rung := [spelled, typeInitialed, initialed]

def namePart (bodyName : Str) : Rung → Str
  | initialed => slugShort (slugify bodyName)
  | _ => slugify bodyName

def typePart (bodyType : Str) : Rung → Str
  | spelled => slugify bodyType
  | _ => slugShort (slugify bodyType)

def localPart (bodyName bodyType : Str) (kind : GroupKind) (rung : Rung) : Str :=
  rung.namePart bodyName ++ str "-" ++ rung.typePart bodyType ++ str "-" ++ kind.emailSuffix

end Rung

section
variable (bodyName bodyType : Str) (kind : GroupKind)

/-- The rung the local part is taken from. -/
def emailRung : Option Rung :=
  Rung.all.find? fun rung => (rung.localPart bodyName bodyType kind).length ≤ emailLocalCap

theorem googleGroupLocal_eq : googleGroupLocal bodyName bodyType kind =
    match emailRung bodyName bodyType kind with
    | some rung => .ok (rung.localPart bodyName bodyType kind)
    | none => .error (.emailLocalPart bodyName) := by
  have rungs : firstFitting emailLocalCap
      (Rung.all.map (Rung.localPart bodyName bodyType kind)) =
      (emailRung bodyName bodyType kind).map (Rung.localPart bodyName bodyType kind) :=
        List.find?_map
  simp only [Rung.all, List.map_cons, List.map_nil, Rung.localPart, Rung.namePart,
    Rung.typePart] at rungs
  unfold googleGroupLocal
  dsimp only
  rw [rungs]
  cases emailRung bodyName bodyType kind <;> rfl

end

/-! ### What a type part is -/

/-- The slug of a body type, which is all its part is spelled from. -/
def BodyType.slug : BodyType → Str
  | committee => str "committee"
  | workingGroup => str "working-group"
  | branch => str "branch"
  | campaign => str "campaign"
  | misc => str "misc"

theorem slugify_value (bodyType : BodyType) : slugify bodyType.value = bodyType.slug := by
  cases bodyType <;> decide +kernel

theorem typePart_value (bodyType : BodyType) (rung : Rung) : rung.typePart bodyType.value =
    if rung = .spelled then bodyType.slug else slugShort bodyType.slug := by
  cases rung <;> simp [Rung.typePart, slugify_value]

theorem typePart_slug (bodyType : BodyType) (rung : Rung) :
    Slug (rung.typePart bodyType.value) := by
  have sluggable : Sluggable bodyType.value := by
    refine slugWords_ne_nil.mp fun none => ?_
    have empty : bodyType.slug = [] := by
      rw [← slugify_value]
      show join (str "-") (slugWords bodyType.value) = []
      rw [none]
      rfl
    cases bodyType <;> cases empty
  cases rung with
  | spelled => exact slugify_slug sluggable
  | typeInitialed => exact slugShort_slug sluggable
  | initialed => exact slugShort_slug sluggable

/-! ### An address Google can hold -/

theorem emailSuffix_slug (kind : GroupKind) : Slug kind.emailSuffix := by
  cases kind
  · exact .of_letters (by decide) (by decide)
  · exact .of_letters (by decide) (by decide)

theorem namePart_slug {bodyName : Str} (sluggable : Sluggable bodyName) (rung : Rung) :
    Slug (rung.namePart bodyName) := by
  cases rung with
  | spelled => exact slugify_slug sluggable
  | typeInitialed => exact slugify_slug sluggable
  | initialed => exact slugShort_slug sluggable

theorem localPart_eq (bodyName bodyType : Str) (kind : GroupKind) (rung : Rung) :
    rung.localPart bodyName bodyType kind =
      rung.namePart bodyName ++ 0x2d :: (rung.typePart bodyType ++ 0x2d :: kind.emailSuffix) := by
  simp [Rung.localPart, str]

/-- What a local part that is made at all has to be. -/
def Holdable (kind : GroupKind) (minted : Except GroupNameTooLong Str) : Prop :=
  ∀ local_, minted = .ok local_ →
    local_.length ≤ 64 ∧ Slug local_ ∧ endsWith local_ (str "-" ++ kind.emailSuffix) = true

section
variable {bodyName bodyType : Str} {kind : GroupKind}

theorem googleGroupLocal_ok {local_ : Str} : googleGroupLocal bodyName bodyType kind = .ok local_ ↔
    ∃ rung, emailRung bodyName bodyType kind = some rung ∧
      rung.localPart bodyName bodyType kind = local_ := by
  rw [googleGroupLocal_eq]
  cases emailRung bodyName bodyType kind with
  | none => simp
  | some rung => simp

theorem googleGroupEmail_ok {domain address : Str} :
    googleGroupEmail bodyName bodyType kind domain = .ok address ↔
    ∃ rung, emailRung bodyName bodyType kind = some rung ∧
      rung.localPart bodyName bodyType kind ++ (str "@" ++ domain) = address := by
  rw [googleGroupEmail, googleGroupLocal_eq]
  cases emailRung bodyName bodyType kind with
  | none => simp [Except.map]
  | some rung => simp [Except.map]

theorem emailRung_fits {rung : Rung} (taken : emailRung bodyName bodyType kind = some rung) :
    (rung.localPart bodyName bodyType kind).length ≤ 64 := by
  have fits := List.find?_some taken
  exact of_decide_eq_true fits

end

/-- A local part is one Google can hold exactly when something of the name survives its slug. -/
theorem holdable_iff (bodyName : Str) (bodyType : BodyType) (kind : GroupKind) :
    Holdable kind (googleGroupLocal bodyName bodyType.value kind) ↔ Sluggable bodyName := by
  constructor
  · intro holdable
    by_contra none
    have empty : Rung.spelled.namePart bodyName = [] := slugify_nil none
    -- without a name every rung starts with the dash, and the first one fits
    have taken : emailRung bodyName bodyType.value kind = some .spelled := by
      refine List.find?_cons_of_pos ?_
      rw [localPart_eq, typePart_value, if_pos rfl, empty]
      cases bodyType <;> cases kind <;> decide
    obtain ⟨-, slug, -⟩ := holdable _ (googleGroupLocal_ok.mpr ⟨_, taken, rfl⟩)
    rw [localPart_eq, empty] at slug
    exact not_slug_dash _ slug
  · intro sluggable local_ minted
    obtain ⟨rung, taken, rfl⟩ := googleGroupLocal_ok.mp minted
    refine ⟨emailRung_fits taken, ?_, ?_⟩
    · rw [localPart_eq]
      exact (namePart_slug sluggable rung).append
        ((typePart_slug bodyType rung).append (emailSuffix_slug kind))
    · refine List.isSuffixOf_iff_suffix.mpr ⟨rung.namePart bodyName ++ str "-" ++
        rung.typePart bodyType.value, ?_⟩
      simp [Rung.localPart]

/-- A name in another script leaves nothing before the dash. -/
theorem unsluggable_minted :
    ¬Holdable .leaders (googleGroupLocal (str "日本") BodyType.committee.value .leaders) := by
  intro holdable
  have minted : googleGroupLocal (str "日本") BodyType.committee.value .leaders =
      .ok (0x2d :: str "committee-leaders") := by
    decide +kernel
  exact not_slug_dash _ (holdable _ minted).2.1

/-! ### Bodies that share an address -/

/-- The two type parts are one: the same type both times spelled or both times initialed, or
Committee and Campaign, whose initial is the same. -/
def TypesAlike (bodyType : BodyType) (rung : Rung) (bodyType' : BodyType) (rung' : Rung) : Prop :=
  (bodyType = bodyType' ∧ (rung = .spelled ↔ rung' = .spelled)) ∨
    (rung ≠ .spelled ∧ rung' ≠ .spelled ∧ bodyType ∈ [BodyType.committee, .campaign] ∧
      bodyType' ∈ [BodyType.committee, .campaign])

instance (bodyType : BodyType) (rung : Rung) (bodyType' : BodyType) (rung' : Rung) :
    Decidable (TypesAlike bodyType rung bodyType' rung') :=
  inferInstanceAs (Decidable ((bodyType = bodyType' ∧ (rung = .spelled ↔ rung' = .spelled)) ∨
    (rung ≠ .spelled ∧ rung' ≠ .spelled ∧ bodyType ∈ [BodyType.committee, .campaign] ∧
      bodyType' ∈ [BodyType.committee, .campaign])))

theorem typePart_eq_iff {bodyType bodyType' : BodyType} {rung rung' : Rung} :
    rung.typePart bodyType.value = rung'.typePart bodyType'.value ↔
      TypesAlike bodyType rung bodyType' rung' := by
  rw [typePart_value, typePart_value]
  cases rung <;> cases rung' <;> cases bodyType <;> cases bodyType' <;> decide

/-- What follows the last dash. -/
def lastWord (s : Str) : Str := s.reverse.takeWhile (· ≠ 0x2d)

theorem lastWord_append (s t : Str) : lastWord (s ++ 0x2d :: t) = lastWord t := by
  have stops : ∀ front back : Str, (front ++ 0x2d :: back).takeWhile (· ≠ 0x2d) =
      front.takeWhile (· ≠ 0x2d) := by
    intro front back
    induction front with
    | nil => rfl
    | cons c front ih =>
      rw [List.cons_append, List.takeWhile_cons, List.takeWhile_cons, ih]
  rw [lastWord, List.reverse_append, List.reverse_cons, List.append_assoc]
  exact stops _ _

theorem lastWord_typePart {bodyType bodyType' : BodyType} {rung rung' : Rung}
    (same : lastWord (rung.typePart bodyType.value) = lastWord (rung'.typePart bodyType'.value)) :
    rung.typePart bodyType.value = rung'.typePart bodyType'.value := by
  rw [typePart_value, typePart_value] at same ⊢
  revert same
  cases rung <;> cases rung' <;> cases bodyType <;> cases bodyType' <;> decide

theorem localPart_eq_iff {bodyName bodyName' : Str} {bodyType bodyType' : BodyType}
    {kind : GroupKind} {rung rung' : Rung} :
    rung.localPart bodyName bodyType.value kind = rung'.localPart bodyName' bodyType'.value kind ↔
      rung.namePart bodyName = rung'.namePart bodyName' ∧
        TypesAlike bodyType rung bodyType' rung' := by
  rw [localPart_eq, localPart_eq, ← typePart_eq_iff]
  constructor
  · intro same
    rw [← List.cons_append, ← List.append_assoc, ← List.cons_append, ← List.append_assoc] at same
    have front := List.append_cancel_right same
    have types : rung.typePart bodyType.value = rung'.typePart bodyType'.value := by
      apply lastWord_typePart
      rw [← lastWord_append, front, lastWord_append]
    rw [types] at front
    exact ⟨List.append_cancel_right front, types⟩
  · rintro ⟨names, types⟩
    rw [names, types]

/-- Two bodies come out under one address exactly when both parts of their rungs are one. -/
theorem same_address_iff {bodyName bodyName' : Str} {bodyType bodyType' : BodyType}
    {kind : GroupKind} {domain address address' : Str}
    (minted : googleGroupEmail bodyName bodyType.value kind domain = .ok address)
    (minted' : googleGroupEmail bodyName' bodyType'.value kind domain = .ok address') :
    address = address' ↔
      ∃ rung ∈ emailRung bodyName bodyType.value kind,
        ∃ rung' ∈ emailRung bodyName' bodyType'.value kind,
        rung.namePart bodyName = rung'.namePart bodyName' ∧
          TypesAlike bodyType rung bodyType' rung' := by
  obtain ⟨rung, taken, rfl⟩ := googleGroupEmail_ok.mp minted
  obtain ⟨rung', taken', rfl⟩ := googleGroupEmail_ok.mp minted'
  rw [List.append_left_inj, localPart_eq_iff, taken, taken']
  simp

theorem same_address_iff_climate :
    ∃ rung ∈ emailRung (str "Climate!") BodyType.committee.value .leaders,
      ∃ rung' ∈ emailRung (str "Climate") BodyType.committee.value .leaders,
        rung.namePart (str "Climate!") = rung'.namePart (str "Climate") ∧
          TypesAlike .committee rung .committee rung' := by
  have minted : ∀ bodyName ∈ [str "Climate!", str "Climate"],
      googleGroupEmail bodyName BodyType.committee.value .leaders (str "example.com") =
        .ok (str "climate-committee-leaders@example.com") := by
    decide +kernel
  exact (same_address_iff (minted _ (by decide)) (minted _ (by decide))).mp rfl

/-- Punctuation is all that tells the two names apart. -/
theorem punctuation_shares_address :
    str "Climate!" ≠ str "Climate" ∧
      ∃ address, googleGroupEmail (str "Climate!") BodyType.committee.value .leaders
        (str "example.com") = .ok address ∧
        googleGroupEmail (str "Climate") BodyType.committee.value .leaders (str "example.com") =
          .ok address :=
  ⟨by decide, str "climate-committee-leaders@example.com", by decide +kernel, by decide +kernel⟩

end Rosadmin
