import Rosadmin.Foundation.Words

/-!
# Slugs

Words of ASCII lowercase letters and digits under single dashes, and what
`str.split` and `str.join` make of a text on the way to one.
-/

namespace Foundation

/-! ### The words of a text -/

theorem wordsFrom_words {holds : Nat → Prop} {current s : Str} (before : ∀ c ∈ current, holds c)
    (after : ∀ c ∈ s, isSpace c = false → holds c) :
    ∀ word ∈ wordsFrom current s, word ≠ [] ∧ ∀ c ∈ word, holds c := by
  have closed : ∀ letters : Str, (∀ c ∈ letters, holds c) → ∀ {c}, c ∈ letters.reverse → holds c :=
    fun letters all c member => all c (List.mem_reverse.mp member)
  induction s generalizing current with
  | nil =>
    intro word member
    unfold wordsFrom at member
    cases current with
    | nil => cases member
    | cons c current =>
      rw [List.mem_singleton.mp member]
      exact ⟨by simp, fun d inside => closed _ before inside⟩
  | cons c s ih =>
    have rest : ∀ d ∈ s, isSpace d = false → holds d :=
      fun d member => after d (List.mem_cons_of_mem _ member)
    have fresh := @ih [] (fun d none => absurd none List.not_mem_nil) rest
    intro word member
    unfold wordsFrom at member
    cases space : isSpace c with
    | true =>
      rw [if_pos space] at member
      cases current with
      | nil => exact fresh word member
      | cons d current =>
        rcases List.mem_cons.mp member with rfl | later
        · exact ⟨by simp, fun d inside => closed _ before inside⟩
        · exact fresh word later
    | false =>
      rw [if_neg (by simp [space])] at member
      exact ih (List.forall_mem_cons.mpr ⟨after c List.mem_cons_self space, before⟩) rest
        word member

theorem mem_words {s word : Str} (member : word ∈ words s) :
    word ≠ [] ∧ ∀ c ∈ word, c ∈ s ∧ isSpace c = false :=
  wordsFrom_words (fun _ none => absurd none List.not_mem_nil)
    (fun _ inside letter => ⟨inside, letter⟩) word member

theorem wordsFrom_eq_nil {current s : Str} : wordsFrom current s = [] ↔
    current = [] ∧ ∀ c ∈ s, isSpace c = true := by
  induction s generalizing current with
  | nil => cases current <;> simp [wordsFrom]
  | cons c s ih =>
    unfold wordsFrom
    cases space : isSpace c with
    | true =>
      cases current with
      | nil => simp [ih, space]
      | cons d current => simp
    | false => simp [ih, space]

theorem words_eq_nil {s : Str} : words s = [] ↔ ∀ c ∈ s, isSpace c = true := by
  rw [words, wordsFrom_eq_nil, and_iff_right rfl]

/-! ### How long a join is -/

theorem join_cons_cons (separator p q : Str) (parts : List Str) :
    join separator (p :: q :: parts) = p ++ separator ++ join separator (q :: parts) :=
  List.intercalate_cons_cons

theorem length_le_join (separator : Str) {parts : List Str} (filled : ∀ p ∈ parts, p ≠ []) :
    parts.length ≤ (join separator parts).length := by
  induction parts with
  | nil => exact Nat.zero_le _
  | cons p parts ih =>
    obtain ⟨some_, rest⟩ := List.forall_mem_cons.mp filled
    have here := List.length_pos_of_ne_nil some_
    cases parts with
    | nil =>
      rw [join, List.intercalate_singleton]
      exact here
    | cons q parts =>
      have later := ih rest
      rw [join_cons_cons, List.length_append, List.length_append, List.length_cons]
      omega

/-- A part may give one character more than it takes up itself: its separator makes up for it. -/
theorem length_flatMap_le_join (c : Nat) {f g : Str → Str}
    (each : ∀ p, (f p).length ≤ (g p).length + 1) (parts : List Str) :
    (parts.flatMap f).length ≤ (join [c] (parts.map g)).length + 1 := by
  induction parts with
  | nil => exact Nat.zero_le _
  | cons p parts ih =>
    have here := each p
    rw [List.flatMap_cons, List.length_append]
    cases parts with
    | nil =>
      rw [List.map_singleton, join, List.intercalate_singleton]
      exact here
    | cons q parts =>
      rw [List.map_cons, List.map_cons, join_cons_cons, List.length_append, List.length_append,
        List.length_singleton]
      rw [List.map_cons] at ih
      omega

/-! ### The grammar -/

/-- `[a-z0-9]` -/
def slugLetter (c : Nat) : Bool := (Nat.ble 0x61 c && Nat.ble c 0x7a) ||
    (Nat.ble 0x30 c && Nat.ble c 0x39)

/-- `[a-z0-9]+(-[a-z0-9]+)*` -/
inductive Slug : Str → Prop where
  | letter {c : Nat} (here : slugLetter c = true) : Slug [c]
  | cons {c : Nat} {s : Str} (here : slugLetter c = true) (rest : Slug s) : Slug (c :: s)
  | dash {c : Nat} {s : Str} (here : slugLetter c = true) (rest : Slug s) : Slug (c :: 0x2d :: s)

namespace Slug

variable {s t : Str}

theorem head (slug : Slug s) : ∃ c rest, s = c :: rest ∧ slugLetter c = true := by
  cases slug with
  | letter here => exact ⟨_, _, rfl, here⟩
  | cons here _ => exact ⟨_, _, rfl, here⟩
  | dash here _ => exact ⟨_, _, rfl, here⟩

theorem letters (slug : Slug s) : ∀ c ∈ s, slugLetter c = true ∨ c = 0x2d := by
  induction slug with
  | letter here => simpa using Or.inl here
  | cons here _ ih => exact List.forall_mem_cons.mpr ⟨Or.inl here, ih⟩
  | dash here _ ih => exact List.forall_mem_cons.mpr ⟨Or.inl here,
      List.forall_mem_cons.mpr ⟨Or.inr rfl, ih⟩⟩

theorem append (first : Slug s) (second : Slug t) : Slug (s ++ 0x2d :: t) := by
  induction first with
  | letter here => exact .dash here second
  | cons here _ ih => exact .cons here ih
  | dash here _ ih => exact .dash here ih

theorem of_letters (some_ : s ≠ []) (all : ∀ c ∈ s, slugLetter c = true) : Slug s := by
  induction s with
  | nil => exact absurd rfl some_
  | cons c s ih =>
    obtain ⟨here, rest⟩ := List.forall_mem_cons.mp all
    cases s with
    | nil => exact .letter here
    | cons d s => exact .cons here (ih (List.cons_ne_nil d s) rest)

theorem of_join {parts : List Str} (some_ : parts ≠ [])
    (all : ∀ p ∈ parts, p ≠ [] ∧ ∀ c ∈ p, slugLetter c = true) : Slug (join (str "-") parts) := by
  induction parts with
  | nil => exact absurd rfl some_
  | cons p parts ih =>
    obtain ⟨⟨filled, letters⟩, rest⟩ := List.forall_mem_cons.mp all
    cases parts with
    | nil =>
      rw [join, List.intercalate_singleton]
      exact of_letters filled letters
    | cons q parts =>
      rw [join_cons_cons, List.append_assoc]
      exact (of_letters filled letters).append (ih (List.cons_ne_nil q parts) rest)

end Slug

theorem not_slug_dash (s : Str) : ¬Slug (0x2d :: s) := by
  intro slug
  obtain ⟨c, rest, same, here⟩ := slug.head
  cases same
  exact absurd here (by decide)

end Foundation
