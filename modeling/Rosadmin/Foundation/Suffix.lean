import Rosadmin.Foundation.Text

/-!
# ASCII suffixes under case mappings

A case mapping may send a code point far from ASCII into it. An ASCII word that
no such image can be part of is a suffix of the mapped text only where the text
itself ends in the word, up to ASCII case.
-/

namespace Foundation

/-- One code point mapped, as seen from the word: ASCII goes to its lower case, anything else out of
the word. -/
inductive CaseImage (start : Nat) (word : Str) (c : Nat) : Str → Prop where
  | ascii (low : c < 0x80) : CaseImage start word c [asciiLower c]
  | foreign (image : Str) (unstarted : start ∉ image) (outside : ∃ x ∈ image,
      x ∉ word) : CaseImage start word c image

inductive CaseMapped (start : Nat) (word : Str) : Str → Str → Prop where
  | nil : CaseMapped start word [] []
  | cons {c : Nat} {image t u : Str} (here : CaseImage start word c image)
      (rest : CaseMapped start word t u) :
      CaseMapped start word (c :: t) (image ++ u)

section
variable {start : Nat} {word t u : Str}

theorem CaseMapped.inside (mapped : CaseMapped start word t u) (inside : ∀ x ∈ u, x ∈ word) :
    t.map asciiLower = u := by
  induction mapped with
  | nil => rfl
  | cons here rest ih =>
    have tail := ih fun x member => inside x (List.mem_append_right _ member)
    cases here with
    | ascii low => rw [List.map_cons, tail]; rfl
    | foreign image unstarted outside =>
      obtain ⟨x, member, out⟩ := outside
      exact absurd (inside x (List.mem_append_left _ member)) out

theorem CaseMapped.suffix {rest : Str} (mapped : CaseMapped start (start :: rest) t u)
    (ends : start :: rest <:+ u) : ∃ q, q <:+ t ∧ q.map asciiLower = start :: rest := by
  induction mapped with
  | nil => cases List.suffix_nil.mp ends
  | @cons c image t u here mapped ih =>
    obtain ⟨p, whole⟩ := ends
    rcases List.append_eq_append_iff.mp whole with ⟨a, before, after⟩ | ⟨a, before, after⟩
    · cases a with
      | nil =>
        obtain ⟨q, tail, same⟩ := ih ⟨[], after⟩
        exact ⟨q, tail.trans (List.suffix_cons c t), same⟩
      | cons y a =>
        obtain ⟨rfl, split⟩ := List.cons.inj after
        cases here with
        | ascii low =>
          have length := congrArg List.length before
          simp only [List.length_append, List.length_cons, List.length_nil] at length
          obtain rfl : p = [] := List.length_eq_zero_iff.mp (by omega)
          obtain rfl : a = [] := List.length_eq_zero_iff.mp (by omega)
          obtain ⟨first, -⟩ := List.cons.inj before
          have tail : t.map asciiLower = u := mapped.inside fun x member =>
            List.mem_cons_of_mem _ (split ▸ member)
          exact ⟨c :: t, List.suffix_refl _, by rw [List.map_cons, first, tail, split]; rfl⟩
        | foreign image unstarted outside => exact absurd (by rw [before]; simp) unstarted
    · obtain ⟨q, tail, same⟩ := ih ⟨a, after.symm⟩
      exact ⟨q, tail.trans (List.suffix_cons c t), same⟩

/-! ### The two mappings -/

section
variable (start : Nat) (word : Str)

/-- No image of a mapping's tables can be part of the word. -/
def imagesOutside (specials : List (Nat × List Nat)) (runs : List CaseRun) : Bool :=
  specials.all (fun e => !e.2.contains start && e.2.any (fun x => !word.contains x)) &&
    runs.all (fun r => Nat.ble 0x80 r.image || (Nat.beq r.first r.last && !word.contains r.image))

end

theorem caseImage_mapChar {specials : List (Nat × List Nat)} {runs : List CaseRun}
    (member : start ∈ word) (ascii : ∀ x ∈ word, x < 0x80)
    (outside : imagesOutside start word specials runs = true) (c : Nat) :
    CaseImage start word c (mapChar asciiLower specials runs c) := by
  have single : ∀ x, x ∉ word → CaseImage start word c [x] := by
    intro x out
    refine .foreign [x] (fun here => ?_) ⟨x, List.mem_singleton_self x, out⟩
    exact out (List.mem_singleton.mp here ▸ member)
  simp only [imagesOutside, Bool.and_eq_true, List.all_eq_true, List.any_eq_true, Bool.not_eq_true',
    Bool.or_eq_true, List.contains_eq_mem, decide_eq_false_iff_not, Nat.ble_eq] at outside
  obtain ⟨special, run⟩ := outside
  unfold mapChar
  split
  · rename_i low
    exact .ascii low
  rename_i high
  split
  · rename_i e found
    obtain ⟨unstarted, x, image, out⟩ := special e (List.mem_of_find?_eq_some found)
    exact .foreign e.2 unstarted ⟨x, image, out⟩
  split
  · rename_i r found
    have holds := List.find?_some found
    have on := CaseRun.onStride holds
    apply single _
    intro inside
    rcases run r (List.mem_of_find?_eq_some found) with far | ⟨one, out⟩
    · have low := ascii _ inside
      unfold CaseRun.map at low
      omega
    · have same : r.first = r.last := Nat.eq_of_beq_eq_true one
      have image : r.map c = r.image := by
        obtain ⟨first, last, -⟩ := on
        unfold CaseRun.map
        omega
      exact out (image ▸ inside)
  · exact single c fun inside => high (ascii c inside)

theorem casefold_mapped (images : ∀ c, CaseImage start word c (foldChar c)) (t : Str) :
    CaseMapped start word t (casefold t) := by
  induction t with
  | nil => exact .nil
  | cons c t ih => exact .cons (images c) ih

theorem lowerFrom_mapped (images : ∀ before after c,
    CaseImage start word c (lowerChar before after c)) (before t : Str) :
    CaseMapped start word t (lowerFrom before t) := by
  induction t generalizing before with
  | nil => exact .nil
  | cons c t ih => exact .cons (images before t c) (ih (c :: before))

theorem caseImage_lowerChar (member : start ∈ word) (ascii : ∀ x ∈ word, x < 0x80)
    (outside : imagesOutside start word lowerSpecials lowerRuns = true) (before after : Str)
    (c : Nat) :
    CaseImage start word c (lowerChar before after c) := by
  have single : ∀ x, 0x80 ≤ x → CaseImage start word c [x] := by
    intro x far
    refine .foreign [x] (fun here => ?_) ⟨x, List.mem_singleton_self x, fun inside => ?_⟩
    · have low := ascii start member
      rw [List.mem_singleton.mp here] at low
      omega
    · have low := ascii x inside
      omega
  unfold lowerChar
  split
  · split
    · exact single _ (by omega)
    · exact single _ (by omega)
  · exact caseImage_mapChar member ascii outside c

/-- Lowering keeps its grip on an ASCII tail, whatever stands before. -/
theorem lowerFrom_suffix (before : Str) {p q : Str} (ascii : ∀ c ∈ q, c < 0x80) :
    q.map asciiLower <:+ lowerFrom before (p ++ q) := by
  induction p generalizing before with
  | nil =>
    have plain : ∀ before, lowerFrom before q = q.map asciiLower := by
      induction q with
      | nil => intro before; rfl
      | cons c q ih =>
        intro before
        have low : c < 0x80 := ascii c List.mem_cons_self
        have other : c ≠ 0x3a3 := by omega
        rw [lowerFrom, ih (fun d member => ascii d (List.mem_cons_of_mem _ member)), lowerChar,
          if_neg other, mapChar, if_pos low]
        rfl
    rw [List.nil_append, plain]
  | cons c p ih => exact (ih (c :: before)).trans (List.suffix_append _ _)

theorem ascii_of_map {q : Str} (word : ∀ x ∈ q.map asciiLower, x < 0x80) : ∀ c ∈ q, c < 0x80 := by
  intro c member
  have low := word (asciiLower c) (List.mem_map_of_mem member)
  unfold asciiLower at low
  split at low <;> omega

/-- Where folding lowers what is ASCII and keeps everything else out of the word, it gives no text
an ending in the word that the text's own lower case has not. -/
theorem endsWith_lower_of_casefold {rest : Str} (ascii : ∀ x ∈ start :: rest, x < 0x80)
    (folds : imagesOutside start (start :: rest) foldSpecials foldRuns = true)
    (lowers : imagesOutside start (start :: rest) lowerSpecials lowerRuns = true)
    (ends : endsWith (lower (casefold t)) (start :: rest) = true) :
    endsWith (lower t) (start :: rest) = true := by
  have member : start ∈ start :: rest := List.mem_cons_self
  unfold endsWith at ends ⊢
  rw [List.isSuffixOf_iff_suffix] at ends ⊢
  obtain ⟨q, tail, same⟩ :=
    (lowerFrom_mapped (caseImage_lowerChar member ascii lowers) [] (casefold t)).suffix ends
  -- what folding gave is already folded
  have fixed : q.map asciiLower = q := by
    refine (List.map_congr_left fun c inside => ?_).trans (List.map_id q)
    obtain ⟨d, -, image⟩ := List.mem_flatMap.mp (tail.subset inside)
    have low := ascii_of_map (same ▸ ascii) c inside
    have whole := foldChar_image image
    unfold foldChar mapChar at whole
    rw [if_pos low] at whole
    exact (List.cons.inj whole).1
  obtain ⟨p, own, lowered⟩ := (casefold_mapped (caseImage_mapChar member ascii folds) t).suffix
    (by rw [← same, fixed]; exact tail)
  obtain ⟨before, rfl⟩ := own
  rw [← lowered]
  exact lowerFrom_suffix [] (ascii_of_map (lowered ▸ ascii))

end

end Foundation
