/-
  FormRules/Proofs/Text/Pieces.lean
  =================================
  **Cutting undoes joining.**

  Pieces that do not hold a mark come back from the text in which the mark stands between
  them (`split_join`), the part before a first mark is found if it holds none itself
  (`splitFirst_append`), and a text without blanks at its ends, such as a trimmed one, is not
  trimmed.  Splitting is the standard `List.splitOn`, so that its laws apply.
-/
import FormRules.Text.Basic

namespace FormRules.Text

/-! ### Splitting -/

theorem split_eq_splitOn (mark : Char) (cs : List Char) : split mark cs = cs.splitOn mark := by
  induction cs with
  | nil => rfl
  | cons c rest ih =>
    rw [split, List.splitOn_cons_eq_if_modifyHead, ih]
    by_cases hc : c = mark
    · simp [hc]
    · simp only [hc, if_false, beq_iff_eq]
      rcases hsplit : rest.splitOn mark with _ | ⟨piece, pieces⟩
      · exact absurd hsplit (List.splitOn_ne_nil mark rest)
      · rfl

theorem splitFirst_of_notMem {mark : Char} {cs : List Char} (h : mark ∉ cs) :
    splitFirst mark cs = none := by
  induction cs with
  | nil => rfl
  | cons c rest ih =>
    simp only [List.mem_cons, not_or] at h
    rw [splitFirst, if_neg fun hc => h.1 hc.symm, ih h.2]
    rfl

theorem splitFirst_append {mark : Char} {before : List Char} (h : mark ∉ before)
    (after : List Char) : splitFirst mark (before ++ mark :: after) = some (before, after) := by
  induction before with
  | nil => simp [splitFirst]
  | cons c rest ih =>
    simp only [List.mem_cons, not_or] at h
    rw [List.cons_append, splitFirst, if_neg fun hc => h.1 hc.symm, ih h.2]
    rfl

/-! ### Joining -/

theorem toList_join (glue : String) (pieces : List String) :
    (join glue pieces).toList = glue.toList.intercalate (pieces.map String.toList) := by
  induction pieces with
  | nil => simp [join]
  | cons piece rest ih =>
    cases rest with
    | nil => simp [join]
    | cons next rest =>
      simp only [join, String.toList_append, ih, List.map_cons, List.intercalate_cons_cons]

theorem mem_join {c : Char} {glue : String} {pieces : List String}
    (h : c ∈ (join glue pieces).toList) :
    c ∈ glue.toList ∨ ∃ piece ∈ pieces, c ∈ piece.toList := by
  induction pieces with
  | nil => simp [join] at h
  | cons piece rest ih =>
    cases rest with
    | nil => exact Or.inr ⟨piece, by simp, by simpa [join] using h⟩
    | cons next rest =>
      simp only [join, String.toList_append, List.mem_append] at h
      rcases h with (h | h) | h
      · exact Or.inr ⟨piece, by simp, h⟩
      · exact Or.inl h
      · rcases ih h with h | ⟨p, hp, hc⟩
        · exact Or.inl h
        · exact Or.inr ⟨p, List.mem_cons_of_mem piece hp, hc⟩

/-- Pieces without the mark come back from their text. -/
theorem split_join {glue : String} {mark : Char} (hglue : glue.toList = [mark])
    {pieces : List String} (hne : pieces ≠ []) (h : ∀ piece ∈ pieces, mark ∉ piece.toList) :
    split mark (join glue pieces).toList = pieces.map String.toList := by
  rw [split_eq_splitOn, toList_join, hglue]
  refine List.splitOn_intercalate mark ?_ (by simpa using hne)
  intro cs hcs
  obtain ⟨piece, hpiece, rfl⟩ := List.mem_map.mp hcs
  exact h piece hpiece

/-! ### Characters -/

/-- What is checked of each of some neighbouring characters holds of all. -/
theorem of_code {P : Char → Prop} {first count : Nat}
    (h : ∀ n : Fin count, P (Char.ofNat (first + n))) {c : Char} (hfrom : first ≤ c.toNat)
    (hto : c.toNat < first + count) : P c := by
  have hc := h ⟨c.toNat - first, by omega⟩
  rwa [show first + (c.toNat - first) = c.toNat by omega, Char.ofNat_toNat] at hc

/-- What is checked of each character of ASCII holds of all of them. -/
theorem of_ascii {P : Char → Prop} (h : ∀ n : Fin 128, P (Char.ofNat n)) {c : Char}
    (hc : c.toNat < 128) : P c := by
  have hcode := h ⟨c.toNat, hc⟩
  rwa [Char.ofNat_toNat] at hcode

/-- What is checked of each small letter holds of all. -/
theorem of_small {P : Char → Prop} (h : ∀ n : Fin 26, P (Char.ofNat (97 + n))) {c : Char}
    (hfrom : 'a' ≤ c) (hto : c ≤ 'z') : P c :=
  of_code h hfrom (Nat.lt_succ_of_le hto)

/-- What is checked of each digit holds of all. -/
theorem isDigit_induction {P : Char → Prop} (h : ∀ n : Fin 10, P (Char.ofNat (48 + n))) {c : Char}
    (hc : c.isDigit = true) : P c := by
  rw [Char.isDigit, Bool.and_eq_true, decide_eq_true_eq, decide_eq_true_eq] at hc
  exact of_code h hc.1 (Nat.lt_succ_of_le hc.2)

/-! ### Trimming -/

/-- A text that neither begins nor ends with a blank. -/
structure Tight (cs : List Char) : Prop where
  head : ∀ c ∈ cs.head?, isBlank c = false
  last : ∀ c ∈ cs.getLast?, isBlank c = false

theorem tight_iff (cs : List Char) :
    (cs.head?.all (!isBlank ·) && cs.getLast?.all (!isBlank ·)) = true ↔ Tight cs := by
  have hall (o : Option Char) : o.all (!isBlank ·) = true ↔ ∀ c ∈ o, isBlank c = false := by
    cases o <;> simp
  rw [Bool.and_eq_true, hall, hall]
  exact ⟨fun h => ⟨h.1, h.2⟩, fun h => ⟨h.head, h.last⟩⟩

instance (cs : List Char) : Decidable (Tight cs) := decidable_of_iff _ (tight_iff cs)

theorem dropWhile_of_head {cs : List Char} (h : ∀ c ∈ cs.head?, isBlank c = false) :
    cs.dropWhile isBlank = cs := by
  cases cs with
  | nil => rfl
  | cons c rest => simp [h c rfl]

theorem Tight.trim_eq {cs : List Char} (h : Tight cs) : trim cs = cs := by
  have hlast : ∀ c ∈ cs.reverse.head?, isBlank c = false := by
    rw [List.head?_reverse]
    exact h.last
  rw [trim, trimStart, dropWhile_of_head h.head, trimEnd, dropWhile_of_head hlast,
    List.reverse_reverse]

theorem trimEnd_prefix (cs : List Char) : trimEnd cs <+: cs := by
  rw [← List.reverse_suffix, trimEnd, List.reverse_reverse]
  exact List.dropWhile_suffix _

theorem head?_dropWhile_isBlank {cs : List Char} {c : Char}
    (h : c ∈ (cs.dropWhile isBlank).head?) : isBlank c = false := by
  have hnot := List.head?_dropWhile_not isBlank cs
  rw [Option.mem_def.mp h] at hnot
  exact hnot

theorem tight_trim (cs : List Char) : Tight (trim cs) where
  head c hc := by
    obtain ⟨dropped, hdropped⟩ := trimEnd_prefix (trimStart cs)
    have hfirst : c ∈ (trimStart cs).head? := by
      rw [← hdropped, List.head?_append, ← trim, Option.mem_def.mp hc]
      rfl
    exact head?_dropWhile_isBlank hfirst
  last c hc := by
    rw [trim, trimEnd, List.getLast?_reverse] at hc
    exact head?_dropWhile_isBlank hc

theorem all_isBlank_dropWhile (cs : List Char) : (cs.dropWhile isBlank).all isBlank = cs.all isBlank := by
  induction cs with
  | nil => rfl
  | cons c rest ih =>
    cases hc : isBlank c
    · rw [List.dropWhile_cons_of_neg (by simp [hc])]
    · rw [List.dropWhile_cons_of_pos hc, ih, List.all_cons, hc, Bool.true_and]

theorem all_isBlank_trim (cs : List Char) : (trim cs).all isBlank = cs.all isBlank := by
  rw [trim, trimEnd, List.all_reverse, all_isBlank_dropWhile, List.all_reverse, trimStart,
    all_isBlank_dropWhile]

theorem trim_eq_nil {cs : List Char} (h : cs.all isBlank = true) : trim cs = [] := by
  have hall := (all_isBlank_trim cs).trans h
  have htight := tight_trim cs
  generalize trim cs = ds at hall htight
  rcases ds with _ | ⟨c, rest⟩
  · rfl
  · rw [List.all_cons, htight.head c rfl, Bool.false_and] at hall
    cases hall

end FormRules.Text
