/-
  FormRules/Proofs/Message/Catalog.lean
  =====================================
  **What a catalog holds is what its table says last.**

  Several written keys can stand for the same key and locale: `a.min` and `a.min$en` do if the
  system locale is `en`.  `Suffixed` and `Stands` say without any cutting of texts what a
  written key stands for, and `splitKey` finds just that (`splitKey_eq_iff`).  A catalog is
  written text by text, so of the texts that stand for the same it has the last one
  (`get?_write_foldl`).
-/
import FormRules.Message.Catalog
import FormRules.Proofs.Entries
import FormRules.Proofs.Text.Pieces

namespace FormRules

namespace Catalog

/-! ### Written keys -/

/-- A written key that ends in a locale: there is one `$` in it, with text on both sides. -/
structure Suffixed (written key locale : String) : Prop where
  written_eq : written.toList = key.toList ++ '$' :: locale.toList
  key_ne : key ≠ ""
  locale_ne : locale ≠ ""
  key_plain : '$' ∉ key.toList
  locale_plain : '$' ∉ locale.toList

/-- What a written key stands for: the key and the locale that it is made of, or else itself in
    the system locale. -/
def Stands (systemLocale written key locale : String) : Prop :=
  Suffixed written key locale ∨
    (∀ k l, ¬ Suffixed written k l) ∧ key = written ∧ locale = systemLocale

theorem notMem_of_mem_split {mark : Char} {piece cs : List Char} (h : piece ∈ Text.split mark cs) :
    mark ∉ piece := by
  induction cs generalizing piece with
  | nil =>
    obtain rfl := List.mem_singleton.mp h
    exact List.not_mem_nil
  | cons c rest ih =>
    rw [Text.split] at h
    split at h
    · rcases List.mem_cons.mp h with rfl | hrest
      · exact List.not_mem_nil
      · exact ih hrest
    · next hc =>
      split at h
      · obtain rfl := List.mem_singleton.mp h
        exact fun hmem => hc (List.mem_singleton.mp hmem).symm
      · next first others hsplit =>
        rw [hsplit] at ih
        rcases List.mem_cons.mp h with rfl | hother
        · intro hmem
          rcases List.mem_cons.mp hmem with hmark | hmem
          · exact hc hmark.symm
          · exact ih List.mem_cons_self hmem
        · exact ih (List.mem_cons_of_mem first hother)

/-- A text is cut into two pieces just if there is one mark in it. -/
theorem split_eq_pair_iff {mark : Char} {cs front back : List Char} :
    Text.split mark cs = [front, back] ↔
      cs = front ++ mark :: back ∧ mark ∉ front ∧ mark ∉ back := by
  have hjoined : [mark].intercalate [front, back] = front ++ mark :: back := by
    simp [List.intercalate]
  constructor
  · intro h
    have hcs : [mark].intercalate (cs.splitOn mark) = cs := List.intercalate_splitOn mark
    rw [← Text.split_eq_splitOn, h, hjoined] at hcs
    have hpieces : ∀ piece ∈ [front, back], mark ∉ piece :=
      fun piece hpiece => notMem_of_mem_split (h ▸ hpiece)
    exact ⟨hcs.symm, hpieces front (by simp), hpieces back (by simp)⟩
  · rintro ⟨rfl, hfront, hback⟩
    rw [← hjoined, Text.split_eq_splitOn]
    refine List.splitOn_intercalate mark ?_ (List.cons_ne_nil _ _)
    simp only [List.forall_mem_cons]
    exact ⟨hfront, hback, List.forall_mem_nil _⟩

theorem split_of_suffixed {written key locale : String} (h : Suffixed written key locale) :
    Text.split '$' written.toList = [key.toList, locale.toList] :=
  split_eq_pair_iff.mpr ⟨h.written_eq, h.key_plain, h.locale_plain⟩

theorem splitKey_of_suffixed {written key locale : String} (h : Suffixed written key locale)
    (systemLocale : String) : splitKey written systemLocale = (key, locale) := by
  obtain ⟨c, name, hkey⟩ := List.exists_cons_of_ne_nil (mt String.toList_eq_nil_iff.mp h.key_ne)
  obtain ⟨d, rest, hlocale⟩ :=
    List.exists_cons_of_ne_nil (mt String.toList_eq_nil_iff.mp h.locale_ne)
  have hsplit := split_of_suffixed h
  rw [hkey, hlocale] at hsplit
  simp only [splitKey, hsplit]
  rw [← hkey, ← hlocale, String.ofList_toList, String.ofList_toList]

theorem splitKey_of_plain {written : String} (h : ∀ k l, ¬ Suffixed written k l)
    (systemLocale : String) : splitKey written systemLocale = (written, systemLocale) := by
  unfold splitKey
  split
  · next c name d locale hsplit =>
    obtain ⟨hwritten, hname, hlocale⟩ := split_eq_pair_iff.mp hsplit
    have hsuffixed : Suffixed written (String.ofList (c :: name)) (String.ofList (d :: locale)) :=
      ⟨by simpa using hwritten, by simp [← String.toList_inj], by simp [← String.toList_inj],
        by simpa using hname, by simpa using hlocale⟩
    exact absurd hsuffixed (h _ _)
  · rfl

/-- **Cutting a written key finds what it stands for.** -/
theorem splitKey_eq_iff {systemLocale written key locale : String} :
    splitKey written systemLocale = (key, locale) ↔ Stands systemLocale written key locale := by
  by_cases h : ∃ k l, Suffixed written k l
  · obtain ⟨k, l, hsuffixed⟩ := h
    rw [splitKey_of_suffixed hsuffixed, Prod.mk.injEq]
    constructor
    · rintro ⟨rfl, rfl⟩
      exact Or.inl hsuffixed
    · rintro (hother | ⟨hnone, -⟩)
      · have hsplit := (splitKey_of_suffixed hsuffixed systemLocale).symm.trans
          (splitKey_of_suffixed hother systemLocale)
        exact Prod.mk.inj hsplit
      · exact absurd hsuffixed (hnone k l)
  · have hnone : ∀ k l, ¬ Suffixed written k l := fun k l hs => h ⟨k, l, hs⟩
    rw [splitKey_of_plain hnone, Prod.mk.injEq]
    constructor
    · rintro ⟨rfl, rfl⟩
      exact Or.inr ⟨hnone, rfl, rfl⟩
    · rintro (hother | ⟨-, rfl, rfl⟩)
      · exact absurd hother (hnone key locale)
      · exact ⟨rfl, rfl⟩

/-! ### Written texts -/

theorem get?_insert (c : Catalog) (l k text locale key : String) :
    (c.insert l k text).get? locale key =
      if l = locale ∧ k = key then some text else c.get? locale key := by
  rw [Catalog.get?, Catalog.insert, Entries.get?_insert]
  by_cases hlocale : l = locale
  · subst hlocale
    simp only [if_true, Option.bind_some, Entries.get?_insert, true_and, Catalog.get?]
    cases Entries.get? c l with
    | none => rfl
    | some texts => rfl
  · simp only [hlocale, if_false, false_and, Catalog.get?]

/-- A text of a table that no later text with the same meaning replaces. -/
def HasLast (systemLocale : String) (texts : List (String × String)) (locale key text : String) :
    Prop :=
  ∃ before written later, texts = before ++ (written, text) :: later ∧
    Stands systemLocale written key locale ∧ ∀ e ∈ later, ¬ Stands systemLocale e.1 key locale

/-- What a text of a table stands for. -/
def meaningOf (systemLocale : String) (e : String × String) : String × String :=
  splitKey e.1 systemLocale

theorem hasLast_iff {systemLocale : String} {texts : List (String × String)}
    {locale key text : String} :
    HasLast systemLocale texts locale key text ↔
      ∃ e, IsLastBy (meaningOf systemLocale) texts e ∧ e.2 = text ∧
        meaningOf systemLocale e = (key, locale) := by
  simp only [HasLast, IsLastBy, ← splitKey_eq_iff, meaningOf]
  constructor
  · rintro ⟨before, written, later, htexts, hmeaning, hlater⟩
    exact ⟨(written, text), ⟨before, later, htexts, hmeaning ▸ hlater⟩, rfl, hmeaning⟩
  · rintro ⟨⟨written, _⟩, ⟨before, later, htexts, hlater⟩, rfl, hmeaning⟩
    exact ⟨before, written, later, htexts, hmeaning, hmeaning ▸ hlater⟩

/-- **A catalog that is made of a table has for each locale and key what the table says last.** -/
theorem get?_write_foldl (systemLocale : String) (texts : List (String × String))
    (locale key text : String) :
    (texts.foldl (write systemLocale) []).get? locale key = some text ↔
      HasLast systemLocale texts locale key text := by
  rw [hasLast_iff]
  -- From the end: the last text decides its own meaning and leaves all others alone.
  induction texts using List.reverseRecOn with
  | nil =>
    constructor
    · intro h
      cases h
    · rintro ⟨e, hlast, -⟩
      cases hlast.mem
  | append_singleton texts d ih =>
    obtain ⟨written, last⟩ := d
    have hwrite : (texts ++ [(written, last)]).foldl (write systemLocale) [] =
        (texts.foldl (write systemLocale) []).insert (splitKey written systemLocale).2
          (splitKey written systemLocale).1 last := by
      rw [List.foldl_append]
      rfl
    rw [hwrite, get?_insert]
    have hmeans : meaningOf systemLocale (written, last) = splitKey written systemLocale := rfl
    by_cases hsame : splitKey written systemLocale = (key, locale)
    · rw [if_pos (by rw [hsame]; exact ⟨rfl, rfl⟩)]
      simp only [isLastBy_concat, hmeans, hsame]
      constructor
      · intro htext
        refine ⟨(written, last), ?_, Option.some.inj htext, hsame⟩
        rw [hmeans, hsame, if_pos rfl]
      · rintro ⟨e, hlast, rfl, hmeaning⟩
        rw [hmeaning, if_pos rfl] at hlast
        rw [← hlast]
    · have hother : ¬ ((splitKey written systemLocale).2 = locale ∧
          (splitKey written systemLocale).1 = key) :=
        fun ⟨hlocale, hkey⟩ => hsame (Prod.ext hkey hlocale)
      rw [if_neg hother, ih]
      constructor
      · rintro ⟨e, hlast, htext, hmeaning⟩
        refine ⟨e, ?_, htext, hmeaning⟩
        rwa [isLastBy_concat, hmeans, hmeaning, if_neg hsame]
      · rintro ⟨e, hlast, htext, hmeaning⟩
        rw [isLastBy_concat, hmeans, hmeaning, if_neg hsame] at hlast
        exact ⟨e, hlast, htext, hmeaning⟩

end Catalog

end FormRules
