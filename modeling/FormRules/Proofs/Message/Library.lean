/-
  FormRules/Proofs/Message/Library.lean
  =====================================
  **What a library has for a rule.**

  A change of a library is read off its entries: what a rule has in a locale.  A rule that is
  removed has nothing in any locale, and one that is set has what its messages say last; the
  entries of all other rules stay (`entry?_removeRule`, `entry?_setRule`).

  A registered rule sets its messages by locale.  Written out, these are its own ones, and for
  the system locale the default one if it has no other (`get?_messagesByLocale`).
-/
import FormRules.Message.Library
import FormRules.Proofs.Entries
import FormRules.Registry

namespace FormRules

/-! ### Maps that are written over others -/

namespace Entries

variable {α β : Type}

/-- Pairs that are written over a map hide what it has under their names. -/
theorem get?_insertAll (m : Entries α) (pairs : List (String × α)) (name : String) :
    (m.insertAll pairs).get? name = ((ofList pairs).get? name).or (m.get? name) := by
  induction pairs using List.reverseRecOn with
  | nil => rfl
  | append_singleton pairs e ih =>
    have hstep (n : Entries α) :
        n.insertAll (pairs ++ [e]) = (n.insertAll pairs).insert e.1 e.2 := by
      simp [insertAll]
    rw [ofList, hstep, hstep, get?_insert, get?_insert, ih]
    by_cases hname : e.1 = name
    · simp [hname]
    · simp [hname, ofList]

theorem get?_mapValues (f : α → β) (m : Entries α) (name : String) :
    (mapValues f m).get? name = (m.get? name).map f := by
  induction m with
  | nil => rfl
  | cons e rest ih =>
    obtain ⟨k, v⟩ := e
    simp only [mapValues] at ih
    by_cases hk : k = name
    · simp [mapValues, get?, hk]
    · simp [mapValues, get?, hk, ih]

end Entries

/-! ### Entries of a library -/

namespace Message.Library

variable (l : Library) (rule : String)

theorem entry?_eq_get?_table (locale : String) :
    l.entry? locale rule = (l.table locale).get? rule := by
  rw [ entry?, table]
  cases Entries.get? l locale <;> rfl

/-- A text that is added is all that the rule has in the locale. -/
theorem entry?_addText (text locale target other : String) :
    entry? (l.addTable locale [(rule, .text text)]) target other =
      if locale = target ∧ rule = other then some (.text text) else l.entry? target other := by
  have hinsert : Entries.insertAll (l.table locale) [(rule, .text text)] =
      (l.table locale).insert rule (.text text) := rfl
  rw [ entry?, addTable, Entries.get?_insert]
  by_cases hlocale : locale = target
  · subst hlocale
    simp only [if_true, Option.bind_some, hinsert, Entries.get?_insert, true_and]
    rw [entry?_eq_get?_table]
  · simp only [hlocale, if_false, false_and, entry?]

/-- **A rule that is removed has nothing in any locale.** -/
theorem entry?_removeRule (locale other : String) :
    entry? (l.removeRule rule) locale other =
      if rule = other then none else l.entry? locale other := by
  rw [ entry?, removeRule, Entries.get?_mapValues, entry?]
  cases Entries.get? l locale with
  | none => simp
  | some table => exact Entries.get?_erase table rule other

/-- Texts that are added one after the other: the last one of a locale counts. -/
theorem entry?_foldl_addText (messages : Entries String) (locale other : String) :
    entry? (messages.foldl (fun l m => l.addTable m.1 [(rule, .text m.2)]) l) locale other =
      if rule = other then
        (((Entries.ofList messages).get? locale).map .text).or (l.entry? locale other)
      else l.entry? locale other := by
  induction messages using List.reverseRecOn with
  | nil => simp [Entries.ofList, Entries.insertAll]
  | append_singleton messages m ih =>
    have hstep : Entries.ofList (messages ++ [m]) = (Entries.ofList messages).insert m.1 m.2 := by
      simp [Entries.ofList, Entries.insertAll]
    rw [List.foldl_append, List.foldl_cons, List.foldl_nil, entry?_addText, ih, hstep,
      Entries.get?_insert]
    by_cases hrule : rule = other
    · by_cases hlocale : m.1 = locale
      · simp [hrule, hlocale]
      · simp [hrule, hlocale]
    · simp [hrule]

/-- **A rule that is set has what its messages say last,** and the other rules keep theirs. -/
theorem entry?_setRule (messages : Entries String) (locale other : String) :
    entry? (l.setRule rule messages) locale other =
      if rule = other then ((Entries.ofList messages).get? locale).map .text
      else l.entry? locale other := by
  rw [setRule, entry?_foldl_addText, entry?_removeRule]
  by_cases hrule : rule = other
  · simp [hrule]
  · simp [hrule]

end Message.Library

/-! ### The messages of a registered rule -/

namespace RuleDescriptor

/-- The message of a rule for a locale: its own one, else the default one if the locale is that
    of the system. Of a locale that is given twice the last message counts. -/
def messageFor? (d : RuleDescriptor) (systemLocale locale : String) : Option String :=
  ((Entries.ofList d.messages).get? locale).or
    (if locale = systemLocale then d.message else none)

theorem get?_messagesByLocale (d : RuleDescriptor) (systemLocale locale : String) :
    (Entries.ofList (d.messagesByLocale systemLocale)).get? locale =
      d.messageFor? systemLocale locale := by
  unfold messagesByLocale messageFor?
  rcases hmessage : d.message with _ | m
  · simp
  · rcases hhas : d.messages.has systemLocale with _ | _
    · have hfirst : Entries.ofList ((systemLocale, m) :: d.messages) =
          Entries.insertAll [(systemLocale, m)] d.messages := rfl
      simp only [Bool.false_eq_true, if_false, hfirst, Entries.get?_insertAll]
      by_cases hlocale : locale = systemLocale
      · simp [Entries.get?, hlocale]
      · simp [Entries.get?, hlocale, Ne.symm hlocale]
    · -- The system locale has a message of its own, so the default one is never reached.
      by_cases hlocale : locale = systemLocale
      · have hown : locale ∈ (Entries.ofList d.messages).names := by
          rw [hlocale, Entries.ofList, Entries.mem_names_insertAll_iff]
          exact Or.inr (Entries.has_iff.mp hhas)
        obtain ⟨text, htext⟩ := Entries.mem_names_iff.mp hown
        simp [htext]
      · simp [hlocale]

end RuleDescriptor

end FormRules
