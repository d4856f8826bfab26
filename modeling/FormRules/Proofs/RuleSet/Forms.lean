/-
  FormRules/Proofs/RuleSet/Forms.lean
  ===================================
  **All ways to write a rule set say the same.**

  One list of rules can be written as a text with bars, as a list of tokens, as JSON of
  either, as a mapping or as a JSON object.  `normalize_forms` says that all of them read
  as one rule set, or are all refused because the list is empty, and which rule set it is.

  Each reader goes its own way, so there are two arguments.  Where rules are tokens, cutting
  a token undoes writing it (`ofToken?_token`), and the entries come back in the order of
  the list.  Where rules are members of a mapping, repeated names are settled before any
  entry is read; `Reads` relates the mapping to the rule set entry by entry, and one write
  on either side keeps the relation (`Reads.insert`).
-/
import FormRules.RuleSet.Specification
import FormRules.Proofs.RuleSet
import FormRules.Proofs.Text.Pieces
import Mathlib.Data.List.Forall2

namespace FormRules

/-! ### Rules that every form can write -/

/-- A name that every form can write: it is not empty, has no blanks at its ends and none
    of the marks of a text. -/
structure PlainName (name : String) : Prop where
  ne_empty : name ≠ ""
  tight : Text.Tight name.toList
  no_colon : ':' ∉ name.toList
  no_bar : '|' ∉ name.toList

/-- Arguments that every form can write: not a single empty one, and none with a mark in
    it. -/
structure PlainArgs (args : List String) : Prop where
  ne_blank : args ≠ [""]
  no_comma : ∀ arg ∈ args, ',' ∉ arg.toList
  no_bar : ∀ arg ∈ args, '|' ∉ arg.toList

/-- A rule that the forms can write. One that is written in place has no arguments. -/
structure RuleEntry.Writable (e : RuleEntry) : Prop where
  name : PlainName e.name
  args : PlainArgs e.args
  handler : e.handler.isSome → e.args = []

instance (name : String) : Decidable (PlainName name) :=
  decidable_of_iff
    (name ≠ "" ∧ Text.Tight name.toList ∧ ':' ∉ name.toList ∧ '|' ∉ name.toList)
    ⟨fun h => ⟨h.1, h.2.1, h.2.2.1, h.2.2.2⟩,
      fun h => ⟨h.ne_empty, h.tight, h.no_colon, h.no_bar⟩⟩

instance (args : List String) : Decidable (PlainArgs args) :=
  decidable_of_iff
    (args ≠ [""] ∧ (∀ arg ∈ args, ',' ∉ arg.toList) ∧ ∀ arg ∈ args, '|' ∉ arg.toList)
    ⟨fun h => ⟨h.1, h.2.1, h.2.2⟩, fun h => ⟨h.ne_blank, h.no_comma, h.no_bar⟩⟩

instance (e : RuleEntry) : Decidable e.Writable :=
  decidable_of_iff (PlainName e.name ∧ PlainArgs e.args ∧ (e.handler.isSome → e.args = []))
    ⟨fun h => ⟨h.1, h.2.1, h.2.2⟩, fun h => ⟨h.name, h.args, h.handler⟩⟩

namespace RuleSpec

/-! ### Writing -/

/-- The token of a rule: its name and, if there are any, its arguments. -/
def token (e : RuleEntry) : String :=
  if e.args = [] then e.name else e.name ++ ":" ++ Text.join "," e.args

/-- The item of a rule in a list. -/
def listToken (e : RuleEntry) : RuleToken :=
  match e.handler with
  | some h => .handler e.name h
  | none => .name (token e)

/-- A member of a mapping writes a rule. -/
inductive Mapped (e : RuleEntry) : String × RuleArg → Prop where
  | flag (on : Bool) (plain : e.handler = none) (noArgs : e.args = []) :
      Mapped e (e.name, .flag on)
  | args (plain : e.handler = none) : Mapped e (e.name, .args e.args)
  | handler (h : Handler) (own : e.handler = some h) : Mapped e (e.name, .handler h)

/-- A value writes an argument: it is its text, or it is no text and prints as it. -/
def Writes (arg : String) (v : Value) : Prop :=
  v = .string arg ∨ (∀ s, v ≠ .string s) ∧ Json.text v = arg

/-- A member of a JSON object writes a rule. -/
inductive Encoded (e : RuleEntry) : String × Value → Prop where
  | flag (noArgs : e.args = []) : Encoded e (e.name, .bool true)
  | args (items : List Value) (written : List.Forall₂ Writes e.args items) :
      Encoded e (e.name, .array items)

/-! ### Reading a token back -/

theorem entry?_of_plain {name : String} (h : PlainName name) (args : List String)
    (handler : Option Handler) :
    entry? name.toList args handler = some ⟨name, args, handler⟩ := by
  unfold entry?
  rw [h.tight.trim_eq]
  rcases hname : name.toList with _ | ⟨c, rest⟩
  · exact absurd (String.toList_eq_nil_iff.mp hname) h.ne_empty
  · simp only [← hname, String.ofList_toList]

theorem ofToken?_token {e : RuleEntry} (h : e.Writable) (hplain : e.handler = none) :
    ofToken? (token e).toList = some e := by
  obtain ⟨name, args, handler⟩ := e
  obtain rfl : handler = none := hplain
  unfold token
  by_cases hargs : args = []
  · subst hargs
    rw [if_pos rfl, ofToken?, Text.splitFirst_of_notMem h.name.no_colon]
    exact entry?_of_plain h.name [] none
  · rw [if_neg hargs]
    have htoken : (name ++ ":" ++ Text.join "," args).toList =
        name.toList ++ ':' :: (Text.join "," args).toList := by simp
    rw [ofToken?, htoken, Text.splitFirst_append h.name.no_colon]
    have hsplit := Text.split_join (show ",".toList = [','] by rfl) hargs h.args.no_comma
    rcases hjoin : (Text.join "," args).toList with _ | ⟨c, rest⟩
    · -- only a single empty argument has no text, and that one is excluded
      rw [hjoin] at hsplit
      have hblank : args.map String.toList = [""].map String.toList := hsplit.symm
      exact absurd (List.map_injective_iff.mpr (fun _ _ => String.toList_inj.mp) hblank)
        h.args.ne_blank
    · simp only [← hjoin, hsplit, List.map_map]
      have hback : args.map (String.ofList ∘ String.toList) = args := by
        simp [Function.comp_def]
      rw [hback]
      exact entry?_of_plain h.name args none

theorem bar_notMem_token {e : RuleEntry} (h : e.Writable) : '|' ∉ (token e).toList := by
  intro hmem
  unfold token at hmem
  by_cases hargs : e.args = []
  · rw [if_pos hargs] at hmem
    exact h.name.no_bar hmem
  · rw [if_neg hargs] at hmem
    simp only [String.toList_append, List.mem_append] at hmem
    rcases hmem with (hmem | hmem) | hmem
    · exact h.name.no_bar hmem
    · simp at hmem
    · rcases Text.mem_join hmem with hcomma | ⟨arg, harg, hbar⟩
      · simp at hcomma
      · exact h.args.no_bar arg harg hbar

section Tokens

variable {entries : List RuleEntry}

theorem filterMap_ofToken? (hw : ∀ e ∈ entries, e.Writable)
    (hplain : ∀ e ∈ entries, e.handler = none) :
    (entries.map fun e => (token e).toList).filterMap ofToken? = entries := by
  rw [List.filterMap_map]
  have hsome : ∀ e ∈ entries, (ofToken? ∘ fun e => (token e).toList) e = some e :=
    fun e he => ofToken?_token (hw e he) (hplain e he)
  rw [List.filterMap_congr hsome, List.filterMap_some]

theorem ofText_tokens (hw : ∀ e ∈ entries, e.Writable)
    (hplain : ∀ e ∈ entries, e.handler = none) :
    ofText (Text.join "|" (entries.map token)) = entries := by
  unfold ofText
  by_cases hempty : entries = []
  · -- the text of no rules is one blank token
    subst hempty
    rfl
  · have hbars : ∀ piece ∈ entries.map token, '|' ∉ piece.toList := by
      intro piece hpiece
      obtain ⟨e, he, rfl⟩ := List.mem_map.mp hpiece
      exact bar_notMem_token (hw e he)
    rw [Text.split_join (show "|".toList = ['|'] by rfl) (by simpa using hempty) hbars,
      List.map_map]
    exact filterMap_ofToken? hw hplain

theorem ofItems_tokens (hw : ∀ e ∈ entries, e.Writable)
    (hplain : ∀ e ∈ entries, e.handler = none) :
    ofItems (entries.map fun e => .string (token e)) = .ok entries := by
  induction entries with
  | nil => rfl
  | cons e rest ih =>
    have hrest := ih (fun d hd => hw d (List.mem_cons_of_mem e hd))
      (fun d hd => hplain d (List.mem_cons_of_mem e hd))
    simp only [List.map_cons, ofItems, hrest,
      ofToken?_token (hw e List.mem_cons_self) (hplain e List.mem_cons_self)]
    rfl

theorem ofTokens_listTokens (hw : ∀ e ∈ entries, e.Writable) :
    ofTokens (entries.map listToken) = entries := by
  unfold ofTokens
  rw [List.filterMap_map]
  refine (List.filterMap_congr ?_).trans List.filterMap_some
  intro e he
  rcases hh : e.handler with _ | h
  · simp only [Function.comp_apply, listToken, hh]
    exact ofToken?_token (hw e he) hh
  · have hargs : e.args = [] := (hw e he).handler (by rw [hh]; rfl)
    simp only [Function.comp_apply, listToken, hh]
    rw [← hargs, ← hh]

end Tokens

/-! ### Reading a mapping back -/

/-- A mapping reads as a rule set, member by member. -/
def Reads {α : Type} (read : String → α → Option RuleEntry) : RuleSet → Entries α → Prop :=
  List.Forall₂ fun e p => p.1 = e.name ∧ read p.1 p.2 = some e

section Mappings

variable {α : Type} {read : String → α → Option RuleEntry}

theorem Reads.filterMap_eq {rules : RuleSet} {members : Entries α}
    (h : Reads read rules members) :
    members.filterMap (fun p => read p.1 p.2) = rules := by
  induction h with
  | nil => rfl
  | cons hp _ ih => simp only [List.filterMap_cons, hp.2, ih]

/-- Writing a member and writing its entry take the same place. -/
theorem Reads.insert {rules : RuleSet} {members : Entries α} (h : Reads read rules members)
    {e : RuleEntry} {a : α} (ha : read e.name a = some e) :
    Reads read (rules.upsert e) (Entries.insert members e.name a) := by
  induction h with
  | nil => exact .cons ⟨rfl, ha⟩ .nil
  | @cons d p rest members hp hrest ih =>
    obtain ⟨name, b⟩ := p
    obtain rfl : name = d.name := hp.1
    by_cases hd : d.name = e.name
    · rw [RuleSet.upsert, if_pos hd, Entries.insert, if_pos hd, hd]
      exact .cons ⟨rfl, ha⟩ hrest
    · rw [RuleSet.upsert, if_neg hd, Entries.insert, if_neg hd]
      exact .cons hp ih

/-- A mapping that is made of the members of some rules, one after the other, reads as the
    rule set that is made of the rules. -/
theorem Reads.ofList {rules : List RuleEntry} {members : List (String × α)}
    (h : Reads read rules members) :
    Reads read (RuleSet.ofList rules) (Entries.ofList members) := by
  have hfrom : ∀ {start : RuleSet} {written : Entries α}, Reads read start written →
      Reads read (rules.foldl RuleSet.upsert start) (Entries.insertAll written members) := by
    induction h with
    | nil => exact fun hstart => hstart
    | @cons e p _ _ hp _ ih =>
      obtain ⟨name, a⟩ := p
      obtain rfl : name = e.name := hp.1
      exact fun hstart => ih (hstart.insert hp.2)
  exact hfrom .nil

theorem Mapped.reads {e : RuleEntry} (hw : e.Writable) {p : String × RuleArg}
    (h : Mapped e p) : p.1 = e.name ∧ ofArg? p.1 p.2 = some e := by
  obtain ⟨name, args, handler⟩ := e
  cases h with
  | flag on plain noArgs =>
    obtain rfl : handler = none := plain
    obtain rfl : args = [] := noArgs
    exact ⟨rfl, entry?_of_plain hw.name [] none⟩
  | args plain =>
    obtain rfl : handler = none := plain
    exact ⟨rfl, entry?_of_plain hw.name args none⟩
  | handler h own =>
    obtain rfl : handler = some h := own
    obtain rfl : args = [] := hw.handler rfl
    exact ⟨rfl, entry?_of_plain hw.name [] (some h)⟩

theorem argText_of_writes {arg : String} {v : Value} (h : Writes arg v) : argText v = arg := by
  rcases h with rfl | ⟨hnot, htext⟩
  · rfl
  · cases v with
    | string s => exact absurd rfl (hnot s)
    | _ => exact htext

theorem map_argText_of_writes {args : List String} {items : List Value}
    (h : List.Forall₂ Writes args items) : items.map argText = args := by
  induction h with
  | nil => rfl
  | cons ha _ ih => rw [List.map_cons, argText_of_writes ha, ih]

theorem Encoded.reads {e : RuleEntry} (hw : e.Writable) (hplain : e.handler = none)
    {p : String × Value} (h : Encoded e p) :
    p.1 = e.name ∧ ofArg? p.1 (.value p.2) = some e := by
  obtain ⟨name, args, handler⟩ := e
  obtain rfl : handler = none := hplain
  cases h with
  | flag noArgs =>
    obtain rfl : args = [] := noArgs
    exact ⟨rfl, entry?_of_plain hw.name [] none⟩
  | args items written =>
    refine ⟨rfl, ?_⟩
    show entry? name.toList (items.map argText) none = _
    rw [map_argText_of_writes written]
    exact entry?_of_plain hw.name args none

end Mappings

/-! ### All forms -/

/-- What a list of rules stands for; a list without any is refused. -/
def meaning (field : String) (entries : List RuleEntry) : Except Error RuleSet :=
  if entries = [] then .error (.specification field .noRules) else .ok (.ofList entries)

theorem normalize_of_entries {spec : RuleSpec} {entries : List RuleEntry}
    (h : spec.entries = .ok entries) (field : String) :
    spec.normalize field = meaning field entries := by
  unfold normalize meaning
  rw [h]
  cases entries <;> rfl

/-- A rule set means itself, so it does not matter when repeated names are settled. -/
theorem meaning_ofList (field : String) (entries : List RuleEntry) :
    meaning field (RuleSet.ofList entries) = meaning field entries := by
  have hempty : RuleSet.ofList entries = [] ↔ entries = [] := by
    have hnames := RuleSet.names_ofList entries
    cases entries with
    | nil => simp [RuleSet.ofList]
    | cons e rest =>
      refine ⟨fun h => ?_, fun h => absurd h (List.cons_ne_nil e rest)⟩
      rw [h, List.map_cons, List.eraseDups_cons] at hnames
      cases hnames
  unfold meaning
  by_cases h : entries = []
  · rw [if_pos h, if_pos (hempty.mpr h)]
  · rw [if_neg h, if_neg (mt hempty.mp h),
      RuleSet.ofList_of_nodup (RuleSet.nodup_names_ofList entries)]

/-- **All forms of a rule set agree.**  A list of rules reads the same as a list and as a
    mapping; if no rule is written in place it also reads the same as a text, as a JSON list
    of tokens and as a JSON object.  What it reads as has each name once, where it was
    written first, with what was written for it last. -/
theorem normalize_forms (field : String) {entries : List RuleEntry}
    (hw : ∀ e ∈ entries, e.Writable) {mapping : List (String × RuleArg)}
    (hmapping : List.Forall₂ Mapped entries mapping) :
    normalize field (.list (entries.map listToken)) = meaning field entries ∧
    normalize field (.map (Entries.ofList mapping)) = meaning field entries ∧
    (∀ object : List (String × Value), (∀ e ∈ entries, e.handler = none) →
      List.Forall₂ Encoded entries object →
      normalize field (.text (Text.join "|" (entries.map token))) = meaning field entries ∧
      normalize field (.json (.array (entries.map fun e => .string (token e)))) =
        meaning field entries ∧
      normalize field (.json (.object (Entries.ofList object))) = meaning field entries) ∧
    (RuleSet.ofList entries).names.Nodup ∧
    (RuleSet.ofList entries).names = (entries.map (·.name)).eraseDups ∧
    ∀ e, e ∈ RuleSet.ofList entries ↔ RuleSet.IsLast entries e := by
  refine ⟨?_, ?_, ?_, RuleSet.nodup_names_ofList entries, RuleSet.names_ofList entries,
    RuleSet.mem_ofList_iff entries⟩
  · refine normalize_of_entries ?_ field
    exact congrArg Except.ok (ofTokens_listTokens hw)
  · have hreads : Reads ofArg? entries mapping := by
      have hboth := (List.forall₂_and_left entries mapping).mpr ⟨hw, hmapping⟩
      exact hboth.imp fun e p h => h.2.reads h.1
    rw [← meaning_ofList]
    refine normalize_of_entries ?_ field
    exact congrArg Except.ok hreads.ofList.filterMap_eq
  · intro object hplain hobject
    have hreads : Reads (fun name v => ofArg? name (.value v)) entries object := by
      have hboth := (List.forall₂_and_left entries object).mpr
        ⟨fun e he => And.intro (hw e he) (hplain e he), hobject⟩
      exact hboth.imp fun e p h => h.2.reads h.1.1 h.1.2
    refine ⟨?_, ?_, ?_⟩
    · refine normalize_of_entries ?_ field
      exact congrArg Except.ok (ofText_tokens hw hplain)
    · refine normalize_of_entries ?_ field
      exact ofItems_tokens hw hplain
    · rw [← meaning_ofList]
      refine normalize_of_entries ?_ field
      have hmembers : ofMap (Entries.mapValues RuleArg.value (Entries.ofList object)) =
          RuleSet.ofList entries := by
        rw [ofMap, Entries.mapValues, List.filterMap_map]
        exact hreads.ofList.filterMap_eq
      exact congrArg Except.ok hmembers

/-- Three rules, the first of which is written again at the end. -/
def minEntries : List RuleEntry :=
  [⟨"min", ["3"], none⟩, ⟨"regex", ["^a:b$"], none⟩, ⟨"string", [], none⟩,
    ⟨"min", ["[]", "5"], none⟩]

theorem normalize_forms_min :
    (∀ e ∈ minEntries, e.Writable) ∧
    normalize "age" (.text "min:3|regex:^a:b$|string|min:[],5") =
      .ok [⟨"min", ["[]", "5"], none⟩, ⟨"regex", ["^a:b$"], none⟩, ⟨"string", [], none⟩] ∧
    normalize "age" (.json (.object [("min", .array [.array [], .string "5"]),
        ("regex", .array [.string "^a:b$"]), ("string", .bool true)])) =
      .ok [⟨"min", ["[]", "5"], none⟩, ⟨"regex", ["^a:b$"], none⟩, ⟨"string", [], none⟩] := by
  have hw : ∀ e ∈ minEntries, e.Writable := by
    simp only [minEntries, List.forall_mem_cons]
    exact ⟨by decide, by decide, by decide, by decide, List.forall_mem_nil _⟩
  have hmapping : List.Forall₂ Mapped minEntries
      [("min", .args ["3"]), ("regex", .args ["^a:b$"]), ("string", .flag false),
        ("min", .args ["[]", "5"])] :=
    .cons (.args rfl) (.cons (.args rfl) (.cons (.flag false rfl rfl) (.cons (.args rfl) .nil)))
  have hobject : List.Forall₂ Encoded minEntries
      [("min", .array [.string "3"]), ("regex", .array [.string "^a:b$"]),
        ("string", .bool true), ("min", .array [.array [], .string "5"])] := by
    have htext (arg : String) : Writes arg (.string arg) := Or.inl rfl
    have hempty : Writes "[]" (.array []) := Or.inr ⟨fun _ h => Value.noConfusion h, rfl⟩
    exact .cons (.args _ (.cons (htext _) .nil)) (.cons (.args _ (.cons (htext _) .nil))
      (.cons (.flag rfl) (.cons (.args _ (.cons hempty (.cons (htext _) .nil))) .nil)))
  obtain ⟨-, -, hplain, -⟩ := normalize_forms "age" hw hmapping
  obtain ⟨htext, -, hobject⟩ := hplain _ (by decide) hobject
  exact ⟨hw, htext, hobject⟩

end RuleSpec

end FormRules
