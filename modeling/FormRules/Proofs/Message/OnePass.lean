/-
  FormRules/Proofs/Message/OnePass.lean
  =====================================
  **Filling is one pass over the template.**

  A template is cut where a name stands after a colon, at the leftmost place first and with
  the name as long as it goes.  `Cut` says so without a word about how the filling searches:
  there is exactly one cut of each template (`exists_cut`, `Cut.unique`), and what is filled
  in is read off its pieces one by one (`Cut.fill_eq`).  So a text that has been put in is
  never looked at, whatever stands in it.

  The cut is also what the facts about whole templates are proved by: a template that cannot
  go on with the last name of another one is filled in by itself (`Cut.fill_append`).
-/
import FormRules.Proofs.Message.Tokens
import Mathlib.Data.List.TakeWhile

namespace FormRules.Template

/-! ### Pieces -/

inductive Piece
  | text (cs : List Char)
  | token (name : List Char)
  deriving DecidableEq, Repr

namespace Piece

/-- What stands in the template. -/
def source : Piece → List Char
  | text cs => cs
  | token name => ':' :: name

/-- What stands in the message. -/
def filled (params : Entries String) : Piece → List Char
  | text cs => cs
  | token name =>
    match params.get? (String.ofList name) with
    | some bound => bound.toList
    | none => ':' :: name

end Piece

/-- A name that a template can ask for. -/
structure IsName (name : List Char) : Prop where
  ne_nil : name ≠ []
  chars : ∀ c ∈ name, isNameChar c = true

/-- A text in which no name stands after a colon. -/
def IsPlain (cs : List Char) : Prop :=
  ∀ before c after, cs = before ++ ':' :: c :: after → isNameChar c = false

/-- A text that goes on with no name. -/
def Stops (cs : List Char) : Prop := ∀ c ∈ cs.head?, isNameChar c = false

/-- The cut of a template at its tokens, from the left. -/
inductive Cut : List Char → List Piece → Prop
  | rest {cs : List Char} (hplain : IsPlain cs) : Cut cs [.text cs]
  | token {before name after : List Char} {pieces : List Piece} (hplain : IsPlain before)
      (hname : IsName name) (hstops : Stops after) (hcut : Cut after pieces) :
      Cut (before ++ ':' :: (name ++ after)) (.text before :: .token name :: pieces)

/-! ### Names and plain texts -/

theorem isNameChar_colon : isNameChar ':' = false := by decide

theorem stops_nil : Stops [] := by
  intro c hc
  cases hc

theorem stops_cons {c : Char} {cs : List Char} : Stops (c :: cs) ↔ isNameChar c = false := by
  constructor
  · intro h
    exact h c rfl
  · intro hc d hd
    obtain rfl := Option.some.inj hd
    exact hc

theorem stops_colon (cs : List Char) : Stops (':' :: cs) := stops_cons.mpr isNameChar_colon

theorem Stops.append {cs : List Char} (h : Stops cs) {later : List Char} (hlater : Stops later) :
    Stops (cs ++ later) := by
  cases cs with
  | nil => exact hlater
  | cons c cs => exact stops_cons.mpr (stops_cons.mp h)

theorem nameOf_eq_nil {cs : List Char} : nameOf cs = [] ↔ Stops cs := by
  cases cs with
  | nil => exact iff_of_true rfl stops_nil
  | cons c cs => cases hc : isNameChar c <;> simp [nameOf, stops_cons, hc]

theorem stops_dropWhile (cs : List Char) : Stops (cs.dropWhile isNameChar) := by
  intro c hc
  have hnot := List.head?_dropWhile_not isNameChar cs
  rw [Option.mem_def.mp hc] at hnot
  exact hnot

theorem IsName.nameOf_append {name after : List Char} (hname : IsName name)
    (hstops : Stops after) : nameOf (name ++ after) = name := by
  have hafter : after.takeWhile isNameChar = [] := nameOf_eq_nil.mpr hstops
  rw [nameOf, List.takeWhile_append_of_pos hname.chars, hafter, List.append_nil]

theorem IsName.dropWhile_append {name after : List Char} (hname : IsName name)
    (hstops : Stops after) : (name ++ after).dropWhile isNameChar = after := by
  have hall := List.takeWhile_append_dropWhile (p := isNameChar) (l := name ++ after)
  rw [← nameOf, hname.nameOf_append hstops] at hall
  exact List.append_cancel_left hall

theorem IsName.colon_notMem {name : List Char} (hname : IsName name) : ':' ∉ name := by
  intro hmem
  have hcolon := hname.chars ':' hmem
  rw [isNameChar_colon] at hcolon
  cases hcolon

theorem isName_nameOf {cs : List Char} (h : ¬Stops cs) : IsName (nameOf cs) where
  ne_nil := mt nameOf_eq_nil.mp h
  chars _ hc := List.mem_takeWhile_imp hc

theorem isPlain_nil : IsPlain [] := by
  intro before c after h
  cases before <;> cases h

theorem isPlain_cons {c : Char} {cs : List Char} :
    IsPlain (c :: cs) ↔ (c = ':' → Stops cs) ∧ IsPlain cs := by
  constructor
  · intro h
    constructor
    · rintro rfl d hd
      obtain ⟨rest, rfl⟩ := List.head?_eq_some_iff.mp hd
      exact h [] d rest rfl
    · rintro before d after rfl
      exact h (c :: before) d after rfl
  · rintro ⟨hfirst, hrest⟩ before d after h
    cases before with
    | nil =>
      obtain ⟨rfl, rfl⟩ := List.cons.inj h
      exact hfirst rfl d rfl
    | cons e before => exact hrest before d after (List.tail_eq_of_cons_eq h)

/-! ### There is one cut -/

/-- A character that begins no token goes to the text in front. -/
theorem Cut.cons {c : Char} {cs : List Char} {pieces : List Piece} (h : Cut cs pieces)
    (hc : c = ':' → Stops cs) : ∃ more, Cut (c :: cs) more := by
  cases h with
  | rest hplain => exact ⟨_, .rest (isPlain_cons.mpr ⟨hc, hplain⟩)⟩
  | @token before name after pieces hplain hname hstops hcut =>
    have hbefore : c = ':' → Stops before := by
      intro hcolon
      have hall := hc hcolon
      cases before with
      | nil => exact stops_nil
      | cons d before => exact stops_cons.mpr (stops_cons.mp hall)
    have htoken := Cut.token (isPlain_cons.mpr ⟨hbefore, hplain⟩) hname hstops hcut
    exact ⟨_, htoken⟩

theorem exists_cut (cs : List Char) : ∃ pieces, Cut cs pieces := by
  -- a name is passed over as a whole, so the tail is not enough
  induction hlength : cs.length using Nat.strong_induction_on generalizing cs with
  | _ n ih =>
    cases cs with
    | nil => exact ⟨_, .rest isPlain_nil⟩
    | cons c cs =>
      simp only [List.length_cons] at hlength
      by_cases hc : c = ':' → Stops cs
      · obtain ⟨pieces, hcut⟩ := ih cs.length (by omega) cs rfl
        exact hcut.cons hc
      · push Not at hc
        obtain ⟨rfl, hname⟩ := hc
        have hshorter := cs.length_dropWhile_le isNameChar
        obtain ⟨pieces, hcut⟩ := ih (cs.dropWhile isNameChar).length (by omega) _ rfl
        have htoken := Cut.token isPlain_nil (isName_nameOf hname) (stops_dropWhile cs) hcut
        rw [nameOf, List.takeWhile_append_dropWhile] at htoken
        exact ⟨_, htoken⟩

theorem IsPlain.stops_before_colon {cs : List Char} (h : IsPlain (':' :: cs)) (rest : List Char) :
    Stops (cs ++ ':' :: rest) :=
  ((isPlain_cons.mp h).1 rfl).append (stops_colon rest)

/-- The first token stands at one place only. -/
theorem IsPlain.eq_of_token {before : List Char} (hplain : IsPlain before) {rest : List Char}
    (hrest : ¬Stops rest) {before' : List Char} (hplain' : IsPlain before') {rest' : List Char}
    (hrest' : ¬Stops rest') (h : before ++ ':' :: rest = before' ++ ':' :: rest') :
    before = before' := by
  induction before generalizing before' with
  | nil =>
    cases before' with
    | nil => rfl
    | cons c before' =>
      obtain ⟨rfl, rfl⟩ := List.cons.inj h
      exact absurd (hplain'.stops_before_colon rest') hrest
  | cons c before ih =>
    cases before' with
    | nil =>
      obtain ⟨rfl, rfl⟩ := List.cons.inj h
      exact absurd (hplain.stops_before_colon rest) hrest'
    | cons d before' =>
      obtain ⟨rfl, htail⟩ := List.cons.inj h
      rw [ih (isPlain_cons.mp hplain).2 (isPlain_cons.mp hplain').2 htail]

theorem IsName.not_stops_append {name : List Char} (hname : IsName name) (after : List Char) :
    ¬Stops (name ++ after) := by
  obtain ⟨c, cs, rfl⟩ := List.exists_cons_of_ne_nil hname.ne_nil
  intro hstops
  have hc := hname.chars c List.mem_cons_self
  rw [stops_cons.mp hstops] at hc
  cases hc

theorem IsPlain.not_token {before name after : List Char}
    (hplain : IsPlain (before ++ ':' :: (name ++ after))) : ¬IsName name := by
  intro hname
  obtain ⟨c, cs, rfl⟩ := List.exists_cons_of_ne_nil hname.ne_nil
  have hc := hplain before c (cs ++ after) rfl
  rw [hname.chars c List.mem_cons_self] at hc
  cases hc

theorem Cut.unique {cs : List Char} {pieces : List Piece} (h : Cut cs pieces) :
    ∀ {pieces' : List Piece}, Cut cs pieces' → pieces = pieces' := by
  induction h with
  | rest hplain =>
    intro pieces' h'
    cases h' with
    | rest => rfl
    | token _ hname => exact absurd hname hplain.not_token
  | @token before name after pieces hplain hname hstops hcut ih =>
    intro pieces' h'
    generalize hcs : before ++ ':' :: (name ++ after) = cs at h'
    cases h' with
    | rest hplain' =>
      subst hcs
      exact absurd hname hplain'.not_token
    | @token before' name' after' pieces' hplain' hname' hstops' hcut' =>
      obtain rfl := hplain.eq_of_token (hname.not_stops_append after) hplain'
        (hname'.not_stops_append after') hcs
      have hrest : name ++ after = name' ++ after' := by simpa using hcs
      have hnames : name = name' := by
        rw [← hname.nameOf_append hstops, hrest, hname'.nameOf_append hstops']
      subst hnames
      obtain rfl := List.append_cancel_left hrest
      rw [ih hcut']

/-! ### Filling -/

theorem fill_cons {c : Char} (hc : c ≠ ':') (params : Entries String) (cs : List Char) :
    fill params (c :: cs) = c :: fill params cs := by
  obtain ⟨front, parts, hsplit, -⟩ := exists_split cs
  simp only [fill, Text.split, if_neg hc, hsplit, List.cons_append]

theorem fill_colon (params : Entries String) {cs : List Char} (hstops : Stops cs) :
    fill params (':' :: cs) = ':' :: fill params cs := by
  obtain ⟨front, parts, hsplit, hname⟩ := exists_split cs
  have hfront : fillPart params front = ':' :: front := by
    rw [fillPart, hname, nameOf_eq_nil.mpr hstops]
    split
    · contradiction
    · rfl
  simp only [fill, Text.split, if_true, hsplit, List.nil_append, List.flatMap_cons, hfront,
    List.cons_append]

theorem fill_plain_append (params : Entries String) {cs : List Char} (hplain : IsPlain cs)
    {later : List Char} (hlater : Stops later) :
    fill params (cs ++ later) = cs ++ fill params later := by
  induction cs with
  | nil => rfl
  | cons c cs ih =>
    obtain ⟨hfirst, hrest⟩ := isPlain_cons.mp hplain
    rw [List.cons_append, List.cons_append, ← ih hrest]
    by_cases hc : c = ':'
    · subst hc
      exact fill_colon params ((hfirst rfl).append hlater)
    · exact fill_cons hc params (cs ++ later)

theorem fill_plain (params : Entries String) {cs : List Char} (hplain : IsPlain cs) :
    fill params cs = cs := by
  have h := fill_plain_append params hplain stops_nil
  rwa [List.append_nil, show fill params [] = [] from rfl, List.append_nil] at h

theorem split_name_append {name : List Char} (hname : ':' ∉ name) {cs front : List Char}
    {parts : List (List Char)} (hsplit : Text.split ':' cs = front :: parts) :
    Text.split ':' (name ++ cs) = (name ++ front) :: parts := by
  induction name with
  | nil => exact hsplit
  | cons c name ih =>
    simp only [List.mem_cons, not_or] at hname
    simp only [List.cons_append, Text.split, if_neg (Ne.symm hname.1), ih hname.2]

theorem fill_token (params : Entries String) {name : List Char} (hname : IsName name)
    {after : List Char} (hstops : Stops after) :
    fill params (':' :: (name ++ after)) =
      (Piece.token name).filled params ++ fill params after := by
  obtain ⟨front, parts, hsplit, hfront⟩ := exists_split after
  have hfront : Stops front := nameOf_eq_nil.mp (hfront.trans (nameOf_eq_nil.mpr hstops))
  have hpart : fillPart params (name ++ front) = (Piece.token name).filled params ++ front := by
    obtain ⟨c, cs, rfl⟩ := List.exists_cons_of_ne_nil hname.ne_nil
    rw [fillPart, hname.nameOf_append hfront, hname.dropWhile_append hfront, Piece.filled]
    cases params.get? (String.ofList (c :: cs)) <;> rfl
  simp only [fill, Text.split, if_true, split_name_append hname.colon_notMem hsplit, hsplit,
    List.nil_append, List.flatMap_cons, hpart, List.append_assoc]

/-! ### Filling and cutting -/

theorem Cut.source_eq {cs : List Char} {pieces : List Piece} (h : Cut cs pieces) :
    pieces.flatMap Piece.source = cs := by
  induction h with
  | rest => exact List.append_nil _
  | token _ _ _ _ ih =>
    rw [List.flatMap_cons, List.flatMap_cons, ih]
    rfl

/-- **A message is the cut template, filled in piece by piece.** -/
theorem Cut.fill_eq (params : Entries String) {cs : List Char} {pieces : List Piece}
    (h : Cut cs pieces) : fill params cs = pieces.flatMap (Piece.filled params) := by
  induction h with
  | rest hplain => rw [fill_plain params hplain, List.flatMap_singleton, Piece.filled]
  | token hplain hname hstops _ ih =>
    rw [fill_plain_append params hplain (stops_colon _), fill_token params hname hstops, ih]
    rfl

theorem Cut.fill_append (params : Entries String) {cs : List Char} {pieces : List Piece}
    (h : Cut cs pieces) {later : List Char} (hlater : Stops later) :
    fill params (cs ++ later) = fill params cs ++ fill params later := by
  induction h with
  | rest hplain => rw [fill_plain_append params hplain hlater, fill_plain params hplain]
  | @token before name after pieces hplain hname hstops hcut ih =>
    calc
      fill params (before ++ ':' :: (name ++ after) ++ later)
      _ = fill params (before ++ ':' :: (name ++ (after ++ later))) := by
        simp only [List.append_assoc, List.cons_append]
      _ = before ++ ((Piece.token name).filled params ++ (fill params after ++ fill params later)) := by
        rw [fill_plain_append params hplain (stops_colon _),
          fill_token params hname (hstops.append hlater), ih]
      _ = fill params (before ++ ':' :: (name ++ after)) ++ fill params later := by
        rw [fill_plain_append params hplain (stops_colon _), fill_token params hname hstops]
        simp only [List.append_assoc]

/-- What is filled in depends on the bound texts of the tokens alone. -/
theorem Cut.fill_congr {params params' : Entries String} {cs : List Char} {pieces : List Piece}
    (h : Cut cs pieces)
    (hsame : ∀ name, Piece.token name ∈ pieces →
      params.get? (String.ofList name) = params'.get? (String.ofList name)) :
    fill params cs = fill params' cs := by
  rw [h.fill_eq params, h.fill_eq params']
  apply List.flatMap_congr
  intro piece hpiece
  cases piece with
  | text => rfl
  | token name => rw [Piece.filled, Piece.filled, hsame name hpiece]

/-- Without a bound token there is nothing to fill in. -/
theorem Cut.fill_of_unbound {params : Entries String} {cs : List Char} {pieces : List Piece}
    (h : Cut cs pieces)
    (hunbound : ∀ name, Piece.token name ∈ pieces → params.get? (String.ofList name) = none) :
    fill params cs = cs := by
  have hkept : ∀ piece ∈ pieces, piece.filled params = piece.source := by
    intro piece hpiece
    cases piece with
    | text => rfl
    | token name => rw [Piece.filled, hunbound name hpiece, Piece.source]
  calc
    fill params cs = pieces.flatMap (Piece.filled params) := h.fill_eq params
    _ = pieces.flatMap Piece.source := List.flatMap_congr hkept
    _ = cs := h.source_eq

theorem Cut.isName_of_token {cs : List Char} {pieces : List Piece} (h : Cut cs pieces)
    {name : List Char} (hmem : Piece.token name ∈ pieces) : IsName name := by
  induction h with
  | rest => simp at hmem
  | token _ hname _ _ ih =>
    simp only [List.mem_cons, reduceCtorEq, Piece.token.injEq, false_or] at hmem
    rcases hmem with rfl | hmem
    · exact hname
    · exact ih hmem

/-! ### The whole template -/

/-- **Substitution is one pass.** A template has one cut at its tokens, the leftmost first and
each as long as it goes. The message is made of the same pieces: a token whose name is bound
is replaced by the bound text, whatever that holds, and all else is copied. -/
theorem substitute_one_pass (template : String) (params : Entries String) :
    (∃! pieces, Cut template.toList pieces) ∧
      (∀ pieces, Cut template.toList pieces →
        pieces.flatMap Piece.source = template.toList ∧
          substitute template params = String.ofList (pieces.flatMap (Piece.filled params)) ∧
          ((∀ name, Piece.token name ∈ pieces → params.get? (String.ofList name) = none) →
            substitute template params = template)) ∧
      ∀ later : String, Stops later.toList →
        substitute (template ++ later) params =
          substitute template params ++ substitute later params := by
  obtain ⟨pieces, hcut⟩ := exists_cut template.toList
  refine ⟨⟨pieces, hcut, fun _ h => h.unique hcut⟩, fun pieces' h => ⟨h.source_eq, ?_, ?_⟩, ?_⟩
  · rw [substitute, h.fill_eq params]
  · intro hunbound
    rw [substitute, h.fill_of_unbound hunbound, String.ofList_toList]
  · intro later hlater
    rw [substitute, String.toList_append, hcut.fill_append params hlater, String.ofList_append]
    rfl

/-- Texts that look like tokens are put in as they are, and a lone colon stays. -/
theorem substitute_one_pass_nested :
    Cut "::a b:c_1:d".toList
        [.text [':'], .token ['a'], .text [' ', 'b'], .token ['c', '_'], .text ['1'],
          .token ['d'], .text []] ∧
      substitute "::a b:c_1:d" [("a", ":c_:"), ("c_", ":a"), ("c", "no")] = "::c_: b:a1:d" ∧
      substitute ("::a b:c_1:d" ++ ":a") [("a", ":c_:"), ("c_", ":a"), ("c", "no")] =
        "::c_: b:a1:d" ++ ":c_:" := by
  have hplain (cs : List Char) (h : ':' ∉ cs.dropLast) : IsPlain cs := by
    rintro before c after rfl
    simp at h
  have hname (c : Char) (cs : List Char) (h : (c :: cs).all isNameChar = true) :
      IsName (c :: cs) := ⟨List.cons_ne_nil c cs, List.all_eq_true.mp h⟩
  have htext : "::a b:c_1:d".toList = [':'] ++ ':' :: (['a'] ++ ([' ', 'b'] ++
      ':' :: (['c', '_'] ++ (['1'] ++ ':' :: (['d'] ++ []))))) := by decide
  have hcut : Cut "::a b:c_1:d".toList
      [.text [':'], .token ['a'], .text [' ', 'b'], .token ['c', '_'], .text ['1'],
        .token ['d'], .text []] := by
    have hlast := Cut.token (hplain ['1'] (by decide)) (hname 'd' [] (by decide)) stops_nil
      (.rest isPlain_nil)
    have hmiddle := Cut.token (hplain [' ', 'b'] (by decide)) (hname 'c' ['_'] (by decide))
      (stops_cons.mpr (by decide)) hlast
    rw [htext]
    exact Cut.token (hplain [':'] (by decide)) (hname 'a' [] (by decide))
      (stops_cons.mpr (by decide)) hmiddle
  obtain ⟨-, hpieces, happend⟩ :=
    substitute_one_pass "::a b:c_1:d" [("a", ":c_:"), ("c_", ":a"), ("c", "no")]
  have hfilled := (hpieces _ hcut).2.1
  have hmessage : substitute "::a b:c_1:d" [("a", ":c_:"), ("c_", ":a"), ("c", "no")] =
      "::c_: b:a1:d" := hfilled.trans (by decide)
  refine ⟨hcut, hmessage, ?_⟩
  rw [happend ":a" (stops_colon _), hmessage]
  decide

end FormRules.Template
