/-
  FormRules/Proofs/Value/Tidy.lean
  ================================
  **Tidying twice is tidying once.**

  Trimming and capitalizing a value leave nothing to trim, and what has been capitalized
  stays so.  Whichever of the two come one after the other, all of them can be left out when
  the result is tidied again (`Value.fixed_tidy`).  A tidied value is empty just if the value
  is.
-/
import FormRules.Check.Sanitizing
import FormRules.Proofs.Text.Pieces
import FormRules.Value.Presence

namespace FormRules

/-! ### Capital letters -/

namespace Check

/-- The character that stands for one in a capitalized text. -/
def capital (inWord : Bool) (c : Char) : Char :=
  if !inWord && 'a' ≤ c && c ≤ 'z' then c.toUpper else c

variable (inWord : Bool) (c : Char)

theorem capital_cases :
    capital inWord c = c ∨ inWord = false ∧ 'a' ≤ c ∧ c ≤ 'z' ∧ capital inWord c = c.toUpper := by
  unfold capital
  split
  · next h =>
    simp only [Bool.and_eq_true, Bool.not_eq_true', decide_eq_true_eq] at h
    exact Or.inr ⟨h.1.1, h.1.2, h.2, rfl⟩
  · exact Or.inl rfl

theorem isBlank_capital : Text.isBlank (capital inWord c) = Text.isBlank c := by
  rcases capital_cases inWord c with h | ⟨-, hfrom, hto, h⟩
  · rw [h]
  · rw [h]
    exact Text.of_small (P := fun c => Text.isBlank c.toUpper = Text.isBlank c) (by decide) hfrom hto

theorem isWordChar_capital : Text.isWordChar (capital inWord c) = Text.isWordChar c := by
  rcases capital_cases inWord c with h | ⟨-, hfrom, hto, h⟩
  · rw [h]
  · rw [h]
    exact Text.of_small (P := fun c => Text.isWordChar c.toUpper = Text.isWordChar c) (by decide)
      hfrom hto

theorem capital_capital : capital inWord (capital inWord c) = capital inWord c := by
  rcases capital_cases inWord c with h | ⟨rfl, hfrom, hto, h⟩
  · rw [h, h]
  · rw [h]
    exact Text.of_small (P := fun c => capital false c.toUpper = c.toUpper) (by decide) hfrom hto

theorem capitalizeWords_cons (rest : List Char) :
    capitalizeWords inWord (c :: rest) =
      capital inWord c :: capitalizeWords (Text.isWordChar c) rest := rfl

theorem capitalizeWords_capitalizeWords (cs : List Char) :
    capitalizeWords inWord (capitalizeWords inWord cs) = capitalizeWords inWord cs := by
  induction cs generalizing inWord with
  | nil => rfl
  | cons c rest ih =>
    simp only [capitalizeWords_cons, capital_capital, isWordChar_capital, ih]

/-- Capital letters change nothing about where the blanks are. -/
theorem map_isBlank_capitalizeWords (cs : List Char) :
    (capitalizeWords inWord cs).map Text.isBlank = cs.map Text.isBlank := by
  induction cs generalizing inWord with
  | nil => rfl
  | cons c rest ih => simp only [capitalizeWords_cons, List.map_cons, isBlank_capital, ih]

end Check

namespace Text

/-- Whether a text is tight can be told from where its blanks are. -/
theorem tight_of_map_isBlank {cs ds : List Char} (h : cs.map isBlank = ds.map isBlank)
    (hds : Tight ds) : Tight cs where
  head c hc := by
    have hhead := congrArg List.head? h
    rw [List.head?_map, List.head?_map, Option.mem_def.mp hc] at hhead
    obtain ⟨d, hd, hblank⟩ := Option.map_eq_some_iff.mp hhead.symm
    rw [← hblank]
    exact hds.head d hd
  last c hc := by
    have hlast := congrArg List.getLast? h
    rw [List.getLast?_map, List.getLast?_map, Option.mem_def.mp hc] at hlast
    obtain ⟨d, hd, hblank⟩ := Option.map_eq_some_iff.mp hlast.symm
    rw [← hblank]
    exact hds.last d hd

theorem all_isBlank_of_map {cs ds : List Char} (h : cs.map isBlank = ds.map isBlank) :
    cs.all isBlank = ds.all isBlank := by
  have hall (es : List Char) : es.all isBlank = (es.map isBlank).all id := by
    rw [List.all_map]
    rfl
  rw [hall, hall, h]

end Text

namespace Value

/-! ### Trimming -/

mutual
theorem trimDeep_trimDeep : ∀ v : Value, v.trimDeep.trimDeep = v.trimDeep
  | .null => rfl
  | .bool _ => rfl
  | .number _ => rfl
  | .string s => by
    rw [trimDeep, trimDeep, Text.trimmed, Text.trimmed, String.toList_ofList,
      (Text.tight_trim _).trim_eq]
  | .array items => by rw [trimDeep, trimDeep, trimItems_trimItems items]
  | .object members => by rw [trimDeep, trimDeep, trimMembers_trimMembers members]

theorem trimItems_trimItems : ∀ items : List Value, trimItems (trimItems items) = trimItems items
  | [] => rfl
  | v :: rest => by rw [trimItems, trimItems, trimDeep_trimDeep v, trimItems_trimItems rest]

theorem trimMembers_trimMembers : ∀ members : List (String × Value),
    trimMembers (trimMembers members) = trimMembers members
  | [] => rfl
  | (name, v) :: rest => by
    rw [trimMembers, trimMembers, trimDeep_trimDeep v, trimMembers_trimMembers rest]
end

theorem isEmpty_trimDeep (v : Value) : v.trimDeep.isEmpty = v.isEmpty := by
  cases v with
  | null | bool _ | number _ => rfl
  | string s =>
    simp only [trimDeep, isEmpty, Text.isBlankText, Text.trimmed, String.toList_ofList,
      Text.all_isBlank_trim]
  | array items => cases items <;> simp [trimDeep, trimItems, isEmpty]
  | object members => cases members <;> simp [trimDeep, trimMembers, isEmpty]

/-! ### Capitalizing -/

/-- What capitalizing makes of a value: a text is trimmed and given its capital letters, any
    other value is trimmed. -/
def titled : Value → Value
  | .string t => .string (String.ofList (Check.capitalizeWords false (Text.trim t.toList)))
  | v => v.trimDeep

theorem tight_capitalizeWords (cs : List Char) :
    Text.Tight (Check.capitalizeWords false (Text.trim cs)) :=
  Text.tight_of_map_isBlank (Check.map_isBlank_capitalizeWords false _) (Text.tight_trim cs)

theorem trimDeep_titled (v : Value) : v.titled.trimDeep = v.titled := by
  cases v with
  | string t =>
    rw [titled, trimDeep, Text.trimmed, String.toList_ofList, (tight_capitalizeWords _).trim_eq]
  | null | bool _ | number _ | array _ | object _ => exact trimDeep_trimDeep _

theorem titled_titled (v : Value) : v.titled.titled = v.titled := by
  cases v with
  | string t =>
    rw [titled, titled, String.toList_ofList, (tight_capitalizeWords _).trim_eq,
      Check.capitalizeWords_capitalizeWords]
  | null | bool _ | number _ => rfl
  | array items => exact trimDeep_trimDeep (.array items)
  | object members => exact trimDeep_trimDeep (.object members)

theorem isEmpty_titled (v : Value) : v.titled.isEmpty = v.isEmpty := by
  cases v with
  | string t =>
    simp only [titled, isEmpty, Text.isBlankText, String.toList_ofList,
      Text.all_isBlank_of_map (Check.map_isBlank_capitalizeWords _ _), Text.all_isBlank_trim]
  | null | bool _ | number _ | array _ | object _ => exact isEmpty_trimDeep _

/-! ### Tidying -/

/-- What a sanitizer makes of a value, where `title` asks for capital letters. -/
def tidy (title : Bool) (v : Value) : Value := if title then v.titled else v.trimDeep

theorem tidy_tidy (title : Bool) (v : Value) : (v.tidy title).tidy title = v.tidy title := by
  cases title
  · exact trimDeep_trimDeep v
  · exact titled_titled v

/-- **What one sanitizer leaves alone it still leaves alone after another.** -/
theorem fixed_tidy {title : Bool} {v : Value} (h : v.tidy title = v) (other : Bool) :
    (v.tidy other).tidy title = v.tidy other := by
  cases title with
  | false =>
    cases other
    · exact trimDeep_trimDeep v
    · exact trimDeep_titled v
  | true =>
    cases other with
    | true => exact titled_titled v
    | false =>
      -- a value that keeps its capital letters has nothing to trim
      have htitled : v.titled = v := h
      have htrimmed : v.trimDeep = v := by
        rw [← htitled, trimDeep_titled]
      exact (congrArg titled htrimmed).trans (htitled.trans htrimmed.symm)

theorem isEmpty_tidy (title : Bool) (v : Value) : (v.tidy title).isEmpty = v.isEmpty := by
  cases title
  · exact isEmpty_trimDeep v
  · exact isEmpty_titled v

/-- What several sanitizers make of a value, one after the other. -/
def tidied (titles : List Bool) (v : Value) : Value := titles.foldl (fun v title => v.tidy title) v

theorem fixed_tidied {title : Bool} {v : Value} (h : v.tidy title = v) (titles : List Bool) :
    (v.tidied titles).tidy title = v.tidied titles := by
  induction titles generalizing v with
  | nil => exact h
  | cons first rest ih => exact ih (fixed_tidy h first)

/-- Each of the sanitizers leaves the result alone. -/
theorem tidy_tidied {title : Bool} {titles : List Bool} (h : title ∈ titles) (v : Value) :
    (v.tidied titles).tidy title = v.tidied titles := by
  induction titles generalizing v with
  | nil => cases h
  | cons first rest ih =>
    rcases List.mem_cons.mp h with rfl | hrest
    · exact fixed_tidied (tidy_tidy title v) rest
    · exact ih hrest _

theorem tidied_of_fixed {titles : List Bool} {v : Value} (h : ∀ title ∈ titles, v.tidy title = v) :
    v.tidied titles = v := by
  induction titles with
  | nil => rfl
  | cons first rest ih =>
    have hfirst : v.tidied (first :: rest) = (v.tidy first).tidied rest := rfl
    rw [hfirst, h first List.mem_cons_self]
    exact ih fun title htitle => h title (List.mem_cons_of_mem _ htitle)

theorem tidied_tidied (titles : List Bool) (v : Value) :
    (v.tidied titles).tidied titles = v.tidied titles :=
  tidied_of_fixed fun _ htitle => tidy_tidied htitle v

theorem isEmpty_tidied (titles : List Bool) (v : Value) :
    (v.tidied titles).isEmpty = v.isEmpty := by
  induction titles generalizing v with
  | nil => rfl
  | cons first rest ih => exact (ih (v.tidy first)).trans (isEmpty_tidy first v)

end Value

end FormRules
