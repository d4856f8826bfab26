/-
  FormRules/Entries.lean
  ======================
  **Ordered maps from names.**

  Records, rule sets, message catalogues and registries all remember the order in
  which their names were first written.  Such a map is a list of pairs: writing a
  name that is present replaces its value where it stands, a new name goes to the
  end, and removing a name closes the gap.  Lookup finds the first pair of a name,
  so a list whose names repeat still has one meaning; `ofList` makes one whose
  names do not.
-/
namespace FormRules

/-- A map from names in the order of their first writing. -/
abbrev Entries (α : Type) := List (String × α)

namespace Entries

variable {α β : Type}

/-- The value of a name. -/
def get? : Entries α → String → Option α
  | [], _ => none
  | (k, v) :: rest, name => if k = name then some v else get? rest name

/-- Whether a name is present. -/
def has (m : Entries α) (name : String) : Bool := (get? m name).isSome

/-- The names in order. -/
def names (m : Entries α) : List String := m.map (·.1)

/-- The values in order. -/
def values (m : Entries α) : List α := m.map (·.2)

/-- Write a value: in place if the name is present, otherwise at the end. -/
def insert : Entries α → String → α → Entries α
  | [], name, v => [(name, v)]
  | (k, w) :: rest, name, v =>
    if k = name then (k, v) :: rest else (k, w) :: insert rest name v

/-- Remove a name; the others keep their order. -/
def erase (m : Entries α) (name : String) : Entries α := m.filter fun e => e.1 != name

/-- Keep the entries whose name satisfies a test. -/
def only (m : Entries α) (keep : String → Bool) : Entries α := m.filter fun e => keep e.1

/-- Write a list of pairs one after the other. -/
def insertAll (m : Entries α) (pairs : List (String × α)) : Entries α :=
  pairs.foldl (fun m e => insert m e.1 e.2) m

/-- The map of a list of pairs: each name has its first place and its last value. -/
def ofList (pairs : List (String × α)) : Entries α := insertAll [] pairs

/-- Change every value, keeping names and order. -/
def mapValues (f : α → β) (m : Entries α) : Entries β := m.map fun e => (e.1, f e.2)

/-! ### Lookup after each operation -/

@[simp] theorem get?_nil (name : String) : get? ([] : Entries α) name = none := rfl

theorem get?_insert (m : Entries α) (name : String) (v : α) (other : String) :
    get? (insert m name v) other = if name = other then some v else get? m other := by
  induction m with
  | nil => simp [insert, get?]
  | cons e rest ih =>
    obtain ⟨k, w⟩ := e
    by_cases hk : k = name
    · by_cases ho : name = other <;> simp_all [insert, get?]
    · by_cases ho : k = other
      · have : name ≠ other := fun h => hk (h ▸ ho)
        simp_all [insert, get?]
      · simp_all [insert, get?]

theorem get?_erase (m : Entries α) (name other : String) :
    get? (erase m name) other = if name = other then none else get? m other := by
  induction m with
  | nil => simp [erase, get?]
  | cons e rest ih =>
    obtain ⟨k, w⟩ := e
    simp only [erase] at ih
    by_cases hk : k = name
    · by_cases ho : name = other <;> simp_all [erase, get?]
    · by_cases ho : k = other
      · have : name ≠ other := fun h => hk (h ▸ ho)
        simp_all [erase, get?]
      · simp_all [erase, get?]

end Entries

end FormRules
