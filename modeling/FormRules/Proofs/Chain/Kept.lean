/-
  FormRules/Proofs/Chain/Kept.lean
  ================================
  **What a cache can answer and what it keeps.**

  Nothing here depends on which chains the cache lets go and when.  It answers with a chain
  that it keeps under an equal key, or with what is built now (`fst_getOrBuild`,
  `mem_of_find?`); and after a request it keeps nothing but what it kept before and the
  answer under the key of the request (`mem_getOrBuild`).  Counting and the order of the
  last use do not touch the chains.
-/
import FormRules.Chain.Cache
import FormRules.Proofs.Chain.Identity

namespace FormRules

theorem ChainKey.beq_iff (k l : ChainKey) :
    (k == l) = true ↔
      k.field = l.field ∧ k.rules.keys = l.rules.keys ∧ k.generation = l.generation := by
  show (k.field == l.field && k.rules == l.rules && k.generation == l.generation) = true ↔ _
  simp only [Bool.and_eq_true, beq_iff_eq, RuleSet.beq_iff, and_assoc]

namespace ChainCache

/-- The cache without some of its chains. -/
def evict (c : ChainCache) (keep : ChainKey → Bool) : ChainCache :=
  { c with chains := c.chains.filter fun e => keep e.1 }

theorem mem_of_mem_evict {c : ChainCache} {keep : ChainKey → Bool} {e : ChainKey × Chain}
    (h : e ∈ (c.evict keep).chains) : e ∈ c.chains :=
  (List.mem_filter.mp h).1

theorem mem_of_find? {c : ChainCache} {key : ChainKey} {chain : Chain}
    (h : c.find? key = some chain) : ∃ k, (k, chain) ∈ c.chains ∧ (k == key) = true := by
  obtain ⟨⟨k, d⟩, hfind, rfl⟩ := Option.map_eq_some_iff.mp h
  have hkey : (k == key) = true := by simpa using List.find?_some hfind
  exact ⟨k, List.mem_of_find?_eq_some hfind, hkey⟩

/-! ### What stays -/

@[simp] theorem chains_ask (c : ChainCache) (key : ChainKey) : (c.ask key).chains = c.chains := rfl

@[simp] theorem chains_settle (c : ChainCache) : c.settle.chains = c.chains := by
  unfold settle
  split <;> rfl

theorem mem_touch {c : ChainCache} {key : ChainKey} {chain : Chain} {e : ChainKey × Chain}
    (h : e ∈ (c.touch key chain).chains) : e ∈ c.chains ∨ e = (key, chain) := by
  rcases List.mem_append.mp h with hold | hnew
  · exact Or.inl (List.mem_filter.mp hold).1
  · exact Or.inr (List.mem_singleton.mp hnew)

theorem mem_accept {c : ChainCache} {key : ChainKey} {chain : Chain} {e : ChainKey × Chain}
    (h : e ∈ (c.accept key chain).chains) : e ∈ c.chains ∨ e = (key, chain) := by
  unfold accept at h
  by_cases hroom : c.size < c.capacity
  · rw [if_pos hroom] at h
    simpa using h
  · rw [if_neg hroom] at h
    rcases hchains : c.chains with _ | ⟨⟨oldest, d⟩, rest⟩
    · rw [hchains] at h
      exact absurd h (by simp [hchains])
    · simp only [hchains] at h
      by_cases hcount : c.count oldest < c.count key
      · rw [if_pos hcount] at h
        rcases List.mem_append.mp h with hold | hnew
        · exact Or.inl (List.mem_cons_of_mem _ hold)
        · exact Or.inr (List.mem_singleton.mp hnew)
      · rw [if_neg hcount, hchains] at h
        exact Or.inl h

/-! ### Requests -/

section Requests

variable (c : ChainCache) (key : ChainKey) (build : Unit → Except Error Chain)

theorem fst_getOrBuild :
    (c.getOrBuild key build).1 =
      match c.find? key with
      | some chain => .ok chain
      | none => build () := by
  unfold getOrBuild
  cases c.find? key with
  | some chain => rfl
  | none => cases build () <;> rfl

variable {c key build}

theorem mem_getOrBuild {e : ChainKey × Chain} (h : e ∈ (c.getOrBuild key build).2.chains) :
    e ∈ c.chains ∨ e.1 = key ∧ (c.getOrBuild key build).1 = .ok e.2 := by
  rw [fst_getOrBuild]
  unfold getOrBuild at h
  cases hfind : c.find? key with
  | some chain =>
    simp only [hfind, chains_settle] at h
    rcases mem_touch h with hold | rfl
    · exact Or.inl hold
    · exact Or.inr ⟨rfl, rfl⟩
  | none =>
    cases hbuild : build () with
    | ok chain =>
      simp only [hfind, hbuild, chains_settle] at h
      rcases mem_accept h with hold | rfl
      · exact Or.inl hold
      · exact Or.inr ⟨rfl, rfl⟩
    | error err =>
      simp only [hfind, hbuild, chains_settle, chains_ask] at h
      exact Or.inl h

end Requests

end ChainCache

end FormRules
