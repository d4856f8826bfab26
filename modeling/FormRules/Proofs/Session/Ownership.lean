/-
  FormRules/Proofs/Session/Ownership.lean
  =======================================
  **A registration owns the messages of its rule.**

  A rule that is registered has exactly its own messages from then on, whatever its name has
  had before, and a rule that is removed has none.  A registration that is refused, and a
  removal of a name that is not registered, leave the session as it is
  (`registration_owns_messages`).

  Both are about one name, which is never a built-in one: such a name is refused, and since it
  cannot be registered it is not there to be removed.  So however rules are registered and
  removed, the built-in ones keep handler, category and texts (`KeepsBuiltins`).
-/
import FormRules.Proofs.Message.Library
import FormRules.Proofs.Registry.History
import FormRules.Proofs.Session.Parameters

namespace FormRules

namespace Session

/-- The templates that the tables of a session have for a rule in a locale. -/
def templates? (s : Session) (locale rule : String) : Option Message.Templates :=
  s.setup.resolver.library.entry? locale rule

/-! ### One name -/

section OneName

variable {s t : Session} {name : String} {d : RuleDescriptor}

theorem register_eq_ok (h : s.register name d = (.ok (), t)) :
    Builtin.ofName? name = none ∧
      t.setup.registry = ⟨s.setup.registry.categories.assign name d.category,
        s.setup.registry.handlers.insert name d.handler, s.setup.registry.generation + 1⟩ ∧
      t.setup.resolver.library = s.setup.resolver.library.setRule name
        (d.messagesByLocale s.setup.resolver.systemLocale) := by
  rcases hregister : s.setup.registry.register name d with e | r
  · simp only [register, hregister] at h
    cases h
  · simp only [register, hregister] at h
    obtain ⟨hcustom, rfl⟩ := Registry.register_eq_ok hregister
    cases h
    exact ⟨hcustom, rfl, rfl⟩

/-- A registration that is refused changes nothing. -/
theorem register_eq_error {e : Error} (h : s.register name d = (.error e, t)) : t = s := by
  rcases hregister : s.setup.registry.register name d with e' | r
  · simp only [register, hregister] at h
    cases h
    rfl
  · simp only [register, hregister] at h
    cases h

theorem remove_eq_true (h : s.remove name = (true, t)) :
    s.setup.registry.has name = true ∧
      t.setup.registry = ⟨s.setup.registry.categories.release name,
        s.setup.registry.handlers.erase name, s.setup.registry.generation + 1⟩ ∧
      t.setup.resolver.library = s.setup.resolver.library.removeRule name := by
  rcases hremove : s.setup.registry.remove? name with _ | r
  · simp only [remove, hremove] at h
    cases h
  · simp only [remove, hremove] at h
    obtain ⟨hhas, rfl⟩ := Registry.remove?_eq_some hremove
    cases h
    exact ⟨hhas, rfl, rfl⟩

/-- A name that is not registered cannot be removed, and nothing changes. -/
theorem remove_eq_false (h : s.remove name = (false, t)) : t = s := by
  rcases hremove : s.setup.registry.remove? name with _ | r
  · simp only [remove, hremove] at h
    cases h
    rfl
  · simp only [remove, hremove] at h
    cases h

/-- What tables have after a registration. -/
theorem templates?_register (h : s.register name d = (.ok (), t)) (locale rule : String) :
    t.templates? locale rule =
      if name = rule then (d.messageFor? s.setup.resolver.systemLocale locale).map .text
      else s.templates? locale rule := by
  obtain ⟨-, -, hlibrary⟩ := register_eq_ok h
  rw [templates?, hlibrary, Message.Library.entry?_setRule, RuleDescriptor.get?_messagesByLocale]
  rfl

/-- What tables have after a removal. -/
theorem templates?_remove (h : s.remove name = (true, t)) (locale rule : String) :
    t.templates? locale rule = if name = rule then none else s.templates? locale rule := by
  obtain ⟨-, -, hlibrary⟩ := remove_eq_true h
  rw [templates?, hlibrary, Message.Library.entry?_removeRule]
  rfl

end OneName

/-! ### Built-in rules -/

/-- Two sessions that agree in what is known of built-in rules: handlers, categories, texts. -/
structure KeepsBuiltins (t s : Session) : Prop where
  handler : ∀ b : Builtin,
    t.setup.registry.handler? b.name = s.setup.registry.handler? b.name
  category : ∀ b : Builtin,
    t.setup.registry.category b.name = s.setup.registry.category b.name
  texts : ∀ (b : Builtin) (locale : String), t.templates? locale b.name = s.templates? locale b.name

namespace KeepsBuiltins

variable {s t u : Session}

theorem refl (s : Session) : s.KeepsBuiltins s :=
  ⟨fun _ => rfl, fun _ => rfl, fun _ _ => rfl⟩

theorem trans (hu : u.KeepsBuiltins t) (ht : t.KeepsBuiltins s) : u.KeepsBuiltins s where
  handler b := (hu.handler b).trans (ht.handler b)
  category b := (hu.category b).trans (ht.category b)
  texts b locale := (hu.texts b locale).trans (ht.texts b locale)

theorem ne_name {name : String} (h : Builtin.ofName? name = none) (b : Builtin) :
    name ≠ b.name := by
  rintro rfl
  rw [Builtin.ofName?_name] at h
  cases h

theorem register (s : Session) (name : String) (d : RuleDescriptor) :
    (s.register name d).2.KeepsBuiltins s := by
  rcases h : s.register name d with ⟨e | _, t⟩
  · rw [register_eq_error h]
    exact .refl s
  · obtain ⟨hcustom, hregistry, -⟩ := register_eq_ok h
    constructor
    · intro b
      rw [hregistry, Registry.handler?, Entries.get?_insert, if_neg (ne_name hcustom b)]
      rfl
    · intro b
      rw [hregistry, Registry.category, CategoryTable.category_assign,
        if_neg (ne_name hcustom b).symm]
      rfl
    · intro b locale
      rw [templates?_register h, if_neg (ne_name hcustom b)]

theorem registerAll (s : Session) (ds : List (String × RuleDescriptor)) :
    (s.registerAll ds).2.KeepsBuiltins s := by
  refine registerAll_induction (P := fun t => t.KeepsBuiltins s) ?_ (.refl s) ds
  intro t name d ht
  exact (register t name d).trans ht

/-- A built-in name that is not registered is not removed either. -/
theorem remove (hs : ∀ b : Builtin, s.setup.registry.handler? b.name = none) (name : String) :
    (s.remove name).2.KeepsBuiltins s := by
  rcases h : s.remove name with ⟨_ | _, t⟩
  · rw [remove_eq_false h]
    exact .refl s
  · obtain ⟨hhas, hregistry, -⟩ := remove_eq_true h
    have hne (b : Builtin) : name ≠ b.name := by
      rintro rfl
      have hnone : s.setup.registry.has b.name = false := congrArg Option.isSome (hs b)
      rw [hnone] at hhas
      cases hhas
    constructor
    · intro b
      rw [hregistry, Registry.handler?, Entries.get?_erase, if_neg (hne b)]
      rfl
    · intro b
      rw [hregistry, Registry.category, CategoryTable.category_release, if_neg (hne b).symm]
      rfl
    · intro b locale
      rw [templates?_remove h, if_neg (hne b)]

end KeepsBuiltins

/-- Operations that register and remove rules. -/
def Operation.registers : Operation → Bool
  | .register _ _ | .registerBatch _ | .remove _ => true
  | _ => false

theorem KeepsBuiltins.perform {s : Session}
    (hs : ∀ b : Builtin, s.setup.registry.handler? b.name = none) {op : Operation}
    (hop : op.registers = true) : (s.perform op).KeepsBuiltins s := by
  cases op with
  | register name d => exact .register s name d
  | registerBatch batch => exact .registerAll s batch.pairs
  | remove name => exact .remove hs name
  | _ => cases hop

theorem KeepsBuiltins.foldl_perform {s : Session}
    (hs : ∀ b : Builtin, s.setup.registry.handler? b.name = none) (ops : List Operation)
    (hops : ∀ op ∈ ops, op.registers = true) : (ops.foldl Session.perform s).KeepsBuiltins s := by
  induction ops generalizing s with
  | nil => exact .refl s
  | cons op rest ih =>
    have hfirst := KeepsBuiltins.perform hs (hops op List.mem_cons_self)
    have hnone (b : Builtin) : (s.perform op).setup.registry.handler? b.name = none :=
      (hfirst.handler b).trans (hs b)
    have hrest := ih hnone fun op hop => hops op (List.mem_cons_of_mem _ hop)
    exact hrest.trans hfirst

/-- Built-in names are never registered. -/
theorem Reachable.handler?_builtin {s : Session} (hs : s.Reachable) (b : Builtin) :
    s.setup.registry.handler? b.name = none := by
  by_contra hregistered
  obtain ⟨h, hh⟩ := Option.ne_none_iff_exists'.mp hregistered
  have hcustom := Registry.ofName?_of_handler? hs.registry hh
  rw [Builtin.ofName?_name] at hcustom
  cases hcustom

/-! ### Registrations and removals -/

/-- **A registration owns the messages of its rule.** After it the tables have under the name
    just what the rule says for each locale, after a removal they have nothing, and other names
    keep their entries. What is refused changes nothing. So registrations and removals leave the
    built-in rules as they are. -/
theorem registration_owns_messages (s : Session) (name : String) (d : RuleDescriptor) :
    (∀ t, s.register name d = (.ok (), t) →
      (∀ locale, t.templates? locale name =
        (d.messageFor? s.setup.resolver.systemLocale locale).map .text) ∧
      ∀ other, name ≠ other → ∀ locale, t.templates? locale other = s.templates? locale other) ∧
    (∀ e t, s.register name d = (.error e, t) → t = s) ∧
    (∀ t, s.remove name = (true, t) →
      (∀ locale, t.templates? locale name = none) ∧
      ∀ other, name ≠ other → ∀ locale, t.templates? locale other = s.templates? locale other) ∧
    (∀ t, s.remove name = (false, t) → t = s) ∧
    (s.Reachable → ∀ ops : List Operation, (∀ op ∈ ops, op.registers = true) →
      (ops.foldl perform s).KeepsBuiltins s) := by
  refine ⟨?_, ?_, ?_, ?_, ?_⟩
  · intro t h
    constructor
    · intro locale
      rw [templates?_register h, if_pos rfl]
    · intro other hother locale
      rw [templates?_register h, if_neg hother]
  · intro e t h
    exact register_eq_error h
  · intro t h
    constructor
    · intro locale
      rw [templates?_remove h, if_pos rfl]
    · intro other hother locale
      rw [templates?_remove h, if_neg hother]
  · intro t h
    exact remove_eq_false h
  · intro hs ops hops
    exact .foldl_perform hs.handler?_builtin ops hops

/-- A rule with a message for French. -/
def french : RuleDescriptor := ⟨none, strict, none, [("fr", "Pas un slug.")], none⟩

/-- A rule with a default message. -/
def english : RuleDescriptor := ⟨none, lenient, some "Not a slug.", [], none⟩

/-- A message of a rule goes when the rule is registered again without it. -/
theorem registration_owns_messages_slug :
    let once := (bare.register "slug" french).2
    let again := (once.register "slug" english).2
    once.templates? "fr" "slug" = some (.text "Pas un slug.") ∧
      again.templates? "fr" "slug" = none ∧
      again.templates? "en" "slug" = some (.text "Not a slug.") ∧
      (∀ locale, (again.remove "slug").2.templates? locale "slug" = none) ∧
      (again.register "required" english).2 = again ∧ (again.remove "required").2 = again ∧
      (∀ locale, again.templates? locale "required" = bare.templates? locale "required") := by
  intro once again
  have hfirst := registration_owns_messages bare "slug" french
  have hsecond := registration_owns_messages once "slug" english
  have hthird := registration_owns_messages again "slug" english
  have hrefused := registration_owns_messages again "required" english
  have hkept := hfirst.2.2.2.2 reachable_bare [.register "slug" french, .register "slug" english]
    (by simp [Operation.registers])
  refine ⟨?_, ?_, ?_, ?_, ?_, ?_, ?_⟩
  · exact ((hfirst.1 once rfl).1 "fr").trans rfl
  · exact ((hsecond.1 again rfl).1 "fr").trans rfl
  · exact ((hsecond.1 again rfl).1 "en").trans rfl
  · exact (hthird.2.2.1 _ rfl).1
  · exact hrefused.2.1 _ _ rfl
  · exact hrefused.2.2.2.1 _ rfl
  · exact hkept.texts .required

end Session

end FormRules
