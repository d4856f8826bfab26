/-
  FormRules/Proofs/Session/Frozen.lean
  ====================================
  **The value of an attribute that has failed.**

  A step that fails its own attribute is the last one of the attribute, and nobody else writes
  the value.  So the value stays (`error_freezes_iff`).

  If a confirmation of another attribute has failed it, its own chain may still come.  No step
  of it is executed, but before its first step the value has taken on its type: without a
  datatype rule a text that reads as a number becomes this number.  This is
  the only way in which the value changes after the error, and it does happen
  (`error_not_freezes`).
-/
import FormRules.Proofs.Session.Extent

namespace FormRules

namespace Setup

variable (u : Setup) (declared : Option String)

theorem get?_settle (field : String) (l : Ledger) :
    (u.settle declared field l).2.record.get? field =
      (u.settled declared (l.record.get? field)).2 := by
  rw [settle_eq_settled, Ledger.get?_put, settled_or]

/-- Only a value without a declared type changes, if it reads as a number that it is not. -/
theorem settled_eq_self_iff (value : Option Value) :
    (u.settled declared value).2 = value ↔
      (declared = none →
        ∀ x, value.bind Value.binary64? = some x → value = some (.ofBinary64 x)) := by
  rcases declared with _ | rule
  · rcases value with _ | v
    · simp [settled, infer]
    · rcases hread : v.binary64? with _ | x
      · simp [settled, infer, Inference.ofValue, hread]
      · simp [settled_of_binary64? u hread, hread, eq_comm]
  · simp [settled, infer]

end Setup

/-- An attribute has a value after each of some steps, and in the end. -/
def Ledger.Keeps (l : Ledger) (a : String) (value : Option Value) (events : List Event) : Prop :=
  (∀ ev ∈ events, ev.after.record.get? a = value) ∧ l.record.get? a = value

/-- A value that is never changed is the one after any of the steps. -/
theorem Ledger.Keeps.after {l : Ledger} {a : String} {value : Option Value}
    {before later : List Event} {ev : Event} (h : l.Keeps a value (before ++ ev :: later)) :
    l.Keeps a (ev.after.record.get? a) later := by
  obtain ⟨hlater, hleft⟩ := h
  rw [List.forall_mem_append, List.forall_mem_cons] at hlater
  obtain ⟨-, hev, hlater⟩ := hlater
  rw [hev]
  exact ⟨hlater, hleft⟩

theorem exists_of_append_eq {α : Type} {xs ys before later : List α} {x : α}
    (h : xs ++ ys = before ++ x :: later) :
    (∃ first, xs = before ++ x :: first ∧ later = first ++ ys) ∨
      ∃ first, before = xs ++ first ∧ ys = first ++ x :: later := by
  rcases List.append_eq_append_iff.mp h with ⟨first, hbefore, hys⟩ | ⟨first, hxs, hlater⟩
  · exact Or.inr ⟨first, hbefore, hys⟩
  · cases first with
    | nil => exact Or.inr ⟨[], by simpa using hxs.symm, hlater.symm⟩
    | cons y first =>
      obtain ⟨rfl, rfl⟩ := List.cons.inj hlater
      exact Or.inl ⟨first, hxs, rfl⟩

namespace Session

variable {s : Session} {now : Int} {a : String} {c : Chain} {fields : List String} {v : Visit}
  {rest before later : List Event} {ev : Event}

/-- A visit of a closed attribute executes nothing, but settles its value. -/
theorem Sound.get?_visit_of_isClosed (hs : s.Sound) (hchain : (s.chain a).1 = .ok (some c))
    (hclosed : s.ledger.isClosed a = true) (now : Int) :
    (s.visit now a).session.ledger.record.get? a =
      (s.setup.settled c.datatype? (s.ledger.record.get? a)).2 := by
  obtain ⟨t, l, hl, -, hledger, -⟩ := hs.visit_of_chain hchain now
  rw [hledger, Setup.walk_of_isClosed]
  · rw [hl, Setup.get?_settle]
  · rw [hl, Setup.isClosed_settle, hclosed]

namespace Cut

/-- After the visit nobody writes the value of the attribute. -/
theorem keeps_later (h : s.Cut now fields a v rest) :
    (s.visitAll now fields).session.ledger.Keeps a
      ((v.session.visit now a).session.ledger.record.get? a) rest :=
  ⟨fun e he => (h.later e he).2, h.left⟩

/-- The attribute has been failed before its visit: then the visit settles its value. -/
theorem failed_before (h : s.Cut now fields a v rest) (hs : v.session.Sound)
    (hchain : (v.session.chain a).1 = .ok (some c))
    (hclosed : v.session.ledger.isClosed a = true) {first : List Event}
    (hevents : v.events = before ++ ev :: first) :
    (s.visitAll now fields).events = before ++ ev :: (first ++ rest) ∧
      (∀ e ∈ first, e.after.record.get? a = ev.after.record.get? a) ∧
      (s.visitAll now fields).session.ledger.Keeps a
        (v.session.setup.settled c.datatype? (ev.after.record.get? a)).2 rest := by
  have hvalue {e : Event} (he : e ∈ v.events) :
      e.after.record.get? a = s.ledger.record.get? a := (h.before e he).2
  have hev : ev ∈ v.events := by simp [hevents]
  have hsettled := hs.get?_visit_of_isClosed hchain hclosed now
  rw [h.arrived, ← hvalue hev] at hsettled
  refine ⟨?_, ?_, hsettled ▸ h.keeps_later⟩
  · rw [h.events, hs.visit_of_isClosed hchain hclosed, hevents]
    simp
  · intro e he
    rw [hvalue hev]
    exact hvalue (by simp [hevents, he])

/-- The attribute has been failed in its visit or after it: then nobody writes its value. A
    step of its own that fails it is the last one of the visit. -/
theorem keeps_of_failed (h : s.Cut now fields a v rest) (hs : v.session.Sound)
    (hr : v.session.setup.registry.Sound) {first : List Event}
    (hevents : (v.session.visit now a).events ++ rest = first ++ ev :: later)
    (herror : ev.FailsOwn ∧ ev.field = a ∨ ev.FailsOn a) :
    (s.visitAll now fields).session.ledger.Keeps a (ev.after.record.get? a) later := by
  have hlater := h.keeps_later
  rcases exists_of_append_eq hevents with ⟨second, hown, hsplit⟩ | ⟨second, -, hrest⟩
  · have hev : ev ∈ (v.session.visit now a).events := by simp [hown]
    have hends : ev.Ends := by
      rcases herror with ⟨hfails, -⟩ | hon
      · exact Or.inr (Or.inr (Or.inl hfails))
      · exact Or.inr (Or.inr (Or.inr (Or.inl ((h.own ev hev).symm ▸ hon))))
    obtain ⟨c, last, hextent, hledger⟩ := hs.exists_extent hr hev
    rw [hown] at hextent
    obtain ⟨rfl, rfl⟩ := hextent.eq_last hends
    rw [hsplit, ← hledger]
    exact hlater
  · rw [hrest] at hlater
    exact hlater.after

/-- Where the visit finds no chain, nobody writes the value of the attribute. -/
theorem keeps_of_idle (h : s.Cut now fields a v rest)
    (hevents : (v.session.visit now a).events = [])
    (hledger : (v.session.visit now a).session.ledger = v.session.ledger) :
    (s.visitAll now fields).session.ledger.Keeps a (s.ledger.record.get? a)
      (s.visitAll now fields).events := by
  have hlater := h.keeps_later
  rw [hledger, h.arrived] at hlater
  rw [h.events, hevents, List.nil_append]
  exact ⟨List.forall_mem_append.mpr ⟨fun e he => (h.before e he).2, hlater.1⟩, hlater.2⟩

end Cut

/-! ### Runs -/

variable {req : Request}

/-- After some steps of a run, the visit of an attribute is still to come, and there is a chain
    for it. -/
structure Awaits (s : Session) (now : Int) (req : Request) (a : String) (events : List Event)
    (v : Visit) (c : Chain) : Prop where
  reaches : s.Reaches now req a v
  done : events <+: v.events
  chain : (v.session.chain a).1 = .ok (some c)

theorem Awaits.unique {events : List Event} {w : Visit} {d : Chain} (hs : s.Reachable)
    (hv : s.Awaits now req a events v c) (hw : s.Awaits now req a events w d) : v = w ∧ c = d := by
  obtain rfl : v = w :=
    hv.reaches.unique (hs.nodup_rules.filter (p := fun field => req.asks field)) hw.reaches
  refine ⟨rfl, ?_⟩
  have hsame := hv.chain.symm.trans hw.chain
  injection hsame with hsame
  exact Option.some.inj hsame

/-- The value of an attribute stays after an error, unless the visit of the attribute is still
    to come. Then it stays until the visit settles it. -/
theorem Reachable.awaits_or_keeps (hs : s.Reachable)
    (hevents : (s.run now req).events = before ++ ev :: later)
    (herror : ev.FailsOwn ∧ ev.field = a ∨ ev.FailsOn a) :
    (∃ v c first second, s.Awaits now req a (before ++ [ev]) v c ∧ ev.field ≠ a ∧
      later = first ++ second ∧
      (∀ e ∈ first, e.after.record.get? a = ev.after.record.get? a) ∧
      (s.run now req).session.ledger.Keeps a
        (s.setup.settled c.datatype? (ev.after.record.get? a)).2 second) ∨
    (∀ v c, ¬ s.Awaits now req a (before ++ [ev]) v c) ∧
      (s.run now req).session.ledger.Keeps a (ev.after.record.get? a) later := by
  have hstart : ({ s with ledger := req.start s.ledger } : Session).Sound :=
    hs.sound.withLedger _
  have hnodup : (s.setup.rules.names.filter req.asks).Nodup := hs.nodup_rules.filter _
  rw [run_eq] at hevents ⊢
  simp only at hevents ⊢
  by_cases hreached : ∃ v, s.Reaches now req a v
  · obtain ⟨v, hv⟩ := hreached
    obtain ⟨rest, hcut⟩ := hstart.exists_cut hnodup hv
    obtain ⟨hsound, hsetup⟩ := hv.sound hs.sound
    obtain ⟨hclosed, herrors⟩ := hv.isClosed_iff hs.sound hs.nodup_rules
    have hunique {w : Visit} {d : Chain} (hw : s.Awaits now req a (before ++ [ev]) w d) : w = v :=
      hw.reaches.unique hnodup hv
    rcases exists_of_append_eq (hcut.events.symm.trans hevents) with
      ⟨first, hbefore, -⟩ | ⟨first, hbefore, hwhole⟩
    · -- The error comes before the visit, so it is not the attribute's own.
      have hev : ev ∈ v.events := by simp [hbefore]
      have hother : ev.field ≠ a := (hcut.before ev hev).1
      have hon : ev.FailsOn a := herror.resolve_left fun hown => hother hown.2
      by_cases hchain : ∃ c, (v.session.chain a).1 = .ok (some c)
      · obtain ⟨c, hchain⟩ := hchain
        obtain ⟨hrun, hfirst, hsecond⟩ :=
          hcut.failed_before hsound hchain (hclosed.mpr (herrors.mpr ⟨ev, hev, hon⟩)) hbefore
        have hsplit : later = first ++ rest :=
          (List.cons.inj (List.append_cancel_left (hevents.symm.trans hrun))).2
        have hdone : before ++ [ev] <+: v.events := ⟨first, by rw [hbefore]; simp⟩
        exact Or.inl ⟨v, c, first, rest, ⟨hv, hdone, hchain⟩, hother, hsplit, hfirst,
          hsetup ▸ hsecond⟩
      · obtain ⟨hnone, hledger⟩ := v.session.visit_of_noChain now (not_exists.mp hchain)
        have hkeeps := hcut.keeps_of_idle hnone hledger
        refine Or.inr ⟨fun w c hw => hchain ⟨c, ?_⟩, (hevents ▸ hkeeps).after⟩
        rw [← hunique hw]
        exact hw.chain
    · -- The error comes with the visit or after it.
      refine Or.inr ⟨fun w c hw => ?_,
        hcut.keeps_of_failed hsound (hsetup ▸ hs.registry.sound) hwhole herror⟩
      have hlength := hw.done.length_le
      rw [hunique hw, hbefore, List.append_assoc, List.length_append] at hlength
      simp only [List.length_append, List.length_singleton] at hlength
      omega
  · obtain ⟨hall, hleft⟩ := hstart.of_not_arrives (not_exists.mp hreached)
    have hkeeps : (s.visits now req).session.ledger.Keeps a _ (s.visits now req).events :=
      ⟨fun e he => (hall e he).2, hleft⟩
    exact Or.inr ⟨fun v c hv => hreached ⟨v, hv.reaches⟩, (hevents ▸ hkeeps).after⟩

/-- **What an error leaves of the value.** Let a step of a run fail an attribute, which is its
    own one or one that it blames. If it is its own one, the value stays until the run ends.

    If it is another one, the value stays just if the visit of the attribute is over, or its
    chain has a datatype rule, or the value does not read as a number, or is already the number
    that it reads as. Otherwise it stays until the visit and is that number from then on. -/
theorem error_freezes_iff {s : Session} (hs : s.Reachable) (now : Int) (req : Request)
    {before later : List Event} {ev : Event}
    (hevents : (s.run now req).events = before ++ ev :: later) {a : String}
    (herror : ev.FailsOwn ∧ ev.field = a ∨ ev.FailsOn a) :
    let value := ev.after.record.get? a
    let left := (s.run now req).session.ledger
    (ev.field = a → left.Keeps a value later) ∧
    (left.Keeps a value later ↔
      ∀ v c, s.Awaits now req a (before ++ [ev]) v c → c.datatype? = none →
        ∀ x, value.bind Value.binary64? = some x → value = some (.ofBinary64 x)) ∧
    ∀ v c, s.Awaits now req a (before ++ [ev]) v c →
      ∃ first second, later = first ++ second ∧
        (∀ e ∈ first, e.after.record.get? a = value) ∧
        left.Keeps a (s.setup.settled c.datatype? value).2 second := by
  intro value left
  simp only [← s.setup.settled_eq_self_iff]
  rcases hs.awaits_or_keeps hevents herror with
    ⟨v, c, first, second, hawaits, hother, hlater, hfirst, hsecond⟩ | ⟨hnone, hkeeps⟩
  · have hunique {w : Visit} {d : Chain} (hw : s.Awaits now req a (before ++ [ev]) w d) : c = d :=
      (hawaits.unique hs hw).2
    refine ⟨fun hown => absurd hown hother, ⟨?_, ?_⟩, ?_⟩
    · intro hkeeps w d hw
      rw [← hunique hw]
      exact hsecond.2.symm.trans hkeeps.2
    · intro hsettled
      have hsame : (s.setup.settled c.datatype? value).2 = value := hsettled v c hawaits
      rw [hlater]
      exact ⟨List.forall_mem_append.mpr ⟨hfirst, hsame ▸ hsecond.1⟩, hsame ▸ hsecond.2⟩
    · intro w d hw
      rw [← hunique hw]
      exact ⟨first, second, hlater, hfirst, hsecond⟩
  · refine ⟨fun _ => hkeeps, ⟨fun _ v c hv => absurd hv (hnone v c), fun _ => hkeeps⟩, ?_⟩
    intro v c hv
    exact absurd hv (hnone v c)

/-- A session in which a word is not repeated correctly. Nothing declares the type of the
    repetition, whose chain comes second, and it reads as a number. -/
def mistyped : Session :=
  (bare.perform (.setRules
    [("word", .text "confirmed:again"), ("again", .text "required")])).perform
    (.setRecord (.object [("word", .string "a"), ("again", .string "2")]))

theorem error_freezes_iff_mistyped :
    mistyped.Reachable ∧ ∃ ev later v c x, (mistyped.run 0 .all).events = [] ++ ev :: later ∧
      ev.FailsOn "again" ∧ mistyped.Awaits 0 .all "again" ([] ++ [ev]) v c ∧
      (Value.string "2").binary64? = some x ∧
      ∃ first second, later = first ++ second ∧
        (∀ e ∈ first, e.after.record.get? "again" = some (.string "2")) ∧
        (mistyped.run 0 .all).session.ledger.Keeps "again" (some (.ofBinary64 x)) second := by
  have hs : mistyped.Reachable := (reachable_bare.perform _).perform _
  have hread : ((Value.string "2").binary64?).isSome = true := by decide +kernel
  obtain ⟨x, hx⟩ := Option.isSome_iff_exists.mp hread
  have hevents : (mistyped.run 0 .all).events = [] ++ _ :: _ := rfl
  have hawaits : mistyped.Awaits 0 .all "again" ([] ++ [_]) _ _ :=
    ⟨⟨⟨["word"], [], rfl, rfl⟩, rfl⟩, ⟨_, rfl⟩, rfl⟩
  obtain ⟨first, second, hlater, hfirst, hsecond⟩ :=
    (error_freezes_iff hs 0 .all hevents (Or.inr ⟨_, _, rfl⟩)).2.2 _ _ hawaits
  have hsettled : (mistyped.setup.settled none (some (.string "2"))).2 = some (.ofBinary64 x) :=
    congrArg Prod.snd (Setup.settled_of_binary64? _ hx)
  exact ⟨hs, _, _, _, _, x, hevents, ⟨_, _, rfl⟩, hawaits, hx, first, second, hlater, hfirst,
    hsettled ▸ hsecond⟩

/-- The error of the repetition comes while a text is there. In the end it is a number. -/
theorem error_not_freezes :
    mistyped.Reachable ∧ ∃ ev later, (mistyped.run 0 .all).events = ev :: later ∧
      ev.FailsOn "again" ∧
      ev.after.record.get? "again" = some (.string "2") ∧
      ¬ (mistyped.run 0 .all).session.ledger.Keeps "again"
        (ev.after.record.get? "again") later := by
  refine ⟨(reachable_bare.perform _).perform _, _, _, rfl, ⟨_, _, rfl⟩, rfl, fun hkeeps => ?_⟩
  have htext : ((mistyped.run 0 .all).session.ledger.record.get? "again").bind Value.string? =
      none := by decide +kernel
  rw [hkeeps.2] at htext
  cases htext

end Session

end FormRules
