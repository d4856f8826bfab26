/-
  FormRules/Proofs/Session/History.lean
  =====================================
  **What earlier runs have left does not show.**

  At the start of a run the errors of what it is asked about are gone, so it cannot tell
  sessions apart that differ in errors, skipped attributes and kept chains alone.  Every
  call then comes to the same in both (`call_ignores_history`).

  A run over everything and one over all attributes that have rules start from ledgers that
  cannot be told apart either, and visit the same attributes (`only_narrows_all`).  What the
  first one finds beyond the second, errors of attributes that have no rules, would have to
  come from a confirmation, and then both have it.
-/
import FormRules.Proofs.Session.Alike
import FormRules.Proofs.Session.Frame

namespace FormRules

namespace Session

variable {s t : Session}

/-! ### Runs -/

/-- At its start a run cannot tell ledgers with the same record apart, be it asked about
    more or less. -/
theorem alike_start {req req' : Request} {l k : Ledger} (hrecord : l.record = k.record)
    (hasks : ∀ a, req.asks a = true → req'.asks a = true) :
    Ledger.Alike req.asks (req.start l) (req'.start k) where
  record := by rw [record_start, record_start, hrecord]
  skipped := by rw [skipped_start, skipped_start]
  touched := by rw [touched_start, touched_start]
  errors a ha := by
    rcases ha with ha | ha
    · rw [get?_errors_start ha, get?_errors_start (hasks a ha)]
    · rw [touched_start] at ha
      cases ha

/-- Runs over the same attributes from sessions that differ in what earlier runs have left. -/
theorem alike_visits (h : Companions s t) (hs : s.Sound) (hrecord : s.ledger.record = t.ledger.record)
    (now : Int) (req : Request) :
    (s.visits now req).error = (t.visits now req).error ∧
      Alike req.asks (s.visits now req).session (t.visits now req).session := by
  have hstart : Alike req.asks { s with ledger := req.start s.ledger }
      { t with ledger := req.start t.ledger } :=
    ⟨h.withLedgers _ _, alike_start hrecord fun _ ha => ha⟩
  have hnames : t.setup.rules.names = s.setup.rules.names := by rw [h.setup]
  rw [visits, visits, hnames]
  exact hstart.visitAll (hs.withLedger _) now fun a ha => (List.mem_filter.mp ha).2

/-- A run that is asked about every attribute that has rules visits all of them. -/
theorem visits_of_asks {req : Request} (h : ∀ a ∈ s.setup.rules.names, req.asks a = true)
    (now : Int) :
    s.visits now req =
      ({ s with ledger := req.start s.ledger } : Session).visitAll now s.setup.rules.names := by
  rw [visits, List.filter_eq_self.mpr h]

/-- Two runs over all attributes that have rules, one of which may be asked about more. -/
theorem alike_visits_of_asks (hs : s.Sound) (now : Int) (req req' : Request)
    (h : ∀ a ∈ s.setup.rules.names, req.asks a = true)
    (hmore : ∀ a, req.asks a = true → req'.asks a = true) :
    (s.visits now req).error = (s.visits now req').error ∧
      Alike req.asks (s.visits now req).session (s.visits now req').session := by
  have hstart : Alike req.asks { s with ledger := req.start s.ledger }
      { s with ledger := req'.start s.ledger } :=
    ⟨⟨rfl, Or.inl rfl⟩, alike_start rfl hmore⟩
  rw [visits_of_asks h, visits_of_asks fun a ha => hmore a (h a ha)]
  exact hstart.visitAll (hs.withLedger _) now h

theorem judged_all (l : Ledger) : judged .all l = l.errors :=
  List.filter_eq_self.mpr fun _ _ => rfl

/-- What decides a run, looked up. -/
theorem get?_judged (req : Request) (l : Ledger) (a : String) :
    (judged req l).get? a =
      if req.asks a = true ∨ a ∈ l.touched then l.errors.get? a else none := by
  rw [judged, Entries.get?_only]
  simp only [Bool.or_eq_true, List.contains_iff_mem]

/-- What decides a run is the same for ledgers that it cannot tell apart. -/
theorem get?_judged_of_alike {req : Request} {l k : Ledger} (h : Ledger.Alike req.asks l k)
    (a : String) : (judged req l).get? a = (judged req k).get? a := by
  rw [get?_judged, get?_judged, ← h.touched]
  by_cases ha : req.asks a = true ∨ a ∈ l.touched
  · rw [if_pos ha, if_pos ha, h.errors a ha]
  · rw [if_neg ha, if_neg ha]

theorem nodup_judged (hs : s.ledger.errors.names.Nodup) (now : Int) (req : Request) :
    (judged req (s.visits now req).session.ledger).names.Nodup :=
  Entries.nodup_names_only ((s.visits_trail now req).nodup_errors (nodup_errors_start hs req)) _

/-- Answers that are the same but for the order of the errors in a rejection. -/
inductive SameAnswer : Except Error Validated → Except Error Validated → Prop
  | same (answer : Except Error Validated) : SameAnswer answer answer
  | rejected {bag bag' : ErrorBag} (h : bag.Perm bag') :
      SameAnswer (.error (.rejected bag)) (.error (.rejected bag'))

theorem sameAnswer_of_perm (h : s.setup = t.setup) {misuse : Option Error} {bag bag' : ErrorBag}
    (hbag : bag.Perm bag') (values : Record) :
    SameAnswer (s.answer misuse bag values) (t.answer misuse bag' values) := by
  rcases misuse with _ | e
  · rcases bag with _ | ⟨e, rest⟩
    · rw [List.nil_perm.mp hbag, answer, answer, h]
      exact .same _
    · rcases bag' with _ | ⟨e', rest'⟩
      · cases List.perm_nil.mp hbag
      · exact .rejected hbag
  · exact .same _

/-- **What earlier runs have left does not show in a call.** Of two sessions that differ in
    errors, skipped attributes and kept chains alone, each call gets the same answer, but for
    the order of the errors in a rejection, and leaves the same record. After a call about
    everything the errors are the same as well. -/
theorem call_ignores_history {s t : Session} (hs : s.Reachable) (ht : t.Reachable)
    (hlive : Distinguished s.live) (hlive' : Distinguished t.live) (hsetup : s.setup = t.setup)
    (hrecord : s.ledger.record = t.ledger.record) (now : Int) (c : Call) :
    SameAnswer (s.call now c).answer (t.call now c).answer ∧
    (s.call now c).session.ledger.record = (t.call now c).session.ledger.record ∧
    ∀ values, c.plan = .ok (.all, values) →
      (s.call now c).session.ledger.errors.Perm (t.call now c).session.ledger.errors := by
  rw [call_eq, call_eq]
  rcases c.plan with e | ⟨req, values⟩
  · refine ⟨.same _, hrecord, fun values h => ?_⟩
    cases h
  · have hcompanions : Companions (s.merge values) (t.merge values) :=
      ⟨hsetup, Or.inr ⟨⟨hs.sound.withLedger _, hlive⟩, ht.sound.withLedger _, hlive'⟩⟩
    have hmerged : (s.merge values).ledger.record = (t.merge values).ledger.record :=
      congrArg (·.insertAll values) hrecord
    obtain ⟨herror, halike⟩ := alike_visits hcompanions (hs.sound.withLedger _) hmerged now req
    have hbag : (judged req ((s.merge values).visits now req).session.ledger).Perm
        (judged req ((t.merge values).visits now req).session.ledger) :=
      Entries.perm_of_get?_eq (nodup_judged (s := s.merge values) hs.nodup_errors now req)
        (nodup_judged (s := t.merge values) ht.nodup_errors now req)
        (get?_judged_of_alike halike.ledger)
    simp only [run_eq]
    rw [← herror, ← halike.ledger.record]
    refine ⟨sameAnswer_of_perm halike.companions.setup hbag _, rfl, fun values h => ?_⟩
    cases h
    rwa [judged_all, judged_all] at hbag

/-- A session and the same session after a run that has left an error, a skipped attribute
    and kept chains. -/
theorem call_ignores_history_mismatch :
    mismatch.Reachable ∧ (mismatch.perform (.all 0)).Reachable ∧
      Distinguished mismatch.live ∧ Distinguished (mismatch.perform (.all 0)).live ∧
      mismatch.setup = (mismatch.perform (.all 0)).setup ∧
      mismatch.ledger.record = (mismatch.perform (.all 0)).ledger.record ∧
      mismatch.ledger.errors = [] ∧
      (mismatch.perform (.all 0)).ledger.errors.names = ["again"] ∧
      SameAnswer (mismatch.call 0 (.only ["word"])).answer
        ((mismatch.perform (.all 0)).call 0 (.only ["word"])).answer := by
  have hs : mismatch.Reachable := (reachable_bare.perform _).perform _
  have ht : (mismatch.perform (.all 0)).Reachable := hs.perform _
  -- No handlers are alive in either.
  have hlive : Distinguished mismatch.live := fun g hg => absurd hg (List.not_mem_nil (a := g))
  have hlive' : Distinguished (mismatch.perform (.all 0)).live :=
    fun g hg => absurd hg (List.not_mem_nil (a := g))
  have hsetup : mismatch.setup = (mismatch.perform (.all 0)).setup := rfl
  have hrecord : mismatch.ledger.record = (mismatch.perform (.all 0)).ledger.record := rfl
  exact ⟨hs, ht, hlive, hlive', hsetup, hrecord, rfl, rfl,
    (call_ignores_history hs ht hlive hlive' hsetup hrecord 0 (.only ["word"])).1⟩

/-! ### Runs that are asked about more -/

theorem get?_valuesOf (record : Record) (fields : List String) (a : String) :
    (valuesOf record fields).get? a = if a ∈ fields then record.get? a else none := by
  induction fields with
  | nil => rfl
  | cons field rest ih =>
    have hcons : valuesOf record (field :: rest) =
        ((record.get? field).map (field, ·)).toList ++ valuesOf record rest := by
      cases h : record.get? field <;> simp [valuesOf, h]
    rw [hcons]
    by_cases hfield : field = a
    · subst hfield
      cases h : record.get? field <;> simp [Entries.get?, ih, h]
    · cases h : record.get? field <;> simp [Entries.get?, ih, hfield, Ne.symm hfield]

/-- How the answer to a run over some attributes is what the answer to a run over everything
    says about them. -/
inductive Narrows (fields : List String) : Except Error Validated → Except Error Validated → Prop
  | accepted {whole part : Validated}
      (h : ∀ a, part.record.get? a = if a ∈ fields then whole.record.get? a else none) :
      Narrows fields (.ok whole) (.ok part)
  | rejected {bag bag' : ErrorBag} (h : bag.Perm bag') :
      Narrows fields (.error (.rejected bag)) (.error (.rejected bag'))
  | misused {e : Error} (h : e.isMisuse = true) : Narrows fields (.error e) (.error e)

/-- Whatever decides a run over everything is about an attribute that is asked about or
    has been failed by the chain of another one. -/
theorem errors_of_all (hs : s.Sound) (now : Int) {a : String}
    (ha : a ∉ s.setup.rules.names) (htouched : a ∉ (s.visits now .all).session.ledger.touched) :
    (s.visits now .all).session.ledger.errors.get? a = none := by
  rw [Entries.get?_eq_none_iff, ← judged_all, mem_names_judged hs, Event.mem_names_writes]
  rintro ⟨ev, hev, ⟨-, rfl⟩ | hon⟩
  · exact ha (List.mem_filter.mp ((hs.withLedger _).field_of_mem_visitAll hev)).1
  · exact htouched (((s.visits_trail now .all).mem_touched a).mpr (Or.inl ⟨ev, hev, hon⟩))

/-- **A run over all attributes that have rules is a run over everything,** whatever else it
    is asked about: it accepts, rejects and is misused alike, with the same errors, leaves
    the same record, and gives back the values of what it is asked about. -/
theorem only_narrows_all {s : Session} (hs : s.Reachable) (now : Int) {fields : List String}
    (hfields : ∀ a ∈ s.setup.rules.names, a ∈ fields) :
    Narrows fields (s.all now).answer (s.only now fields).answer ∧
    (s.only now fields).session.ledger.record = (s.all now).session.ledger.record := by
  have hcovers (a : String) (ha : a ∈ s.setup.rules.names) : (Request.only fields).asks a = true :=
    (Request.asks_only fields a).mpr (hfields a ha)
  obtain ⟨herror, halike⟩ :=
    alike_visits_of_asks hs.sound now (.only fields) .all hcovers fun _ _ => rfl
  have hbag : (judged .all (s.visits now .all).session.ledger).Perm
      (judged (.only fields) (s.visits now (.only fields)).session.ledger) := by
    refine Entries.perm_of_get?_eq (nodup_judged hs.nodup_errors now _)
      (nodup_judged hs.nodup_errors now _) fun a => ?_
    rw [judged_all, get?_judged]
    split
    · next h => rw [halike.ledger.errors a h]
    · next h =>
      rw [not_or, halike.ledger.touched] at h
      exact errors_of_all hs.sound now (fun ha => h.1 (hcovers a ha)) h.2
  have hall : s.all now = s.run now .all := rfl
  have honly : s.only now fields = s.run now (.only fields) := rfl
  rw [hall, honly, run_eq, run_eq]
  refine ⟨?_, halike.ledger.record⟩
  simp only [herror]
  rcases hmisuse : (s.visits now .all).error with _ | e
  · rcases hwhole : judged .all (s.visits now .all).session.ledger with _ | ⟨e, rest⟩
    · rw [hwhole] at hbag
      rw [List.nil_perm.mp hbag]
      refine .accepted fun a => ?_
      simp only [Request.values, id, get?_valuesOf, List.mem_eraseDups, halike.ledger.record]
    · rw [hwhole] at hbag
      rcases hpart : judged (.only fields) (s.visits now (.only fields)).session.ledger
        with _ | ⟨e', rest'⟩
      · rw [hpart] at hbag
        cases List.perm_nil.mp hbag
      · rw [hpart] at hbag
        exact .rejected hbag
  · exact .misused (isMisuse_of_visitAll hmisuse)

/-- A run that is asked about all attributes twice or in another order, and about one that
    has no rules. -/
theorem only_narrows_all_mismatch :
    mismatch.Reachable ∧
      (∀ a ∈ mismatch.setup.rules.names, a ∈ ["other", "again", "word", "again"]) ∧
      Narrows ["other", "again", "word", "again"] (mismatch.all 0).answer
        (mismatch.only 0 ["other", "again", "word", "again"]).answer := by
  have hs : mismatch.Reachable := (reachable_bare.perform _).perform _
  have hfields : ∀ a ∈ mismatch.setup.rules.names, a ∈ ["other", "again", "word", "again"] := by
    have hnames : mismatch.setup.rules.names = ["word", "again"] := rfl
    rw [hnames]
    decide
  exact ⟨hs, hfields, (only_narrows_all hs 0 hfields).1⟩

end Session

end FormRules
