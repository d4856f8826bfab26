/-
  FormRules/Proofs/Check/Settled.lean
  ===================================
  **What the datatypes of files leave behind.**

  With the inspector of envelopes, both datatypes of files settle a value into one form, and
  settle it once: `file` leaves one envelope behind, `files` an array of envelopes, and the
  rule passes again on what it has left behind and does not touch it (`uploads_settled`).

  One value is different.  In the envelope of an empty list the inspector finds a list of files
  that has none in it.  This passes as files, of whatever kinds, and leaves an empty array
  behind, which does not pass (`uploads_not_settled`).
-/
import FormRules.Proofs.Check.Uploads

namespace FormRules

/-! ### Envelopes among values -/

/-- Whether a value is the envelope of one file. -/
def Value.IsFileEnvelope (v : Value) : Prop :=
  ∃ inner, v = .object [("$file", inner)] ∧ (FileRef.ofValue? inner).isSome = true

namespace Inspector

variable {v : Value} {f : FileRef} {fs : List FileRef}

theorem isFileEnvelope_of_file? (h : envelopes.file? v = some f) : v.IsFileEnvelope := by
  obtain ⟨inner, hv, hinner⟩ := file?_envelopes_iff.mp h
  exact ⟨inner, hv, by rw [hinner, Option.isSome_some]⟩

theorem isFileEnvelope_of_allFiles? {items : List Value} (h : envelopes.allFiles? items = some fs) :
    ∀ w ∈ items, w.IsFileEnvelope := by
  induction items generalizing fs with
  | nil => exact List.forall_mem_nil _
  | cons w rest ih =>
    unfold allFiles? at h
    split at h
    · next f gs hf hgs => exact List.forall_mem_cons.mpr ⟨isFileEnvelope_of_file? hf, ih hgs⟩
    · cases h

/-- An array in which the inspector finds files is one of envelopes, and not empty. -/
theorem isFileEnvelope_of_files?_array {items : List Value}
    (h : envelopes.files? (.array items) = some fs) :
    items ≠ [] ∧ ∀ w ∈ items, w.IsFileEnvelope := by
  cases items with
  | nil => cases h
  | cons w rest => exact ⟨List.cons_ne_nil w rest, isFileEnvelope_of_allFiles? h⟩

/-- There is one value with a list of files that has none in it. -/
theorem files?_envelopes_eq_nil_iff : envelopes.files? v = some [] ↔ v = FileRef.listValue [] := by
  constructor
  · intro h
    unfold files? at h
    split at h
    · cases h
    · next gs _ hlist =>
      obtain rfl := Option.some.inj h
      obtain ⟨items, rfl, hitems⟩ := fileList?_envelopes_iff.mp hlist
      cases items with
      | nil => rfl
      | cons w rest =>
        unfold FileRef.listOf? at hitems
        split at hitems <;> cases hitems
    · next w rest _ _ =>
      unfold allFiles? at h
      split at h <;> cases h
    · cases h
  · rintro rfl
    rfl

end Inspector

namespace FileRef

theorem same_toValue (f : FileRef) : f.toValue.same f.toValue = true := by
  rcases hname : f.name with _ | n
  · simp [toValue, describe, hname, Value.same, Value.sameMembers, Entries.get?, Number.same,
      Value.ofInt]
  · simp [toValue, describe, hname, Value.same, Value.sameMembers, Entries.get?, Number.same,
      Value.ofInt]

theorem same_map_toValue (fs : List FileRef) :
    (Value.array (fs.map toValue)).same (.array (fs.map toValue)) = true := by
  induction fs with
  | nil => rfl
  | cons f rest ih => simpa [Value.same, Value.sameItems, same_toValue] using ih

end FileRef

theorem Value.exists_array_of_same {v : Value} {items : List Value}
    (h : v.same (.array items) = true) : ∃ found, v = .array found := by
  cases v with
  | array found => exact ⟨found, rfl⟩
  | null | bool _ | number _ | string _ | object _ => cases h

/-! ### Passing once more -/

namespace Check

variable {s : Subject} {w : Value} {f : FileRef} {fs : List FileRef}

theorem files_of_settled (hw : s.value = some w) (hfs : s.inspector.files? w = some fs)
    (hkinds : ofKinds s fs = true) (hsame : w.same (.array (fs.map FileRef.toValue)) = true) :
    files s = .ok .pass := by
  have hfound : s.files? = some fs := by rw [Subject.files?, hw, Option.bind_some, hfs]
  simp only [files, hfound, hkinds, hw, hsame, Bool.not_true, Bool.false_eq_true, if_false, if_true]

theorem file_of_settled (hw : s.value = some w) (hf : s.inspector.file? w = some f)
    (hkinds : ofKinds s [f] = true) : file s = .ok .pass := by
  have hfound : s.files? = some [f] := by
    rw [Subject.files?, hw, Option.bind_some, Inspector.files?_of_file? hf]
  simp only [file, hfound, hkinds, hw, Option.bind_some, hf, Bool.not_true, Bool.false_eq_true,
    if_false]

/-- Files of the kinds that are asked for are so one by one. -/
theorem ofKinds_singleton (h : ofKinds s fs = true) (hf : f ∈ fs) : ofKinds s [f] = true := by
  simp only [ofKinds, Bool.or_eq_true, List.all_eq_true] at h ⊢
  exact h.imp_right fun hall g hg => List.mem_singleton.mp hg ▸ hall f hf

end Check

namespace Subject

open Inspector

variable {s : Subject} {v w : Value} {o : Outcome}

/-- Whether the rule passes on a value with the same arguments, in any record and at any time,
    and leaves it as it is. -/
def Leaves (s : Subject) (w : Value) : Prop :=
  ∀ record now, Entries.get? record s.field = some w → (s.within record now).evaluate = .ok .pass

/-- A rule of files that has left the value alone does so again. -/
theorem leaves_of_pass (hrule : s.rule.isLocal = true) (hv : s.value = some v)
    (ho : s.evaluate = .ok .pass) : s.Leaves v := by
  intro record now hrecord
  rw [evaluate_within hrule (hrecord.trans hv.symm) now, ho]

theorem leaves_of_check {rule : Builtin} (hrule : s.rule = rule)
    (h : ∀ record now, Entries.get? record s.field = some w →
      rule.check (s.within record now) = .ok .pass) : s.Leaves w := by
  intro record now hrecord
  rw [evaluate_eq_ok_iff]
  show s.rule.check _ = _
  rw [hrule]
  exact h record now hrecord

theorem settled_by_files (henvelopes : s.inspector = .envelopes) (hrule : s.rule = .files)
    (hv : s.value = some v) (ho : s.evaluate = .ok o) (hpass : o.effect = .pass)
    (hne : v ≠ FileRef.listValue []) :
    (∃ items, o.replace.getD v = .array items ∧ items ≠ [] ∧ ∀ x ∈ items, x.IsFileEnvelope) ∧
      s.Leaves (o.replace.getD v) := by
  have hcheck := evaluate_eq_ok_iff.mp ho
  rw [hrule] at hcheck
  obtain ⟨fs, hfs, hkinds, ⟨hsame, rfl⟩ | rfl⟩ := Check.files_of_pass hv hcheck hpass
  · obtain ⟨items, rfl⟩ := Value.exists_array_of_same hsame
    rw [henvelopes] at hfs
    exact ⟨⟨items, rfl, isFileEnvelope_of_files?_array hfs⟩,
      leaves_of_pass (by rw [hrule]; rfl) hv ho⟩
  · rw [henvelopes] at hfs
    have hfiles : fs ≠ [] := by
      rintro rfl
      exact hne (files?_envelopes_eq_nil_iff.mp hfs)
    have hfound := (readsBack_of_files?_envelopes hfs).files?_array hfiles
    refine ⟨⟨fs.map FileRef.toValue, rfl, isFileEnvelope_of_files?_array hfound⟩, ?_⟩
    apply leaves_of_check hrule
    intro record now hrecord
    refine Check.files_of_settled hrecord ?_ hkinds (FileRef.same_map_toValue fs)
    show s.inspector.files? _ = _
    rw [henvelopes]
    exact hfound

theorem settled_by_file (henvelopes : s.inspector = .envelopes) (hrule : s.rule = .file)
    (hv : s.value = some v) (ho : s.evaluate = .ok o) (hpass : o.effect = .pass) :
    (o.replace.getD v).IsFileEnvelope ∧ s.Leaves (o.replace.getD v) := by
  have hcheck := evaluate_eq_ok_iff.mp ho
  rw [hrule] at hcheck
  obtain ⟨fs, f, hfs, hlast, hkinds, ⟨rfl, hf⟩ | rfl⟩ := Check.file_of_pass hv hcheck hpass
  · rw [henvelopes] at hf
    exact ⟨isFileEnvelope_of_file? hf, leaves_of_pass (by rw [hrule]; rfl) hv ho⟩
  · rw [henvelopes] at hfs
    have hmem : f ∈ fs := List.mem_of_getLast? hlast
    have hf := (readsBack_of_files?_envelopes hfs).each f hmem
    refine ⟨isFileEnvelope_of_file? hf, ?_⟩
    apply leaves_of_check hrule
    intro record now hrecord
    refine Check.file_of_settled hrecord ?_ (Check.ofKinds_singleton hkinds hmem)
    show s.inspector.file? _ = _
    rw [henvelopes]
    exact hf

/-- **The datatypes of files settle a value once.** With the inspector of envelopes, what passes
    as files leaves an array of at least one envelope behind, on which the rule passes again with
    the same kinds and which it leaves as it is, just if the value is not the envelope of an
    empty list. What passes as a file always leaves one envelope behind, on which the rule passes
    again and which it leaves as it is. -/
theorem uploads_settled (henvelopes : s.inspector = .envelopes) (hv : s.value = some v)
    (ho : s.evaluate = .ok o) (hpass : o.effect = .pass) :
    (s.rule = .files →
      ((∃ items, o.replace.getD v = .array items ∧ items ≠ [] ∧ ∀ x ∈ items, x.IsFileEnvelope) ∧
        s.Leaves (o.replace.getD v) ↔ v ≠ FileRef.listValue [])) ∧
    (s.rule = .file → (o.replace.getD v).IsFileEnvelope ∧ s.Leaves (o.replace.getD v)) := by
  constructor
  · intro hrule
    constructor
    · rintro ⟨⟨items, hitems, hne, -⟩, -⟩ rfl
      -- No files are found, so an empty array is left behind.
      have hcheck := evaluate_eq_ok_iff.mp ho
      rw [hrule] at hcheck
      obtain ⟨fs, hfs, -, ⟨hsame, -⟩ | rfl⟩ := Check.files_of_pass hv hcheck hpass
      · cases hsame
      · rw [henvelopes, files?_envelopes_eq_nil_iff.mpr rfl] at hfs
        obtain rfl := Option.some.inj hfs
        exact hne (Value.array.inj hitems).symm
    · intro hne
      exact settled_by_files henvelopes hrule hv ho hpass hne
  · intro hrule
    exact settled_by_file henvelopes hrule hv ho hpass

theorem uploads_settled_pages :
    (upload .envelopes .files (FileRef.listValue pages)).evaluate =
      .ok (.passWith (.array (pages.map FileRef.toValue))) ∧
    (upload .envelopes .files (FileRef.listValue pages)).Leaves
      (.array (pages.map FileRef.toValue)) ∧
    (upload .envelopes .file (FileRef.listValue pages)).evaluate =
      .ok (.passWith (⟨some "b.png", 2, ""⟩ : FileRef).toValue) ∧
    (upload .envelopes .file (FileRef.listValue pages)).Leaves
      (⟨some "b.png", 2, ""⟩ : FileRef).toValue := by
  have hvalue (rule : Builtin) : (upload .envelopes rule (FileRef.listValue pages)).value =
      some (FileRef.listValue pages) := rfl
  have hfiles : (upload .envelopes .files (FileRef.listValue pages)).evaluate =
      .ok (.passWith (.array (pages.map FileRef.toValue))) := by rfl
  have hfile : (upload .envelopes .file (FileRef.listValue pages)).evaluate =
      .ok (.passWith (⟨some "b.png", 2, ""⟩ : FileRef).toValue) := by rfl
  have hsome : FileRef.listValue pages ≠ FileRef.listValue [] := by
    simp [FileRef.listValue, pages]
  have hleft := (uploads_settled rfl (hvalue .files) hfiles rfl).1 rfl
  have hlast := (uploads_settled rfl (hvalue .file) hfile rfl).2 rfl
  exact ⟨hfiles, (hleft.mpr hsome).2, hfile, hlast.2⟩

/-- **The envelope of an empty list is not settled.** It passes as files although it has none,
    also where only pictures may pass, and the empty array that it leaves behind fails. -/
theorem uploads_not_settled :
    let pictures (v : Value) : Subject := { upload .envelopes .files v with args := ["image"] }
    (pictures (FileRef.listValue [])).evaluate = .ok (.passWith (.array [])) ∧
      (pictures (.array [])).evaluate = .ok (.fail .plain) ∧
      ¬ (pictures (FileRef.listValue [])).Leaves (.array []) := by
  refine ⟨rfl, rfl, ?_⟩
  intro hleaves
  cases hleaves [("f", .array [])] 0 rfl

end Subject

end FormRules
