/-
  FormRules/Proofs/Check/Uploads.lean
  ===================================
  **Files that a rule has stored can be read again.**

  The two datatype rules of files read through the inspector of the session, but what they
  write are envelopes.  So the rules that come after them, and the form, see the files again
  just if the inspector knows envelopes (`stored_files_readable`).  The inspector of envelopes
  does, whatever it has found.

  Without this the files are lost to the inspector (`stored_files_unreadable`).  And no
  inspector sees a list without files again: its array has nothing in it that shows that it
  was one of files.
-/
import FormRules.Check.Evaluate
import FormRules.Proofs.Check.Local
import FormRules.Proofs.File.Envelope

namespace FormRules

namespace Check

variable {s : Subject} {v : Value} {o : Outcome}

/-- What passes as files carries some, of the kinds that are asked for. It stays if it is the
    array of their envelopes already, and becomes this array otherwise. -/
theorem files_of_pass (hv : s.value = some v) (ho : files s = .ok o) (hpass : o.effect = .pass) :
    ∃ fs, s.inspector.files? v = some fs ∧ ofKinds s fs = true ∧
      (v.same (.array (fs.map FileRef.toValue)) = true ∧ o = .pass ∨
        o = .passWith (.array (fs.map FileRef.toValue))) := by
  have hfound : s.files? = s.inspector.files? v := by rw [Subject.files?, hv]; rfl
  rcases hfiles : s.inspector.files? v with _ | fs
  · simp only [files, hfound, hfiles, Except.ok.injEq] at ho
    subst ho
    cases hpass
  · refine ⟨fs, rfl, ?_⟩
    simp only [files, hfound, hfiles, hv] at ho
    split at ho
    · obtain rfl := Except.ok.inj ho
      cases hpass
    · next hkinds =>
      refine ⟨by simpa using hkinds, ?_⟩
      split at ho
      · next hsame => exact Or.inl ⟨hsame, (Except.ok.inj ho).symm⟩
      · exact Or.inr (Except.ok.inj ho).symm

theorem exists_files_of_pass (hv : s.value = some v) (ho : files s = .ok o)
    (hpass : o.effect = .pass) :
    ∃ fs, s.inspector.files? v = some fs ∧
      (o = .pass ∨ o = .passWith (.array (fs.map FileRef.toValue))) := by
  obtain ⟨fs, hfs, -, hstored⟩ := files_of_pass hv ho hpass
  exact ⟨fs, hfs, hstored.imp_left And.right⟩

/-- What passes as a file carries at least one, and all are of the kinds that are asked for. A
    single file stays, and of several files the last one is stored in its envelope. -/
theorem file_of_pass (hv : s.value = some v) (ho : file s = .ok o) (hpass : o.effect = .pass) :
    ∃ fs f, s.inspector.files? v = some fs ∧ fs.getLast? = some f ∧ ofKinds s fs = true ∧
      (o = .pass ∧ s.inspector.file? v = some f ∨ o = .passWith f.toValue) := by
  have hfound : s.files? = s.inspector.files? v := by rw [Subject.files?, hv]; rfl
  have hsingle : s.value.bind s.inspector.file? = s.inspector.file? v := by rw [hv]; rfl
  rcases hfiles : s.inspector.files? v with _ | fs
  · simp only [file, hfound, hfiles, Except.ok.injEq] at ho
    subst ho
    cases hpass
  · simp only [file, hfound, hfiles, hsingle] at ho
    split at ho
    · obtain rfl := Except.ok.inj ho
      cases hpass
    · next hkinds =>
      have hkinds : ofKinds s fs = true := by simpa using hkinds
      split at ho
      · next f hf =>
        rw [Inspector.files?_of_file? hf] at hfiles
        obtain rfl := Option.some.inj hfiles
        exact ⟨[f], f, rfl, rfl, hkinds, Or.inl ⟨(Except.ok.inj ho).symm, hf⟩⟩
      · next f _ hlast => exact ⟨fs, f, rfl, hlast, hkinds, Or.inr (Except.ok.inj ho).symm⟩
      · obtain rfl := Except.ok.inj ho
        cases hpass

theorem exists_file_of_pass (hv : s.value = some v) (ho : file s = .ok o)
    (hpass : o.effect = .pass) :
    ∃ fs f, s.inspector.files? v = some fs ∧ fs.getLast? = some f ∧
      (o = .pass ∧ s.inspector.file? v = some f ∨ o = .passWith f.toValue) := by
  obtain ⟨fs, f, hfs, hlast, -, hstored⟩ := file_of_pass hv ho hpass
  exact ⟨fs, f, hfs, hlast, hstored⟩

end Check

namespace Subject

open Inspector

variable {s : Subject} {v : Value} {o : Outcome}

/-- **Stored files can be read again by an inspector that knows envelopes.** If `files` passes,
    the inspector finds in the stored value the files that it has found before, in order,
    provided that the value is left as it was, or that there is a file and the inspector reads
    the array of their envelopes. If `file` passes, it finds the last of them alone, provided
    that the value is left as it was, or that it reads the envelope of this file. The inspector
    of envelopes reads all of them. -/
theorem stored_files_readable (hv : s.value = some v) (ho : s.evaluate = .ok o)
    (hpass : o.effect = .pass) :
    (s.rule = .files → ∃ fs, s.inspector.files? v = some fs ∧
      (o.replace = none ∨ fs ≠ [] ∧ s.inspector.ReadsBack fs →
        s.inspector.files? (o.replace.getD v) = some fs)) ∧
    (s.rule = .file → ∃ fs f, s.inspector.files? v = some fs ∧ fs.getLast? = some f ∧
      (o.replace = none ∨ s.inspector.file? f.toValue = some f →
        s.inspector.files? (o.replace.getD v) = some [f])) ∧
    (s.inspector = .envelopes → ∀ fs, s.inspector.files? v = some fs →
      s.inspector.ReadsBack fs ∧ ∀ f ∈ fs, s.inspector.file? f.toValue = some f) := by
  have hcheck := evaluate_eq_ok_iff.mp ho
  refine ⟨?_, ?_, ?_⟩
  · intro hrule
    rw [hrule] at hcheck
    obtain ⟨fs, hfs, rfl | rfl⟩ := Check.exists_files_of_pass hv hcheck hpass
    · exact ⟨fs, hfs, fun _ => hfs⟩
    · refine ⟨fs, hfs, ?_⟩
      rintro (hsame | ⟨hne, hreads⟩)
      · cases hsame
      · exact hreads.files?_array hne
  · intro hrule
    rw [hrule] at hcheck
    obtain ⟨fs, f, hfs, hlast, ⟨rfl, hf⟩ | rfl⟩ := Check.exists_file_of_pass hv hcheck hpass
    · exact ⟨fs, f, hfs, hlast, fun _ => files?_of_file? hf⟩
    · refine ⟨fs, f, hfs, hlast, ?_⟩
      rintro (hsame | hread)
      · cases hsame
      · exact files?_of_file? hread
  · intro henvelopes fs hfs
    rw [henvelopes] at hfs ⊢
    have hreads := readsBack_of_files?_envelopes hfs
    exact ⟨hreads, hreads.each⟩

/-- An attribute that is checked by a rule without arguments. -/
def upload (i : Inspector) (rule : Builtin) (v : Value) : Subject :=
  ⟨"f", rule, [], .files, [("f", v)], i, [], fun _ => true, 8, 0⟩

/-- Two files, the first of which has no name. -/
def pages : List FileRef := [⟨none, 1, "image/png"⟩, ⟨some "b.png", 2, ""⟩]

theorem stored_files_readable_pages :
    (upload .envelopes .files (FileRef.listValue pages)).evaluate =
      .ok (.passWith (.array (pages.map FileRef.toValue))) ∧
    envelopes.files? (.array (pages.map FileRef.toValue)) = some pages ∧
    (upload .envelopes .file (FileRef.listValue pages)).evaluate =
      .ok (.passWith (⟨some "b.png", 2, ""⟩ : FileRef).toValue) ∧
    envelopes.files? (⟨some "b.png", 2, ""⟩ : FileRef).toValue = some [⟨some "b.png", 2, ""⟩] := by
  have hvalue (rule : Builtin) : (upload .envelopes rule (FileRef.listValue pages)).value =
      some (FileRef.listValue pages) := rfl
  have hfound : envelopes.files? (FileRef.listValue pages) = some pages := by rfl
  have hfiles : (upload .envelopes .files (FileRef.listValue pages)).evaluate =
      .ok (.passWith (.array (pages.map FileRef.toValue))) := by rfl
  have hfile : (upload .envelopes .file (FileRef.listValue pages)).evaluate =
      .ok (.passWith (⟨some "b.png", 2, ""⟩ : FileRef).toValue) := by rfl
  refine ⟨hfiles, ?_, hfile, ?_⟩
  · obtain ⟨hread, -, hknown⟩ := stored_files_readable (hvalue .files) hfiles rfl
    obtain ⟨fs, hfs, hstored⟩ := hread rfl
    obtain rfl : pages = fs := Option.some.inj (hfound.symm.trans hfs)
    exact hstored (Or.inr ⟨by decide, (hknown rfl pages hfs).1⟩)
  · obtain ⟨-, hread, hknown⟩ := stored_files_readable (hvalue .file) hfile rfl
    obtain ⟨fs, f, hfs, hlast, hstored⟩ := hread rfl
    obtain rfl : pages = fs := Option.some.inj (hfound.symm.trans hfs)
    obtain rfl : (⟨some "b.png", 2, ""⟩ : FileRef) = f := Option.some.inj hlast
    exact hstored (Or.inr ((hknown rfl pages hfs).2 _ (by decide)))

/-- An inspector to which a text is the file of this name. -/
def byName : Inspector where
  file?
    | .string name => some ⟨some name, 0, ""⟩
    | _ => none
  fileList? _ := none
  isBlob _ := false

/-- Two files by their names. -/
def named : Value := .array [.string "a.png", .string "b.png"]

/-- **Without these conditions stored files are lost.** An envelope of no files passes as files,
    and what is stored carries none to the inspector that has found them. Two files by their
    names pass as files and as a file, and both times the inspector finds nothing in what is
    stored. -/
theorem stored_files_unreadable :
    ((upload .envelopes .files (FileRef.listValue [])).evaluate = .ok (.passWith (.array [])) ∧
      envelopes.files? (FileRef.listValue []) = some [] ∧
      envelopes.files? (.array []) = none) ∧
    (byName.files? named = some [⟨some "a.png", 0, ""⟩, ⟨some "b.png", 0, ""⟩] ∧
      (∃ v, (upload byName .files named).evaluate = .ok (.passWith v) ∧ byName.files? v = none) ∧
      ∃ v, (upload byName .file named).evaluate = .ok (.passWith v) ∧ byName.files? v = none) := by
  refine ⟨⟨rfl, rfl, rfl⟩, rfl, ⟨_, rfl, rfl⟩, ⟨_, rfl, rfl⟩⟩

end Subject

end FormRules
