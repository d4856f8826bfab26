/-
  FormRules/Proofs/Check/Inferred.lean
  ====================================
  **The inferred type is one that the datatype rules would grant.**

  A type comes about in two ways.  Without a datatype rule it is read off the value, and with
  one the rule looks at the value itself.  The two are written apart: inference asks for a
  number first and then goes by the shape of the value, while each rule has a test of its own.
  They agree for every value and every inspector (`infer_agrees`).

  The inspector enters both with the same three answers.  What a value carries in all follows
  from these, and beside arrays only single files and lists of files carry any
  (`Inspector.carriesFile_eq`); that is why `object` and inference exclude the same objects.
-/
import FormRules.Proofs.Check.Integers
import FormRules.Proofs.Check.Uploads
import FormRules.Proofs.Inference

namespace FormRules

/-! ### What a shape says -/

namespace Inference

/-- The type of each shape, with what the inspector has found in a value of this shape. -/
inductive Shaped (i : Inspector) : Value → DataType → Prop
  | text (t : String) : Shaped i (.string t) .string
  | uploads {items : List Value} (h : i.carriesFile (.array items) = true) :
      Shaped i (.array items) .files
  | array {items : List Value} (h : i.carriesFile (.array items) = false) :
      Shaped i (.array items) .array
  | file {members : Record} (h : i.carriesFile (.object members) = true) :
      Shaped i (.object members) .file
  | list {members : Record} (h : i.carriesFile (.object members) = true) :
      Shaped i (.object members) .files
  | blob {members : Record} (h : i.carriesFile (.object members) = false)
      (hblob : i.isBlob (.object members) = true) : Shaped i (.object members) .blob
  | object {members : Record} (h : i.carriesFile (.object members) = false)
      (hblob : i.isBlob (.object members) = false) : Shaped i (.object members) .object
  | other {v : Value} (h : v.isCompound = false) : Shaped i v .any

theorem shaped_ofShape (i : Inspector) (v : Value) : Shaped i v (ofShape i v) := by
  cases v with
  | array items =>
    rcases h : i.carriesFile (.array items) with _ | _
    · simpa [ofShape, h] using Shaped.array h
    · simpa [ofShape, h] using Shaped.uploads h
  | object members =>
    have hcarries := Inspector.carriesFile_eq (i := i) (v := .object members) rfl
    rcases hfile : i.isFile (.object members) with _ | _
    · rcases hlist : (i.fileList? (.object members)).isSome with _ | _
      · rw [hfile, hlist, Bool.or_self] at hcarries
        rcases hblob : i.isBlob (.object members) with _ | _
        · simpa [ofShape, hfile, hlist, hblob] using Shaped.object hcarries hblob
        · simpa [ofShape, hfile, hlist, hblob] using Shaped.blob hcarries hblob
      · rw [hfile, hlist, Bool.or_true] at hcarries
        simpa [ofShape, hfile, hlist] using Shaped.list hcarries
    · rw [hfile, Bool.true_or] at hcarries
      simpa [ofShape, hfile] using Shaped.file hcarries
  | string t => exact .text t
  | null | bool _ | number _ => exact .other rfl

/-- A value that no rule declares is a number, or has the type of its shape. -/
theorem infer_eq (i : Inspector) (v : Value) :
    (∃ x, v.binary64? = some x ∧ infer none (some v) i = ⟨.numeric, some (.ofBinary64 x)⟩) ∨
      v.binary64? = none ∧ ∃ t, infer none (some v) i = ⟨t, none⟩ ∧ Shaped i v t := by
  rcases hread : v.binary64? with _ | x
  · exact Or.inr ⟨rfl, _, by simp only [infer, ofValue, hread], shaped_ofShape i v⟩
  · exact Or.inl ⟨x, rfl, by simp only [infer, ofValue, hread]⟩

end Inference

/-! ### Inference and rules -/

namespace Subject

/-- Whether the rule of a subject passes. -/
def Passes (s : Subject) : Prop := ∃ o, s.evaluate = .ok o ∧ o.effect = .pass

variable {s : Subject} {v : Value}

/-- A rule that only tests the value passes just if the test holds, and stores nothing. -/
theorem passes_of_passIf {ok : Bool} (h : s.rule.check s = .ok (.passIf ok .plain)) :
    (s.Passes ↔ ok = true) ∧ (ok = true → s.evaluate = .ok .pass) := by
  have hevaluate := evaluate_eq_ok_iff.mpr h
  cases ok with
  | false => simp [Passes, hevaluate, Outcome.passIf, Outcome.fail]
  | true => simp [Passes, hevaluate, Outcome.passIf, Outcome.pass]

theorem passes_object_iff (hrule : s.rule = .object) :
    s.Passes ↔ ∃ members, s.value = some (.object members) ∧
      s.inspector.carriesFile (.object members) = false ∧
      s.inspector.isBlob (.object members) = false := by
  rw [(passes_of_passIf (by rw [hrule]; rfl)).1, Check.holds]
  rcases s.value with _ | v
  · simp
  · cases v with
    | object members => simp [Value.object?]
    | null | bool _ | number _ | string _ | array _ => simp [Value.object?]

theorem passes_files (hrule : s.rule = .files) (hargs : s.args = []) (hv : s.value = some v)
    (hcarries : s.inspector.carriesFile v = true) : s.Passes := by
  obtain ⟨fs, hfs⟩ := Option.isSome_iff_exists.mp hcarries
  have hfound : s.files? = some fs := by rw [files?, hv, Option.bind_some, hfs]
  have hkinds : Check.ofKinds s fs = true := by rw [Check.ofKinds, hargs]; rfl
  simp only [Passes, evaluate_eq_ok_iff, hrule, Builtin.check, Check.files, hfound, hkinds, hv]
  exact ⟨_, rfl, by split <;> rfl⟩

/-- The type of numbers comes with the number that `numeric` stores. -/
theorem infer_numeric_iff (hrule : s.rule = .numeric) (c : Value) :
    infer none s.value s.inspector = ⟨.numeric, some c⟩ ↔ s.evaluate = .ok (.passWith c) := by
  rw [evaluate_eq_ok_iff, hrule]
  show _ ↔ Check.numeric s = _
  rcases hv : s.value with _ | v
  · simp [infer, Check.numeric, hv, Check.storing, Outcome.fail, Outcome.passWith]
  · rcases Inference.infer_eq s.inspector v with ⟨x, hread, hfound⟩ | ⟨hread, t, hfound, -⟩
    · rw [hfound, Check.numeric_of_binary64? hv hread]
      simp [Outcome.passWith]
    · simp [hfound, Check.numeric, hv, hread, Check.storing, Outcome.fail, Outcome.passWith]

/-- A type that is not that of numbers, and says something, is the one of the value's shape. -/
theorem shaped_of_infer {t : DataType} (h : (infer none s.value s.inspector).dataType = t)
    (hnumeric : t ≠ .numeric) (hany : t ≠ .any) :
    ∃ v, s.value = some v ∧ Inference.Shaped s.inspector v t := by
  rcases hv : s.value with _ | v
  · rw [hv] at h
    exact absurd h.symm hany
  · rcases Inference.infer_eq s.inspector v with ⟨x, -, hfound⟩ | ⟨-, t', hfound, hshaped⟩
    · rw [hv, hfound] at h
      exact absurd h.symm hnumeric
    · rw [hv, hfound] at h
      exact ⟨v, rfl, h ▸ hshaped⟩

theorem infer_object_iff (hrule : s.rule = .object) :
    (infer none s.value s.inspector).dataType = .object ↔ s.Passes := by
  rw [passes_object_iff hrule]
  constructor
  · intro h
    obtain ⟨v, hv, hshaped⟩ := shaped_of_infer h (by decide) (by decide)
    cases hshaped with
    | object hcarries hblob => exact ⟨_, hv, hcarries, hblob⟩
  · rintro ⟨members, hv, hcarries, hblob⟩
    rcases Inference.infer_eq s.inspector (.object members) with ⟨x, hread, -⟩ |
      ⟨-, t, hfound, hshaped⟩
    · cases hread
    · rw [hv, hfound]
      cases hshaped with
      | object => rfl
      | file h | list h => exact absurd (hcarries.symm.trans h) (by decide)
      | blob _ h => exact absurd (hblob.symm.trans h) (by decide)
      | other h => cases h

/-- **Inference agrees with the datatype rules.** Whatever the inspector and the value are, and
    if there is none:

    * the type is that of numbers just if `numeric` passes, and the number that replaces the
      value is the one that the rule stores;
    * the type is that of objects just if `object` passes;
    * for the types of texts, arrays and blobs the rule of the same name passes and leaves the
      value alone;
    * for the types of files `files` passes, if it asks for no kinds. -/
theorem infer_agrees (s : Subject) :
    let found := infer none s.value s.inspector
    (s.rule = .numeric → ∀ c, found = ⟨.numeric, some c⟩ ↔ s.evaluate = .ok (.passWith c)) ∧
    (s.rule = .object → (found.dataType = .object ↔ s.Passes)) ∧
    (s.rule = .string → found.dataType = .string → s.evaluate = .ok .pass) ∧
    (s.rule = .array → found.dataType = .array → s.evaluate = .ok .pass) ∧
    (s.rule = .blob → found.dataType = .blob → s.evaluate = .ok .pass) ∧
    (s.rule = .files → s.args = [] → found.dataType = .file ∨ found.dataType = .files →
      s.Passes) := by
  intro found
  refine ⟨infer_numeric_iff, infer_object_iff, ?_, ?_, ?_, ?_⟩
  · intro hrule hfound
    obtain ⟨v, hv, hshaped⟩ := shaped_of_infer hfound (by decide) (by decide)
    cases hshaped with
    | text t => simp only [evaluate_eq_ok_iff, hrule, Builtin.check, Check.string, hv]
  · intro hrule hfound
    obtain ⟨v, hv, hshaped⟩ := shaped_of_infer hfound (by decide) (by decide)
    refine (passes_of_passIf (by rw [hrule]; rfl)).2 ?_
    cases hshaped with
    | array _ => simp [Check.holds, hv, Value.array?]
  · intro hrule hfound
    obtain ⟨v, hv, hshaped⟩ := shaped_of_infer hfound (by decide) (by decide)
    refine (passes_of_passIf (by rw [hrule]; rfl)).2 ?_
    cases hshaped with
    | blob _ hblob => simp [Check.holds, hv, hblob]
  · intro hrule hargs hfound
    have hcarries : ∃ v, s.value = some v ∧ s.inspector.carriesFile v = true := by
      rcases hfound with hfile | hfiles
      · obtain ⟨v, hv, hshaped⟩ := shaped_of_infer hfile (by decide) (by decide)
        cases hshaped with
        | file h => exact ⟨_, hv, h⟩
      · obtain ⟨v, hv, hshaped⟩ := shaped_of_infer hfiles (by decide) (by decide)
        cases hshaped with
        | uploads h | list h => exact ⟨_, hv, h⟩
    obtain ⟨v, hv, hcarries⟩ := hcarries
    exact passes_files hrule hargs hv hcarries

/-- A text that reads as a number, an object, and pages in the envelope of a list. -/
theorem infer_agrees_samples :
    (plain .numeric (.string "17")).evaluate = .ok (.passWith (.ofInt 17)) ∧
      (plain .object (.object [("a", .null)])).Passes ∧
      (plain .string (.string "a")).evaluate = .ok .pass ∧
      (plain .array (.array [])).evaluate = .ok .pass ∧
      (plain .blob (FileRef.blobValue 1 "")).evaluate = .ok .pass ∧
      (plain .files (FileRef.listValue pages)).Passes := by
  have hnumber : infer none (some (.string "17")) .envelopes = ⟨.numeric, some (.ofInt 17)⟩ := by
    have hgives : (Value.string "17").Gives 17 := Or.inr (congrArg Value.string (by decide))
    have hinteger : (Binary64.ofInt 17).integer? = some 17 := by decide +kernel
    simp only [infer, Inference.ofValue, Value.binary64?_of_gives hgives,
      Value.ofBinary64_of_integer? hinteger]
  refine ⟨?_, ?_, ?_, ?_, ?_, ?_⟩
  · exact ((infer_agrees (plain .numeric (.string "17"))).1 rfl _).mp hnumber
  · exact ((infer_agrees (plain .object (.object [("a", .null)]))).2.1 rfl).mp rfl
  · exact (infer_agrees (plain .string (.string "a"))).2.2.1 rfl (by rfl)
  · exact (infer_agrees (plain .array (.array []))).2.2.2.1 rfl rfl
  · exact (infer_agrees (plain .blob (FileRef.blobValue 1 ""))).2.2.2.2.1 rfl rfl
  · exact (infer_agrees (plain .files (FileRef.listValue pages))).2.2.2.2.2 rfl rfl (Or.inr rfl)

end Subject

end FormRules
