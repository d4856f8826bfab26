/-
  FormRules/Proofs/Inference.lean
  ===============================
  **Which types the inspector decides.**

  Without a datatype rule, and if it reads as no number, a value takes its type from what the
  inspector recognises in it.  This holds of arrays and objects, whatever the inspector.  Of
  texts, truth values and null the inspector is not even asked: their types follow it just if
  it finds no files in them (`infer_followsInspector_iff`).

  So an inspector whose files are texts finds them everywhere but here.  Such a file has the
  type of a text, and rules about sizes count the letters of its name
  (`infer_not_followsInspector`).
-/
import FormRules.Check.Evaluate
import FormRules.Inference

namespace FormRules

namespace Inspector

variable {i : Inspector} {v : Value}

/-- Beside arrays, only single files and lists of files carry files. -/
theorem carriesFile_eq (hv : v.array? = none) :
    i.carriesFile v = (i.isFile v || (i.fileList? v).isSome) := by
  rcases hfile : i.file? v with _ | f
  · rcases hlist : i.fileList? v with _ | fs
    · cases v with
      | array items => cases hv
      | null | bool _ | number _ | string _ | object _ =>
        simp only [carriesFile, files?, isFile, hfile, hlist, Option.isSome_none, Bool.or_self]
    · simp only [carriesFile, files?, isFile, hfile, hlist, Option.isSome_some, Option.isSome_none,
        Bool.or_true]
  · simp only [carriesFile, files?, isFile, hfile, Option.isSome_some, Bool.true_or]

end Inspector

namespace Inference

/-- The type of a value is the one that the inspector's answers ask for: of an array, whether
    it carries files, and of any other value, whether it is a file or else a list of files. -/
structure FollowsInspector (i : Inspector) (v : Value) (t : DataType) : Prop where
  array : v.array?.isSome = true → t = if i.carriesFile v then .files else .array
  file : v.array? = none → i.isFile v = true → t = .file
  list : v.array? = none → i.isFile v = false → (i.fileList? v).isSome = true → t = .files

variable {i : Inspector} {v : Value}

theorem dataType_infer (hv : v.binary64? = none) : (infer none (some v) i).dataType = ofShape i v := by
  simp only [infer, ofValue, hv]

theorem followsInspector_of_isCompound (hv : v.isCompound = true) :
    FollowsInspector i v (ofShape i v) := by
  cases v with
  | array items =>
    constructor
    case array => exact fun _ => rfl
    all_goals
      intro hnone
      cases hnone
  | object members =>
    constructor
    case array =>
      intro hsome
      cases hsome
    case file =>
      intro _ hfile
      rw [ofShape, if_pos hfile]
    case list =>
      intro _ hfile hlist
      rw [ofShape, if_neg (by simp [hfile]), if_pos hlist]
  | null | bool _ | number _ | string _ => cases hv

/-- The inspector is not asked about a value that is neither an array nor an object. -/
theorem ofShape_scalar (hv : v.isCompound = false) :
    v.array? = none ∧ ofShape i v ≠ .file ∧ ofShape i v ≠ .files := by
  cases v with
  | null | bool _ | number _ | string _ => simp [Value.array?, ofShape]
  | array _ | object _ => cases hv

theorem followsInspector_scalar_iff (hv : v.isCompound = false) :
    FollowsInspector i v (ofShape i v) ↔ i.carriesFile v = false := by
  obtain ⟨harray, hnofile, hnolist⟩ := ofShape_scalar (i := i) hv
  rw [Inspector.carriesFile_eq harray, Bool.or_eq_false_iff]
  constructor
  · intro h
    have hfile : i.isFile v = false :=
      Bool.eq_false_iff.mpr fun hfile => hnofile (h.file harray hfile)
    exact ⟨hfile, Bool.eq_false_iff.mpr fun hlist => hnolist (h.list harray hfile hlist)⟩
  · rintro ⟨hfile, hlist⟩
    constructor
    · simp [harray]
    · simp [hfile]
    · simp [hlist]

/-- **The type of a value follows the inspector, unless the value is a scalar in which it finds
    files.** The value reads as no number, and no datatype rule declares its type. Then the type
    is the one that the inspector's answers ask for just if the value is an array or an object,
    or if the inspector finds no files in it. -/
theorem infer_followsInspector_iff (i : Inspector) {v : Value} (hv : v.binary64? = none) :
    FollowsInspector i v (infer none (some v) i).dataType ↔
      v.isCompound = true ∨ i.carriesFile v = false := by
  rw [dataType_infer hv]
  rcases hcompound : v.isCompound with _ | _
  · rw [followsInspector_scalar_iff hcompound]
    simp
  · exact iff_of_true (followsInspector_of_isCompound hcompound) (Or.inl rfl)

/-- An inspector to which every text is the name of a picture of 5000 bytes. -/
def pictures : Inspector where
  file?
    | .string name => some ⟨some name, 5000, "image/png"⟩
    | _ => none
  fileList? _ := none
  isBlob _ := false

theorem infer_followsInspector_pictures :
    (Value.array [.string "a.png"]).binary64? = none ∧
      FollowsInspector pictures (.array [.string "a.png"])
        (infer none (some (.array [.string "a.png"])) pictures).dataType ∧
      (infer none (some (.array [.string "a.png"])) pictures).dataType = .files :=
  ⟨rfl, (infer_followsInspector_iff pictures rfl).mpr (Or.inl rfl), rfl⟩

/-- **A file that is a text has the type of a text.** The inspector finds a file in it, and the
    type says nothing of this. So `max` measures the wrong thing: the name is short enough, and
    the file is too large. -/
theorem infer_not_followsInspector :
    let picture : Value := .string "a.png"
    let atMost100 (t : DataType) : Bool :=
      match Subject.evaluate ⟨"f", .max, ["100"], t, [("f", picture)], pictures, [], fun _ => true,
        8, 0⟩ with
      | .ok ⟨none, .pass⟩ => true
      | _ => false
    picture.binary64? = none ∧ pictures.isFile picture = true ∧
      (infer none (some picture) pictures).dataType = .string ∧
      ¬ FollowsInspector pictures picture (infer none (some picture) pictures).dataType ∧
      atMost100 .string = true ∧ atMost100 .file = false := by
  have hread : (Value.string "a.png").binary64? = none := by decide
  have htype : (infer none (some (.string "a.png")) pictures).dataType = .string := by
    rw [dataType_infer hread]
    rfl
  refine ⟨hread, rfl, htype, ?_, by decide +kernel⟩
  intro h
  have hfile := h.file rfl rfl
  rw [htype] at hfile
  cases hfile

end Inference

end FormRules
