/-
  FormRules/Proofs/File/Envelope.lean
  ===================================
  **Files come back from their envelopes.**

  A file is described with all of its parts, so reading the description gives the file
  (`ofValue?_describe`), and reading an envelope gives what has been put into it.  Whether a
  list of files that is written as an array comes back is a question to the inspector: it
  has to read every envelope in it, and must not take the array itself for something else
  (`ReadsBack.files?_array`).  The inspector of envelopes does, if there is a file at all.
-/
import FormRules.File.Inspector

namespace FormRules

namespace FileRef

variable {f : FileRef} {fs : List FileRef}

/-! ### Descriptions -/

theorem sizeOf?_ofInt {n : Nat} (h : n < sizeLimit) : sizeOf? (.ofInt n) = some n := by
  have hbounds : 0 ≤ (n : Int) ∧ (n : Int) < sizeLimit :=
    ⟨Int.natCast_nonneg n, Int.ofNat_lt.mpr h⟩
  rw [Value.ofInt, sizeOf?, if_pos hbounds, Int.toNat_natCast]

theorem ofParts?_eq {name size mime : Option Value} (hname : part? none nameOf? name = some f.name)
    (hsize : part? 0 sizeOf? size = some f.size)
    (hmime : part? "" Value.string? mime = some f.mime) : ofParts? name size mime = some f := by
  rw [ofParts?, hname, hsize, hmime]

/-- **A file is what its description says.** -/
theorem ofValue?_describe (h : f.size < sizeLimit) : ofValue? f.describe = some f := by
  have hsize : part? 0 sizeOf? (some (.ofInt f.size)) = some f.size := by
    rw [part?, sizeOf?_ofInt h]
  rcases hname : f.name with _ | n
  · simp only [describe, hname, List.nil_append, ofValue?]
    apply ofParts?_eq
    · simp [Entries.get?, part?, hname]
    · simpa [Entries.get?] using hsize
    · simp [Entries.get?, part?, Value.string?]
  · simp only [describe, hname, List.cons_append, List.nil_append, ofValue?]
    apply ofParts?_eq
    · simp [Entries.get?, part?, nameOf?, hname]
    · simpa [Entries.get?] using hsize
    · simp [Entries.get?, part?, Value.string?]

theorem size_lt_of_sizeOf? {v : Value} {n : Nat} (h : sizeOf? v = some n) : n < sizeLimit := by
  unfold sizeOf? at h
  split at h
  · next m =>
    split at h
    · next hbounds =>
      obtain rfl := Option.some.inj h
      omega
    · cases h
  · cases h

theorem size_lt_of_ofParts? {name size mime : Option Value} (h : ofParts? name size mime = some f) :
    f.size < sizeLimit := by
  unfold ofParts? at h
  split at h
  · next n s m _ hsize _ =>
    obtain rfl := Option.some.inj h
    cases size with
    | none =>
      obtain rfl := Option.some.inj hsize
      exact Nat.pow_pos (by omega)
    | some v => exact size_lt_of_sizeOf? hsize
  · cases h

theorem size_lt_of_ofValue? {v : Value} (h : ofValue? v = some f) : f.size < sizeLimit := by
  cases v with
  | object members => exact size_lt_of_ofParts? h
  | array items =>
    rw [ofValue?] at h
    split at h
    · exact size_lt_of_ofParts? h
    · cases h
  | _ => cases h

theorem size_lt_of_listOf? {items : List Value} (h : listOf? items = some fs) :
    ∀ f ∈ fs, f.size < sizeLimit := by
  induction items generalizing fs with
  | nil =>
    obtain rfl := Option.some.inj h
    exact List.forall_mem_nil _
  | cons v rest ih =>
    unfold listOf? at h
    split at h
    · next f gs hf hgs =>
      obtain rfl := Option.some.inj h
      exact List.forall_mem_cons.mpr ⟨size_lt_of_ofValue? hf, ih hgs⟩
    · cases h

theorem listOf?_map_describe (h : ∀ f ∈ fs, f.size < sizeLimit) :
    listOf? (fs.map describe) = some fs := by
  induction fs with
  | nil => rfl
  | cons f rest ih =>
    have hrest := ih fun g hg => h g (List.mem_cons_of_mem f hg)
    rw [List.map_cons, listOf?, ofValue?_describe (h f List.mem_cons_self), hrest]

/-! ### Envelopes -/

theorem enveloped?_eq_some_iff {kind : String} {v inner : Value} :
    enveloped? kind v = some inner ↔ v = .object [(kind, inner)] := by
  constructor
  · intro h
    unfold enveloped? at h
    split at h
    · next name found =>
      split at h
      · next hkind =>
        rw [← hkind, Option.some.inj h]
      · cases h
    · cases h
  · rintro rfl
    rw [enveloped?, if_pos rfl]

end FileRef

namespace Inspector

variable {f : FileRef} {fs : List FileRef}

/-! ### Arrays of envelopes -/

/-- An inspector finds files in the array of their envelopes: it reads each of the envelopes,
    and the array is to it neither a file nor a list of files of its own kind. -/
structure ReadsBack (i : Inspector) (fs : List FileRef) : Prop where
  each : ∀ f ∈ fs, i.file? f.toValue = some f
  noFile : i.file? (.array (fs.map FileRef.toValue)) = none
  noList : i.fileList? (.array (fs.map FileRef.toValue)) = none

theorem allFiles?_map_toValue {i : Inspector} (h : ∀ f ∈ fs, i.file? f.toValue = some f) :
    i.allFiles? (fs.map FileRef.toValue) = some fs := by
  induction fs with
  | nil => rfl
  | cons f rest ih =>
    have hrest := ih fun g hg => h g (List.mem_cons_of_mem f hg)
    rw [List.map_cons, allFiles?, h f List.mem_cons_self, hrest]

/-- **Files come back from the array of their envelopes,** unless there are none. -/
theorem ReadsBack.files?_array {i : Inspector} (h : i.ReadsBack fs) (hne : fs ≠ []) :
    i.files? (.array (fs.map FileRef.toValue)) = some fs := by
  obtain ⟨f, rest, rfl⟩ := List.exists_cons_of_ne_nil hne
  have hall := allFiles?_map_toValue h.each
  simp only [files?, h.noFile, h.noList]
  exact hall

theorem files?_of_file? {i : Inspector} {v : Value} (h : i.file? v = some f) :
    i.files? v = some [f] := by
  simp only [files?, h]

/-! ### The inspector of envelopes -/

theorem file?_envelopes_iff {v : Value} :
    envelopes.file? v = some f ↔
      ∃ inner, v = .object [("$file", inner)] ∧ FileRef.ofValue? inner = some f := by
  show (FileRef.enveloped? "$file" v).bind FileRef.ofValue? = some f ↔ _
  simp only [Option.bind_eq_some_iff, FileRef.enveloped?_eq_some_iff]

theorem fileList?_envelopes_iff {v : Value} :
    envelopes.fileList? v = some fs ↔
      ∃ items, v = .object [("$files", .array items)] ∧ FileRef.listOf? items = some fs := by
  show ((FileRef.enveloped? "$files" v).bind fun inner =>
    inner.array?.bind FileRef.listOf?) = some fs ↔ _
  simp only [Option.bind_eq_some_iff, FileRef.enveloped?_eq_some_iff]
  constructor
  · rintro ⟨inner, rfl, items, hitems, hfiles⟩
    cases inner with
    | array found =>
      obtain rfl := Option.some.inj hitems
      exact ⟨found, rfl, hfiles⟩
    | _ => cases hitems
  · rintro ⟨items, rfl, hfiles⟩
    exact ⟨.array items, rfl, items, rfl, hfiles⟩

theorem file?_envelopes_toValue (h : f.size < sizeLimit) : envelopes.file? f.toValue = some f :=
  file?_envelopes_iff.mpr ⟨f.describe, rfl, FileRef.ofValue?_describe h⟩

theorem fileList?_envelopes_listValue (h : ∀ f ∈ fs, f.size < sizeLimit) :
    envelopes.fileList? (FileRef.listValue fs) = some fs :=
  fileList?_envelopes_iff.mpr ⟨_, rfl, FileRef.listOf?_map_describe h⟩

/-- The inspector of envelopes finds all files of a possible size. -/
theorem readsBack_envelopes (h : ∀ f ∈ fs, f.size < sizeLimit) : envelopes.ReadsBack fs where
  each f hf := file?_envelopes_toValue (h f hf)
  noFile := rfl
  noList := rfl

theorem size_lt_of_file?_envelopes {v : Value} (h : envelopes.file? v = some f) :
    f.size < sizeLimit := by
  obtain ⟨inner, -, hinner⟩ := file?_envelopes_iff.mp h
  exact FileRef.size_lt_of_ofValue? hinner

theorem size_lt_of_allFiles?_envelopes {items : List Value}
    (h : envelopes.allFiles? items = some fs) : ∀ f ∈ fs, f.size < sizeLimit := by
  induction items generalizing fs with
  | nil =>
    obtain rfl := Option.some.inj h
    exact List.forall_mem_nil _
  | cons v rest ih =>
    unfold allFiles? at h
    split at h
    · next f gs hf hgs =>
      obtain rfl := Option.some.inj h
      exact List.forall_mem_cons.mpr ⟨size_lt_of_file?_envelopes hf, ih hgs⟩
    · cases h

/-- **Whatever files the inspector of envelopes finds, it finds again in their envelopes.** -/
theorem readsBack_of_files?_envelopes {v : Value} (h : envelopes.files? v = some fs) :
    envelopes.ReadsBack fs := by
  apply readsBack_envelopes
  unfold files? at h
  split at h
  · next f hf =>
    obtain rfl := Option.some.inj h
    exact List.forall_mem_singleton.mpr (size_lt_of_file?_envelopes hf)
  · next gs _ hlist =>
    obtain rfl := Option.some.inj h
    obtain ⟨items, -, hitems⟩ := fileList?_envelopes_iff.mp hlist
    exact FileRef.size_lt_of_listOf? hitems
  · exact size_lt_of_allFiles?_envelopes h
  · cases h

end Inspector

end FormRules
