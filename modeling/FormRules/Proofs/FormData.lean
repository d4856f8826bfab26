/-
  FormRules/Proofs/FormData.lean
  ==============================
  **A form has a part for every file of its record.**

  There are two readers of files.  An inspector asks first for one file, then for a list,
  then for an array of files; the encoder of forms asks for a list first, then for an array,
  and for one file last.  They agree where nothing is at once one file and several
  (`ofEntry_eq`), and the inspector of envelopes keeps these apart, since an envelope has one
  member, whose name says which it is.
-/
import FormRules.FormData
import FormRules.Proofs.File.Envelope

namespace FormRules

/-- An inspector that takes nothing that is one file for several. -/
structure Inspector.Separates (i : Inspector) : Prop where
  list : ∀ v f, i.file? v = some f → i.fileList? v = none
  array : ∀ items, i.file? (.array items) = none

theorem Inspector.separates_envelopes : envelopes.Separates where
  list v f h := by
    obtain ⟨inner, rfl, -⟩ := file?_envelopes_iff.mp h
    rfl
  array _ := rfl

namespace FormData

open Inspector

/-- A file with the name of its part: that of the attribute if the value is one file, else the
    one with brackets. -/
def filePart (i : Inspector) (name : String) (v : Value) (f : FileRef) : String × FormPart :=
  (if i.isFile v then name else name ++ "[]", .file f)

variable {i : Inspector} {name : String} {v : Value} {fs : List FileRef}

/-- **The parts of an attribute are its files in order,** or its text if it carries none. -/
theorem ofEntry_eq (h : i.Separates) (name : String) (v : Value) :
    ofEntry i name v =
      match i.files? v with
      | some fs => fs.map (filePart i name v)
      | none => [(name, .text v.toText)] := by
  rcases hfile : i.file? v with _ | f
  · have hname : filePart i name v = fun f => (name ++ "[]", .file f) := by
      funext f
      rw [filePart, isFile, hfile]
      rfl
    rcases hlist : i.fileList? v with _ | fs
    · cases v with
      | array items =>
        rcases hfiles : i.files? (.array items) with _ | fs
        · simp only [ofEntry, several?, hlist, hfiles, hfile]
        · simp only [ofEntry, several?, hlist, hfiles, hname]
      | _ => simp only [ofEntry, several?, files?, hlist, hfile]
    · simp only [ofEntry, several?, files?, hlist, hfile, hname]
  · -- The encoder looks for several files first, but one file is never several.
    have hseveral : several? i v = none := by
      cases v with
      | array items =>
        rw [h.array items] at hfile
        cases hfile
      | _ => simp only [several?, h.list _ f hfile]
    have hname : filePart i name v f = (name, .file f) := by
      rw [filePart, isFile, hfile]
      rfl
    simp only [ofEntry, hseveral, hfile, files?, List.map_cons, List.map_nil, hname]

theorem hasFile_iff (d : FormData) : d.hasFile = true ↔ ∃ name f, (name, .file f) ∈ d := by
  rw [hasFile, List.any_eq_true]
  constructor
  · rintro ⟨⟨name, part⟩, hmem, hfile⟩
    cases part with
    | text s => cases hfile
    | file f => exact ⟨name, f, hmem⟩
  · rintro ⟨name, f, hmem⟩
    exact ⟨_, hmem, rfl⟩

/-- A record has a part that is a file just if an attribute carries one. -/
theorem exists_file_iff (h : i.Separates) (r : Record) :
    (∃ name f, (name, .file f) ∈ ofRecord i r) ↔
      ∃ e ∈ r, ∃ fs, i.files? e.2 = some fs ∧ fs ≠ [] := by
  constructor
  · rintro ⟨name, f, hmem⟩
    obtain ⟨e, he, hpart⟩ := List.mem_flatMap.mp hmem
    rw [ofEntry_eq h] at hpart
    rcases hfiles : i.files? e.2 with _ | fs
    · simp [hfiles] at hpart
    · simp only [hfiles] at hpart
      exact ⟨e, he, fs, hfiles, fun hnil => by simp [hnil] at hpart⟩
  · rintro ⟨e, he, fs, hfiles, hne⟩
    obtain ⟨f, rest, rfl⟩ := List.exists_cons_of_ne_nil hne
    have hpart : filePart i e.1 e.2 f ∈ ofEntry i e.1 e.2 := by
      rw [ofEntry_eq h, hfiles]
      exact List.mem_cons_self
    exact ⟨_, f, List.mem_flatMap.mpr ⟨e, he, hpart⟩⟩

/-- Two files, one of which has no name and the largest possible size. -/
def scans : List FileRef := [⟨none, 18446744073709551615, ""⟩, ⟨some "a.png", 0, "image/png"⟩]

end FormData

end FormRules
