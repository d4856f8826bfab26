/-
  FormRules/Proofs/Check/Sizes.lean
  =================================
  **The size rules are one order.**

  Seven rules compare the size of a value with a bound.  What they look at is the same: the
  sizes of a value that has any (`Subject.Sizes`), and of these `between`, `min` and `max` look
  at each and the others at the largest.  So the rules are told by two tests of one order, and
  what holds between them is what holds in the order: that all sizes lie below a bound just if
  the largest does, and that the largest lies on one side of a bound and not on the other.

  A value without a size is on neither side.
-/
import FormRules.Proofs.Check.Local
import FormRules.Proofs.Number.Order

namespace FormRules

namespace Subject

/-! ### One value under several rules -/

/-- The subject under another rule. -/
def withRule (s : Subject) (rule : Builtin) (args : List String) : Subject := { s with rule, args }

/-- The rule lets the value through. -/
def PassedBy (s : Subject) (rule : Builtin) (args : List String) : Prop :=
  (s.withRule rule args).evaluate = .ok .pass

/-- The rule turns the value down. -/
def FailedBy (s : Subject) (rule : Builtin) (args : List String) : Prop :=
  ∃ f, (s.withRule rule args).evaluate = .ok (.fail f)

variable {s : Subject}

theorem PassedBy.not_failedBy {rule : Builtin} {args : List String} (h : s.PassedBy rule args) :
    ¬s.FailedBy rule args := by
  rintro ⟨f, hf⟩
  rw [h] at hf
  simp [Outcome.pass, Outcome.fail] at hf

theorem numberArg_withRule {rule : Builtin} {args : List String} {index : Nat} {raw : String}
    {x : Binary64} (hraw : args[index]? = some raw)
    (hx : Decimal.plain? (Text.trim raw.toList) = some x) :
    (s.withRule rule args).numberArg index = .ok x := by
  simp only [numberArg, arg, withRule, hraw, hx]

/-- A check that passes on a condition alone is told by the condition. -/
theorem judged_of_check {rule : Builtin} {args : List String} {ok : Bool} {f : Failure}
    (h : rule.check (s.withRule rule args) = .ok (.passIf ok f)) :
    (s.PassedBy rule args ↔ ok = true) ∧ (s.FailedBy rule args ↔ ok = false) := by
  have heval : (s.withRule rule args).evaluate = .ok (.passIf ok f) := evaluate_eq_ok_iff.mpr h
  rw [PassedBy, FailedBy, heval]
  cases ok <;> simp [Outcome.passIf, Outcome.pass, Outcome.fail]

theorem judged_bounded (rule : Builtin) {each : Bool} {test : Binary64 → Binary64 → Bool}
    (hcheck : rule.check = Check.bounded each test) {limit : String} {l : Binary64}
    (hl : Decimal.plain? (Text.trim limit.toList) = some l) :
    (s.PassedBy rule [limit] ↔ Check.sizesHold s each (test · l) = true) ∧
      (s.FailedBy rule [limit] ↔ Check.sizesHold s each (test · l) = false) := by
  apply judged_of_check
  rw [hcheck, Check.bounded, numberArg_withRule rfl hl]
  rfl

theorem judged_between {a b : String} {x y : Binary64}
    (ha : Decimal.plain? (Text.trim a.toList) = some x)
    (hb : Decimal.plain? (Text.trim b.toList) = some y) :
    (s.PassedBy .between [a, b] ↔
        Check.sizesHold s true (fun q => (x.min y).le q && q.le (x.max y)) = true) ∧
      (s.FailedBy .between [a, b] ↔
        Check.sizesHold s true (fun q => (x.min y).le q && q.le (x.max y)) = false) := by
  apply judged_of_check
  rw [Builtin.check, Check.between, numberArg_withRule rfl ha, numberArg_withRule rfl hb]
  rfl

/-! ### Values that have a size -/

/-- The value has a quantity that its type is measured by. -/
def Measured (s : Subject) : Prop :=
  match s.dataType with
  | .numeric | .integer => (s.value.bind Value.binary64?).isSome
  | .string => (s.value.bind Value.string?).isSome
  | .array => (s.value.bind Value.array?).isSome
  | .file => (s.value.bind s.inspector.file?).isSome
  | .files => s.files?.isSome
  | _ => False

/-- The sizes of a value, at least one; only a list of files has more. -/
structure Sizes (s : Subject) (first : Binary64) (rest : List Binary64) : Prop where
  each : s.value.bind (Check.sizes? s.inspector s.dataType true) = some (first :: rest)
  largest : s.value.bind (Check.sizes? s.inspector s.dataType false) =
    some [rest.foldl Binary64.max first]
  isNumber : ∀ x ∈ first :: rest, x.IsNumber
  single : s.dataType ≠ .files → rest = []

theorem measured_iff (each : Bool) (hfiles : s.dataType = .files → s.files? ≠ some []) :
    s.Measured ↔ (s.value.bind (Check.sizes? s.inspector s.dataType each)).isSome = true := by
  rw [Measured]
  rw [files?] at hfiles ⊢
  cases hv : s.value with
  | none => cases s.dataType <;> simp
  | some v =>
    rw [hv] at hfiles
    cases htype : s.dataType <;> simp only [Option.bind_some, Check.sizes?, DataType.comparison,
      Option.isSome_map, Option.isSome_none, Bool.false_eq_true]
    case files =>
      cases hfs : s.inspector.files? v with
      | none => simp
      | some fs =>
        cases fs with
        | nil => exact absurd hfs (hfiles htype)
        | cons f fs => cases each <;> simp [Check.fileSizes]

/-- Other than a list of files, a value has one size, however it is looked at. -/
theorem exists_single_of_sizes? {i : Inspector} {t : DataType} (ht : t ≠ .files) {v : Value}
    {sizes : List Binary64} (h : Check.sizes? i t true v = some sizes) :
    ∃ x, x.IsNumber ∧ ∀ each, Check.sizes? i t each v = some [x] := by
  cases t <;> simp only [Check.sizes?, DataType.comparison] at h ⊢
  case numeric | integer =>
    obtain ⟨x, hx, -⟩ := Option.map_eq_some_iff.mp h
    exact ⟨x, Value.isNumber_of_binary64? hx, fun _ => by rw [hx]; rfl⟩
  case string | array | file =>
    obtain ⟨counted, hcounted, -⟩ := Option.map_eq_some_iff.mp h
    exact ⟨_, Binary64.isNumber_ofInt _, fun _ => by rw [hcounted]; rfl⟩
  case files => exact absurd rfl ht
  all_goals cases h

theorem Measured.exists_sizes (h : s.Measured)
    (hfiles : s.dataType = .files → s.files? ≠ some []) : ∃ first rest, s.Sizes first rest := by
  obtain ⟨sizes, hsizes⟩ := Option.isSome_iff_exists.mp ((measured_iff true hfiles).mp h)
  obtain ⟨v, hv, hsome⟩ := Option.bind_eq_some_iff.mp hsizes
  by_cases htype : s.dataType = .files
  · rw [htype] at hsome
    obtain ⟨fs, hfs, -⟩ := Option.bind_eq_some_iff.mp hsome
    rcases fs with _ | ⟨f, fs⟩
    · exact absurd (by rw [files?, hv, Option.bind_some, hfs]) (hfiles htype)
    · refine ⟨Check.ofCount f.size, fs.map fun g => Check.ofCount g.size, ?_, ?_, ?_, absurd htype⟩
      · simp [hv, htype, Check.sizes?, DataType.comparison, hfs, Check.fileSizes]
      · simp [hv, htype, Check.sizes?, DataType.comparison, hfs, Check.fileSizes]
      · intro x hx
        rw [← List.map_cons (f := fun g : FileRef => Check.ofCount g.size)] at hx
        obtain ⟨g, -, rfl⟩ := List.mem_map.mp hx
        exact Binary64.isNumber_ofInt _
  · obtain ⟨x, hx, hall⟩ := exists_single_of_sizes? htype hsome
    refine ⟨x, [], ?_, ?_, by simpa using hx, fun _ => rfl⟩
    · rw [hv, Option.bind_some, hall]
    · rw [hv, Option.bind_some, hall, List.foldl_nil]

/-! ### Tests of sizes -/

theorem Sizes.sizesHold_each {first : Binary64} {rest : List Binary64} (h : s.Sizes first rest)
    (test : Binary64 → Bool) : Check.sizesHold s true test = (first :: rest).all test := by
  rw [Check.sizesHold, h.each]

theorem Sizes.sizesHold_largest {first : Binary64} {rest : List Binary64} (h : s.Sizes first rest)
    (test : Binary64 → Bool) :
    Check.sizesHold s false test = test (rest.foldl Binary64.max first) := by
  rw [Check.sizesHold, h.largest]
  exact Bool.and_true _

theorem sizesHold_of_not_measured (h : ¬s.Measured)
    (hfiles : s.dataType = .files → s.files? ≠ some []) (each : Bool) (test : Binary64 → Bool) :
    Check.sizesHold s each test = false := by
  have hnone := Option.not_isSome_iff_eq_none.mp (mt (measured_iff each hfiles).mpr h)
  rw [Check.sizesHold, hnone]

/-- A value has sizes, or no test of them holds. -/
theorem exists_sizes_or_not_sizesHold (hfiles : s.dataType = .files → s.files? ≠ some []) :
    (∃ first rest, s.Sizes first rest) ∨ ∀ each test, Check.sizesHold s each test = false := by
  by_cases h : s.Measured
  · exact Or.inl (h.exists_sizes hfiles)
  · exact Or.inr fun each test => sizesHold_of_not_measured h hfiles each test

theorem sizesHold_and (each : Bool) (test test' : Binary64 → Bool) :
    Check.sizesHold s each (fun q => test q && test' q) = true ↔
      Check.sizesHold s each test = true ∧ Check.sizesHold s each test' = true := by
  simp only [Check.sizesHold]
  cases s.value.bind (Check.sizes? s.inspector s.dataType each) with
  | none => simp
  | some sizes => simp [List.all_eq_true, forall_and]

/-! ### Each against another -/

/-- The rules with one bound. -/
def boundRules : List Builtin := [.min, .max, .gt, .gte, .lt, .lte]

theorem exists_bounded_of_mem {rule : Builtin} (h : rule ∈ boundRules) :
    ∃ each test, rule.check = Check.bounded each test := by
  simp only [boundRules, List.mem_cons, List.not_mem_nil, or_false] at h
  rcases h with rfl | rfl | rfl | rfl | rfl | rfl <;> exact ⟨_, _, rfl⟩

/-- Of two rules one passes and the other fails. -/
def Splits (s : Subject) (rule other : Builtin) (args : List String) : Prop :=
  s.PassedBy rule args ∧ s.FailedBy other args ∨ s.FailedBy rule args ∧ s.PassedBy other args

section Bounds

variable {limit : String} {l : Binary64}
  (hl : Decimal.plain? (Text.trim limit.toList) = some l)

include hl

theorem passedBy_or_failedBy {rule : Builtin} (hrule : rule ∈ boundRules) :
    s.PassedBy rule [limit] ∨ s.FailedBy rule [limit] := by
  obtain ⟨each, test, hcheck⟩ := exists_bounded_of_mem hrule
  obtain ⟨hpassed, hfailed⟩ := judged_bounded (s := s) rule hcheck hl
  rw [hpassed, hfailed]
  exact Bool.eq_false_or_eq_true _

theorem failedBy_of_not_measured (h : ¬s.Measured)
    (hfiles : s.dataType = .files → s.files? ≠ some []) {rule : Builtin}
    (hrule : rule ∈ boundRules) : s.FailedBy rule [limit] := by
  obtain ⟨each, test, hcheck⟩ := exists_bounded_of_mem hrule
  exact (judged_bounded rule hcheck hl).2.mpr (sizesHold_of_not_measured h hfiles each _)

/-- Rules that look at the largest size and test for opposite sides. -/
theorem splits_of_largest {first : Binary64} {rest : List Binary64} (hsizes : s.Sizes first rest)
    {rule other : Builtin} {test test' : Binary64 → Binary64 → Bool}
    (hrule : rule.check = Check.bounded false test)
    (hother : other.check = Check.bounded false test')
    (hopposite : ∀ x, x.IsNumber → test x l = !test' x l) : s.Splits rule other [limit] := by
  obtain ⟨hpassed, hfailed⟩ := judged_bounded (s := s) rule hrule hl
  obtain ⟨hpassed', hfailed'⟩ := judged_bounded (s := s) other hother hl
  have hlargest := hsizes.isNumber _ (Binary64.foldl_max_mem first rest)
  rw [Splits, hpassed, hfailed, hpassed', hfailed', hsizes.sizesHold_largest,
    hsizes.sizesHold_largest, hopposite _ hlargest]
  cases test' (rest.foldl Binary64.max first) l <;> simp

theorem passedBy_max_iff_lte (hfiles : s.dataType = .files → s.files? ≠ some []) :
    s.PassedBy .max [limit] ↔ s.PassedBy .lte [limit] := by
  rw [(judged_bounded .max rfl hl).1, (judged_bounded .lte rfl hl).1]
  rcases exists_sizes_or_not_sizesHold hfiles with ⟨first, rest, hsizes⟩ | hnone
  · rw [hsizes.sizesHold_each, hsizes.sizesHold_largest, List.all_eq_true,
      Binary64.foldl_max_le_iff hsizes.isNumber]
  · rw [hnone, hnone]

theorem passedBy_gte_of_min (hfiles : s.dataType = .files → s.files? ≠ some [])
    (hmin : s.PassedBy .min [limit]) : s.PassedBy .gte [limit] := by
  rw [(judged_bounded .min rfl hl).1] at hmin
  rw [(judged_bounded .gte rfl hl).1]
  rcases exists_sizes_or_not_sizesHold hfiles with ⟨first, rest, hsizes⟩ | hnone
  · rw [hsizes.sizesHold_each, List.all_eq_true] at hmin
    rw [hsizes.sizesHold_largest]
    exact hmin _ (Binary64.foldl_max_mem first rest)
  · rw [hnone] at hmin
    cases hmin

theorem passedBy_min_of_gte (htype : s.dataType ≠ .files) (hgte : s.PassedBy .gte [limit]) :
    s.PassedBy .min [limit] := by
  have hfiles : s.dataType = .files → s.files? ≠ some [] := fun h => absurd h htype
  rw [(judged_bounded .gte rfl hl).1] at hgte
  rw [(judged_bounded .min rfl hl).1]
  rcases exists_sizes_or_not_sizesHold hfiles with ⟨first, rest, hsizes⟩ | hnone
  · obtain rfl := hsizes.single htype
    rw [hsizes.sizesHold_largest, List.foldl_nil] at hgte
    rw [hsizes.sizesHold_each, List.all_cons, hgte]
    rfl
  · rw [hnone] at hgte
    cases hgte

end Bounds

theorem passedBy_between_iff {a b : String} {x y : Binary64}
    (ha : Decimal.plain? (Text.trim a.toList) = some x)
    (hb : Decimal.plain? (Text.trim b.toList) = some y) :
    s.PassedBy .between [a, b] ↔
      s.PassedBy .min [if x.le y then a else b] ∧ s.PassedBy .max [if x.le y then b else a] := by
  have hx := Decimal.isNumber_of_plain? ha
  have hy := Decimal.isNumber_of_plain? hb
  have hlow : Decimal.plain? (Text.trim (if x.le y then a else b).toList) =
      some (if x.le y then x else y) := by
    split <;> assumption
  have hhigh : Decimal.plain? (Text.trim (if x.le y then b else a).toList) =
      some (if x.le y then y else x) := by
    split <;> assumption
  rw [(judged_between ha hb).1, sizesHold_and, (judged_bounded .min rfl hlow).1,
    (judged_bounded .max rfl hhigh).1, Binary64.min_eq_ite hx hy]
  simp only [Binary64.le_max_eq hx hy]

/-! ### The order -/

/-- **The size rules are one order.** With bounds that are numbers none is an error, and
`between` is `min` of the smaller bound and `max` of the larger. A value with a size is on one
side of each bound, and one without a size fails every rule. `max` and `lte` are the same, and
so are `min` and `gte` except for files, of which `gte` asks the largest alone. -/
theorem size_rules_ordered (s : Subject) (hfiles : s.dataType = .files → s.files? ≠ some [])
    {a b limit : String} {x y l : Binary64}
    (ha : Decimal.plain? (Text.trim a.toList) = some x)
    (hb : Decimal.plain? (Text.trim b.toList) = some y)
    (hl : Decimal.plain? (Text.trim limit.toList) = some l) :
    ((s.PassedBy .between [a, b] ∨ s.FailedBy .between [a, b]) ∧
        ∀ rule ∈ boundRules, s.PassedBy rule [limit] ∨ s.FailedBy rule [limit]) ∧
      (s.PassedBy .between [a, b] ↔
        s.PassedBy .min [if x.le y then a else b] ∧ s.PassedBy .max [if x.le y then b else a]) ∧
      (s.Measured → s.Splits .gt .lte [limit] ∧ s.Splits .gte .lt [limit]) ∧
      (¬s.Measured → s.FailedBy .between [a, b] ∧ ∀ rule ∈ boundRules, s.FailedBy rule [limit]) ∧
      (s.PassedBy .max [limit] ↔ s.PassedBy .lte [limit]) ∧
      (s.PassedBy .min [limit] → s.PassedBy .gte [limit]) ∧
      (s.dataType ≠ .files → s.PassedBy .gte [limit] → s.PassedBy .min [limit]) := by
  have hbetween := judged_between (s := s) ha hb
  have hlimit := Decimal.isNumber_of_plain? hl
  refine ⟨⟨?_, fun rule => passedBy_or_failedBy hl⟩, passedBy_between_iff ha hb, ?_, ?_,
    passedBy_max_iff_lte hl hfiles, passedBy_gte_of_min hl hfiles,
    passedBy_min_of_gte hl⟩
  · rw [hbetween.1, hbetween.2]
    exact Bool.eq_false_or_eq_true _
  · intro h
    obtain ⟨first, rest, hsizes⟩ := h.exists_sizes hfiles
    constructor
    · exact splits_of_largest hl hsizes rfl rfl fun q hq => Binary64.lt_eq_not_le hlimit hq
    · apply splits_of_largest hl hsizes rfl rfl
      intro q hq
      rw [Binary64.lt_eq_not_le hq hlimit, Bool.not_not]
  · intro h
    constructor
    · exact hbetween.2.mpr (sizesHold_of_not_measured h hfiles _ _)
    · exact fun rule => failedBy_of_not_measured hl h hfiles

/-- Two files of different sizes. -/
def twoFiles : Subject :=
  ⟨"f", .min, [], .files,
    [("f", FileRef.listValue [⟨some "a.png", 10, "image/png"⟩, ⟨some "b.png", 50, "image/png"⟩])],
    .envelopes, [], fun _ => true, 8, 0⟩

/-- Two files on their bounds: both lie between them, and the larger one is not above. -/
theorem size_rules_ordered_twoFiles :
    twoFiles.PassedBy .between ["50", " 10"] ∧ twoFiles.PassedBy .lte ["50"] ∧
      twoFiles.FailedBy .gt ["50"] ∧ twoFiles.PassedBy .gte ["50"] ∧
      twoFiles.FailedBy .lt ["50"] ∧ twoFiles.FailedBy .min ["50"] := by
  have hread : Decimal.plain? (Text.trim "50".toList) = some (.ofInt 50) := by decide +kernel
  have hread' : Decimal.plain? (Text.trim " 10".toList) = some (.ofInt 10) := by decide +kernel
  have horder : (Binary64.ofInt 50).le (.ofInt 10) = false := by decide +kernel
  have hmin : twoFiles.PassedBy .min [" 10"] :=
    (judged_bounded .min rfl hread').1.mpr (by decide +kernel)
  have hmax : twoFiles.PassedBy .max ["50"] :=
    (judged_bounded .max rfl hread).1.mpr (by decide +kernel)
  have hsmall : twoFiles.FailedBy .min ["50"] :=
    (judged_bounded .min rfl hread).2.mpr (by decide +kernel)
  have hlargest : twoFiles.PassedBy .gte ["50"] :=
    (judged_bounded .gte rfl hread).1.mpr (by decide +kernel)
  obtain ⟨-, hbetween, hsplits, -, hlte, -, -⟩ :=
    size_rules_ordered twoFiles (fun _ => by decide +kernel) hread hread' hread
  rw [horder] at hbetween
  obtain ⟨habove, hbelow⟩ := hsplits rfl
  refine ⟨hbetween.mpr ⟨hmin, hmax⟩, hlte.mp hmax, ?_, hlargest, ?_, hsmall⟩
  · rcases habove with ⟨-, hfailed⟩ | ⟨hfailed, -⟩
    · exact absurd hfailed (hlte.mp hmax).not_failedBy
    · exact hfailed
  · rcases hbelow with ⟨-, hfailed⟩ | ⟨hfailed, -⟩
    · exact hfailed
    · exact absurd hfailed hlargest.not_failedBy

end Subject

end FormRules
