/-
  FormRules/Check/Size.lean
  =========================
  **Rules about sizes.**

  The size of a value depends on its type: the number itself, the characters of a text,
  the items of an array, the bytes of a file.  Of several files `between`, `min` and
  `max` look at each one, the other rules at the largest.  A value without a size fails.
-/
import FormRules.Check.Outcome

namespace FormRules.Check

/-- A count as a number. -/
def ofCount (n : Nat) : Binary64 := .ofInt n

/-- The sizes of files: each one, or only the largest, which there has to be. -/
def fileSizes (each : Bool) (fs : List FileRef) : Option (List Binary64) :=
  let sizes := fs.map fun f => ofCount f.size
  if each then some sizes
  else
    match sizes with
    | [] => none
    | first :: rest => some [rest.foldl Binary64.max first]

/-- The sizes of a value of a type, one for each thing to be measured. -/
def sizes? (i : Inspector) (t : DataType) (each : Bool) (v : Value) : Option (List Binary64) :=
  match t.comparison with
  | .numeric => v.binary64?.map ([·])
  | .string => v.string?.map fun text => [ofCount text.toList.length]
  | .array => v.array?.map fun items => [ofCount items.length]
  | .file => (i.file? v).map fun f => [ofCount f.size]
  | .files => (i.files? v).bind (fileSizes each)
  | _ => none

/-- Whether there is a size and all sizes satisfy a test. -/
def sizesHold (s : Subject) (each : Bool) (test : Binary64 → Bool) : Bool :=
  match s.value.bind (sizes? s.inspector s.dataType each) with
  | some sizes => sizes.all test
  | none => false

/-- A failure that is worded by type. -/
def sizeFailure (s : Subject) (params : Entries String) : Failure :=
  ⟨some s.dataType.comparison.name, params, none⟩

/-- The parameters for two bounds. -/
def boundParams (low high : Binary64) : Entries String :=
  [("min", Value.numberText low), ("max", Value.numberText high)]

/-- Between two bounds, which may be given in either order. -/
def between : Check := fun s => do
  let a ← s.numberArg 0
  let b ← s.numberArg 1
  let low := a.min b
  let high := a.max b
  return .passIf (sizesHold s true fun x => low.le x && x.le high)
    (sizeFailure s (boundParams low high))

/-- A rule with one bound. -/
def bounded (each : Bool) (test : Binary64 → Binary64 → Bool) : Check := fun s => do
  let limit ← s.numberArg 0
  return .passIf (sizesHold s each fun x => test x limit)
    (sizeFailure s [(s.rule.name, Value.numberText limit)])

/-- At least the bound, for each file. -/
def min : Check := bounded true fun x limit => limit.le x

/-- At most the bound, for each file. -/
def max : Check := bounded true fun x limit => x.le limit

/-- More than the bound. -/
def gt : Check := bounded false fun x limit => limit.lt x

/-- At least the bound. -/
def gte : Check := bounded false fun x limit => limit.le x

/-- Less than the bound. -/
def lt : Check := bounded false fun x limit => x.lt limit

/-- At most the bound. -/
def lte : Check := bounded false fun x limit => x.le limit

/-! ### Rules about numbers alone -/

/-- Whether the value reads as a number that satisfies a test. -/
def numberHolds (s : Subject) (test : Binary64 → Bool) : Bool :=
  match s.value.bind Value.binary64? with
  | some x => test x
  | none => false

/-- A number from the first bound up to the second. -/
def range : Check := fun s => do
  let low ← s.numberArg 0
  let high ← s.numberArg 1
  return .passIf (numberHolds s fun x => low.le x && x.le high)
    (.withParams (boundParams low high))

/-- How far from an integer a ratio may lie, 10⁻⁹. -/
def ratioTolerance : Binary64 := .ofDecimal false 1 (-9)

/-- Whether a ratio is an integer within the tolerance. -/
def isNearInteger (ratio : Binary64) : Bool :=
  match ratio.distanceToInteger? with
  | some units => (Binary64.ofUnits false units).lt ratioTolerance
  | none => false

/-- A multiple of the argument, which is not zero. -/
def multipleOf : Check := fun s => do
  let step ← s.numberArg 0
  if step.isZero then throw .zeroDivisor
  let text := Value.numberText step
  return .passIf (numberHolds s fun x => isNearInteger (x.div step))
    (.withParams [("number", text), ("multiple_of", text)])

/-- So many ASCII digits and nothing else. -/
def digits : Check := fun s => do
  let count ← s.numberArg 0
  let ok := match s.chars? with
    | some cs => !cs.isEmpty && cs.all Char.isDigit && (ofCount cs.length).eq count
    | none => false
  return .passIf ok (.withParams [("digits", Value.numberText count)])

end FormRules.Check
