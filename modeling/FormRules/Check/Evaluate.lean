/-
  FormRules/Check/Evaluate.lean
  =============================
  **What each built-in rule checks.**

  A rule is its name in specifications and the check behind it.  Arguments that do not
  fit become an error that names the attribute and the rule.
-/
import FormRules.Check.Agreement
import FormRules.Check.Content
import FormRules.Check.Moments
import FormRules.Check.Presence
import FormRules.Check.Sanitizing
import FormRules.Check.Size
import FormRules.Check.Typing
import FormRules.Check.Uploads

namespace FormRules

/-- The check of a built-in rule. -/
def Builtin.check : Builtin → Check
  | .fill => Check.fill
  | .ifEmpty => Check.ifEmpty
  | .fillable => Check.fillable
  | .nullable => Check.nullable
  | .required => Check.required
  | .requiredIf => Check.requiredIf
  | .requiredUnless => Check.requiredUnless
  | .requiredWith => Check.requiredWith
  | .requiredWithAll => Check.requiredWithAll
  | .requiredWithout => Check.requiredWithout
  | .requiredWithoutAll => Check.requiredWithoutAll
  | .blob => Check.blob
  | .date => Check.date
  | .datetime => Check.datetime
  | .array => Check.array
  | .object => Check.object
  | .numeric => Check.numeric
  | .integer => Check.integer
  | .string => Check.string
  | .file => Check.file
  | .files => Check.files
  | .boolean => Check.boolean
  | .url => Check.url
  | .ip => Check.ip
  | .email => Check.email
  | .uuid => Check.uuid
  | .trim => Check.trim
  | .capitalize => Check.capitalize
  | .formatDate => Check.formatDate
  | .filled => Check.filled
  | .accepted => Check.accepted
  | .password => Check.password
  | .alpha => Check.alpha
  | .alphaUnderscore => Check.alphaUnderscore
  | .alphaDash => Check.alphaDash
  | .alphaNum => Check.alphaNum
  | .alphaSpaces => Check.alphaSpaces
  | .between => Check.between
  | .confirmed => Check.confirmed
  | .contains => Check.contains
  | .notContains => Check.notContains
  | .creditCard => Check.creditCard
  | .after => Check.after
  | .before => Check.before
  | .endsWith => Check.endsWith
  | .startsWith => Check.startsWith
  | .oneOf => Check.oneOf
  | .noneOf => Check.noneOf
  | .inArray => Check.inArray
  | .json => Check.json
  | .lowercase => Check.lowercase
  | .uppercase => Check.uppercase
  | .min => Check.min
  | .max => Check.max
  | .gt => Check.gt
  | .gte => Check.gte
  | .lt => Check.lt
  | .lte => Check.lte
  | .mimes => Check.mimes
  | .multipleOf => Check.multipleOf
  | .phone => Check.phone
  | .range => Check.range
  | .regex => Check.regex
  | .same => Check.same
  | .activeUrl => Check.activeUrl
  | .digits => Check.digits
  | .image => Check.ofKind "image"
  | .video => Check.ofKind "video"
  | .audio => Check.ofKind "audio"
  | .pattern => Check.pattern
  | .time => Check.time
  | .timestamp => Check.timestamp

/-- The outcome of the rule of a subject. -/
def Subject.evaluate (s : Subject) : Except Error Outcome :=
  match s.rule.check s with
  | .ok outcome => .ok outcome
  | .error fault => .error (.argument s.field s.rule.name fault)

end FormRules
