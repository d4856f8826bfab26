/-
  FormRules/Rule/Builtin.lean
  ===========================
  **The rules that every form can use.**

  There are 72 of them.  The order of declaration is also the order in which they are
  listed; a name belongs to one rule only.
-/
namespace FormRules

/-- A rule that is built in. -/
inductive Builtin where
  | fill
  | ifEmpty
  | fillable
  | nullable
  | required
  | requiredIf
  | requiredUnless
  | requiredWith
  | requiredWithAll
  | requiredWithout
  | requiredWithoutAll
  | blob
  | date
  | datetime
  | array
  | object
  | numeric
  | integer
  | string
  | file
  | files
  | boolean
  | url
  | ip
  | email
  | uuid
  | trim
  | capitalize
  | formatDate
  | filled
  | accepted
  | password
  | alpha
  | alphaUnderscore
  | alphaDash
  | alphaNum
  | alphaSpaces
  | between
  | confirmed
  | contains
  | notContains
  | creditCard
  | after
  | before
  | endsWith
  | startsWith
  | oneOf
  | noneOf
  | inArray
  | json
  | lowercase
  | uppercase
  | min
  | max
  | gt
  | gte
  | lt
  | lte
  | mimes
  | multipleOf
  | phone
  | range
  | regex
  | same
  | activeUrl
  | digits
  | image
  | video
  | audio
  | pattern
  | time
  | timestamp
deriving DecidableEq, Repr

namespace Builtin

/-- The name of a rule in specifications and message tables. -/
def name : Builtin → String
  | fill => "fill"
  | ifEmpty => "if_empty"
  | fillable => "fillable"
  | nullable => "nullable"
  | required => "required"
  | requiredIf => "required_if"
  | requiredUnless => "required_unless"
  | requiredWith => "required_with"
  | requiredWithAll => "required_with_all"
  | requiredWithout => "required_without"
  | requiredWithoutAll => "required_without_all"
  | blob => "blob"
  | date => "date"
  | datetime => "datetime"
  | array => "array"
  | object => "object"
  | numeric => "numeric"
  | integer => "integer"
  | string => "string"
  | file => "file"
  | files => "files"
  | boolean => "boolean"
  | url => "url"
  | ip => "ip"
  | email => "email"
  | uuid => "uuid"
  | trim => "trim"
  | capitalize => "capitalize"
  | formatDate => "format_date"
  | filled => "filled"
  | accepted => "accepted"
  | password => "password"
  | alpha => "alpha"
  | alphaUnderscore => "alpha_underscore"
  | alphaDash => "alpha_dash"
  | alphaNum => "alpha_num"
  | alphaSpaces => "alpha_spaces"
  | between => "between"
  | confirmed => "confirmed"
  | contains => "contains"
  | notContains => "not_contains"
  | creditCard => "credit_card"
  | after => "after"
  | before => "before"
  | endsWith => "ends_with"
  | startsWith => "starts_with"
  | oneOf => "in"
  | noneOf => "not_in"
  | inArray => "in_array"
  | json => "json"
  | lowercase => "lowercase"
  | uppercase => "uppercase"
  | min => "min"
  | max => "max"
  | gt => "gt"
  | gte => "gte"
  | lt => "lt"
  | lte => "lte"
  | mimes => "mimes"
  | multipleOf => "multiple_of"
  | phone => "phone"
  | range => "range"
  | regex => "regex"
  | same => "same"
  | activeUrl => "active_url"
  | digits => "digits"
  | image => "image"
  | video => "video"
  | audio => "audio"
  | pattern => "pattern"
  | time => "time"
  | timestamp => "timestamp"

/-- All built-in rules in the order of their declaration. -/
def all : List Builtin :=
  [fill, ifEmpty, fillable, nullable, required, requiredIf, requiredUnless, requiredWith,
   requiredWithAll, requiredWithout, requiredWithoutAll, blob, date, datetime, array, object,
   numeric, integer, string, file, files, boolean, url, ip, email, uuid, trim, capitalize,
   formatDate, filled, accepted, password, alpha, alphaUnderscore, alphaDash, alphaNum,
   alphaSpaces, between, confirmed, contains, notContains, creditCard, after, before,
   endsWith, startsWith, oneOf, noneOf, inArray, json, lowercase, uppercase, min, max, gt,
   gte, lt, lte, mimes, multipleOf, phone, range, regex, same, activeUrl, digits, image,
   video, audio, pattern, time, timestamp]

/-- The built-in rule of a name. -/
def ofName? (rule : String) : Option Builtin := all.find? fun b => b.name == rule

theorem mem_all (b : Builtin) : b ∈ all := by
  cases b <;> decide

theorem ofName?_name (b : Builtin) : ofName? b.name = some b := by
  cases b <;> decide

theorem name_of_ofName? {rule : String} {b : Builtin} (h : ofName? rule = some b) :
    b.name = rule := by
  have := List.find?_some h
  simpa using this

end Builtin

end FormRules
