/-
  FormRules/Message/English.lean
  ==============================
  **English wording.**

  The templates of the built-in rules in English.
-/
import FormRules.Message.Table

namespace FormRules.Message

/-- The English templates by rule. -/
def english : Table :=
  [("accepted", .text "The :attribute field must be accepted."),
   ("active_url", .text "The :attribute field must be a reachable URL."),
   ("after", .text "The :attribute field must be at least :after in the past."),
   ("alpha", .text "The :attribute field must only contain letters."),
   ("alpha_dash",
    .text "The :attribute field must only contain letters, numbers, dashes, and underscores."),
   ("alpha_num", .text "The :attribute field must only contain letters and numbers."),
   ("alpha_spaces", .text "The :attribute field must only contain letters and spaces."),
   ("alpha_underscore", .text "The :attribute field must only contain letters and underscores."),
   ("array", .text "The :attribute field must be an array."),
   ("audio", .text "The :attribute field must be an audio file."),
   ("before", .text "The :attribute field must be at least :before in the future."),
   ("between", .variants
    [("numeric", "The :attribute field must be between :min and :max."),
     ("string", "The :attribute field must be between :min and :max characters."),
     ("array", "The :attribute field must have between :min and :max items."),
     ("file", "The :attribute field must be between :min and :max bytes."),
     ("files", "Each file in :attribute must be between :min and :max bytes.")]),
   ("blob", .text "The :attribute field must be a blob."),
   ("boolean", .text "The :attribute field must be true or false."),
   ("confirmed", .text "The :attribute field confirmation does not match."),
   ("contains", .text "The :attribute field must contain :value."),
   ("credit_card", .text "The :attribute field must be a valid credit card number."),
   ("date", .text "The :attribute field must be a valid date."),
   ("datetime", .text "The :attribute field must be a valid date and time."),
   ("digits", .text "The :attribute field must be :digits digits."),
   ("email", .text "The :attribute field must be a valid email address."),
   ("ends_with", .text "The :attribute field must end with one of the following: :values."),
   ("file", .variants
    [("default", "The :attribute field must be a file."),
     ("kinds", "The :attribute field must be a file of type :values.")]),
   ("files", .variants
    [("default", "The :attribute field must contain at least one file."),
     ("kinds", "Every file in :attribute must be of type :values.")]),
   ("filled", .text "The :attribute field must have a value."),
   ("gt", .variants
    [("numeric", "The :attribute field must be greater than :gt."),
     ("string", "The :attribute field must be longer than :gt characters."),
     ("array", "The :attribute field must have more than :gt items."),
     ("file", "The :attribute field must be larger than :gt bytes."),
     ("files", "The largest file in :attribute must be larger than :gt bytes.")]),
   ("gte", .variants
    [("numeric", "The :attribute field must be greater than or equal to :gte."),
     ("string", "The :attribute field must be at least :gte characters."),
     ("array", "The :attribute field must have :gte items or more."),
     ("file", "The :attribute field must be at least :gte bytes."),
     ("files", "The largest file in :attribute must be at least :gte bytes.")]),
   ("image", .text "The :attribute field must be an image."),
   ("in", .text "The selected :attribute is invalid. Allowed: :values."),
   ("in_array", .text "The :attribute field must be one of: :values."),
   ("integer", .text "The :attribute field must be an integer."),
   ("ip", .text "The :attribute field must be a valid IP address."),
   ("json", .text "The :attribute field must be a valid JSON string."),
   ("lowercase", .text "The :attribute field must be lowercase."),
   ("lt", .variants
    [("numeric", "The :attribute field must be less than :lt."),
     ("string", "The :attribute field must be shorter than :lt characters."),
     ("array", "The :attribute field must have less than :lt items."),
     ("file", "The :attribute field must be smaller than :lt bytes."),
     ("files", "The largest file in :attribute must be smaller than :lt bytes.")]),
   ("lte", .variants
    [("numeric", "The :attribute field must be less than or equal to :lte."),
     ("string", "The :attribute field must not be longer than :lte characters."),
     ("array", "The :attribute field must not have more than :lte items."),
     ("file", "The :attribute field must not be larger than :lte bytes."),
     ("files", "The largest file in :attribute must not be larger than :lte bytes.")]),
   ("max", .variants
    [("numeric", "The :attribute field must not be greater than :max."),
     ("string", "The :attribute field must not be longer than :max characters."),
     ("array", "The :attribute field must not have more than :max items."),
     ("file", "The :attribute field must not be larger than :max bytes."),
     ("files", "Each file in :attribute must not be larger than :max bytes.")]),
   ("mimes", .text "The :attribute field must be a file of type: :values."),
   ("min", .variants
    [("numeric", "The :attribute field must be at least :min."),
     ("string", "The :attribute field must be at least :min characters."),
     ("array", "The :attribute field must have at least :min items."),
     ("file", "The :attribute field must be at least :min bytes."),
     ("files", "Each file in :attribute must be at least :min bytes.")]),
   ("multiple_of", .text "The :attribute field must be a multiple of :number."),
   ("not_contains", .text "The :attribute field must not contain :value."),
   ("not_in", .text "The selected :attribute is invalid. Not allowed: :values."),
   ("numeric", .text "The :attribute field must be a number."),
   ("object", .text "The :attribute field must be an object."),
   ("password", .variants
    [("letters", "The :attribute field must contain at least one letter."),
     ("mixed", "The :attribute field must contain at least one uppercase and one lowercase letter."),
     ("numbers", "The :attribute field must contain at least one number."),
     ("symbols", "The :attribute field must contain at least one symbol."),
     ("length", "The :attribute field must be at least :length characters.")]),
   ("pattern", .text "The :attribute field must match the pattern :pattern."),
   ("phone", .text "The :attribute field must be a valid phone number."),
   ("range", .text "The :attribute field must be between :min and :max."),
   ("regex", .text "The :attribute field format is invalid."),
   ("required", .text "The :attribute field is required."),
   ("required_if", .text "The :attribute field is required when :other is :value."),
   ("required_unless", .text "The :attribute field is required unless :other is in :values."),
   ("required_with", .text "The :attribute field is required when :values is present."),
   ("required_with_all", .text "The :attribute field is required when :values are present."),
   ("required_without", .text "The :attribute field is required when :values is not present."),
   ("required_without_all",
    .text "The :attribute field is required when none of :values are present."),
   ("same", .text "The :attribute field must match :other."),
   ("starts_with", .text "The :attribute field must start with one of the following: :values."),
   ("string", .text "The :attribute field must be a string."),
   ("time", .text "The :attribute field must be a valid time."),
   ("timestamp", .text "The :attribute field must be a valid timestamp."),
   ("uppercase", .text "The :attribute field must be uppercase."),
   ("url", .text "The :attribute field must be a valid URL."),
   ("uuid", .text "The :attribute field must be a valid UUID."),
   ("video", .text "The :attribute field must be a video.")]

end FormRules.Message
