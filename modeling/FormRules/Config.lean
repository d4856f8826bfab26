/-
  FormRules/Config.lean
  =====================
  **Settings of a session.**

  All settings have a default.  A configuration can be used if it names a system locale,
  leaves room for at least one chain, and all its file patterns are well formed.
-/
import FormRules.Chain.Cache
import FormRules.File.Kinds
import FormRules.Text.Case

namespace FormRules

/-- The settings of a session. The probe's timeout is for probes that use a network. -/
structure Config where
  systemLocale : String
  locale : Option String
  unknownRules : UnknownRulePolicy
  passwordMinLength : Nat
  filePatterns : Entries (List String)
  probeTimeoutMillis : Nat
  chainCacheCapacity : Nat

namespace Config

/-- The file patterns that are there by default. -/
def standardPatterns : Entries (List String) :=
  [("image", ["^image/(png|gif|jpe?g|webp|bmp)$"]), ("video", ["^video/"]),
   ("audio", ["^audio/"]), ("pdf", ["^application/pdf$"]),
   ("document",
    ["^application/pdf$", "^application/msword$",
     "^application/vnd\\.openxmlformats-officedocument\\.",
     "^application/vnd\\.oasis\\.opendocument\\.", "^text/plain$"])]

/-- The default settings. -/
def standard : Config where
  systemLocale := "en"
  locale := none
  unknownRules := .deny
  passwordMinLength := 8
  filePatterns := standardPatterns
  probeTimeoutMillis := 5000
  chainCacheCapacity := ChainCache.standardCapacity

/-- The locale of a run. -/
def activeLocale (c : Config) : String := c.locale.getD c.systemLocale

/-- The kinds of files of a usable configuration, or what makes it unusable. -/
def check (c : Config) : Except ConfigFault FileKinds :=
  if Text.isBlankText c.systemLocale then .error .noSystemLocale
  else if c.chainCacheCapacity = 0 then .error .noCapacity
  else FileKinds.ofTexts c.filePatterns

/-- The policy that the text of an environment variable names. -/
def policyOfText (text : String) : UnknownRulePolicy :=
  if String.ofList (Text.toLower text.toList) = "warn" then .warn else .deny

/-- The default settings with what the environment says about the locale and about
    unknown rules. -/
def ofEnvironment (locale policy : Option String) : Config :=
  { standard with
    locale
    unknownRules := (policy.map policyOfText).getD .deny }

end Config

end FormRules
