import FormRules.Config.Reader
import FormRules.Proofs.Chain.Canonical
import FormRules.Proofs.Check.Agreement
import FormRules.Proofs.Check.Conditions
import FormRules.Proofs.Check.Distances
import FormRules.Proofs.Check.Inferred
import FormRules.Proofs.Check.Matching
import FormRules.Proofs.Check.Moments
import FormRules.Proofs.Check.Phones
import FormRules.Proofs.Check.Sanitizers
import FormRules.Proofs.Check.Settled
import FormRules.Proofs.Check.Sizes
import FormRules.Proofs.FormData
import FormRules.Proofs.Inference
import FormRules.Proofs.Message.Joined
import FormRules.Proofs.Message.Tables
import FormRules.Proofs.Registry.History
import FormRules.Proofs.RuleSet.Forms
import FormRules.Proofs.Session.Again
import FormRules.Proofs.Session.Apart
import FormRules.Proofs.Session.ArgumentTexts
import FormRules.Proofs.Session.Checked
import FormRules.Proofs.Session.Default
import FormRules.Proofs.Session.Extent
import FormRules.Proofs.Session.Frozen
import FormRules.Proofs.Session.History
import FormRules.Proofs.Session.Inline
import FormRules.Proofs.Session.Install
import FormRules.Proofs.Session.Listed
import FormRules.Proofs.Session.Messages
import FormRules.Proofs.Session.Ownership
import FormRules.Proofs.Session.Parameters
import FormRules.Proofs.Session.Present
import FormRules.Proofs.Session.Refusals
import FormRules.Proofs.Session.TextRules
import FormRules.Proofs.Session.Texts
import FormRules.Proofs.Session.Variants
import FormRules.Proofs.Session.Verdict
import FormRules.Proofs.Session.Wording
import FormRules.Session.Blueprint
import FormRules.Session.Run
