import RuleTemplate.Main
import RuleTemplate.Node.Outline
import RuleTemplate.Template.Log
import RuleTemplate.Proofs.Template.Completion
import RuleTemplate.Proofs.Template.Cuts
import RuleTemplate.Proofs.Template.Failures
import RuleTemplate.Proofs.Template.Accounts
import RuleTemplate.Proofs.Template.Appending
import RuleTemplate.Proofs.Template.Scripts
import RuleTemplate.Proofs.Template.Chain
import RuleTemplate.Proofs.Node.Addresses
import RuleTemplate.Proofs.Node.Nulls
import RuleTemplate.Proofs.Template.ContentPaths
import RuleTemplate.Proofs.Template.Synonyms
import RuleTemplate.Proofs.Event.Widening
import RuleTemplate.Proofs.Template.StrayMarkers
import RuleTemplate.Proofs.Command.Run
import RuleTemplate.Proofs.Settings.Layers
import RuleTemplate.Proofs.Settings.Quotes
import RuleTemplate.Proofs.Template.Fallback
import RuleTemplate.Proofs.Node.Letters
import RuleTemplate.Proofs.Event.Removal
import RuleTemplate.Proofs.Event.Envelope
import RuleTemplate.Proofs.Template.DisplayNames
import RuleTemplate.Proofs.Event.Data
import RuleTemplate.Proofs.Template.Links
