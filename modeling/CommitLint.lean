import CommitLint.CommandLine.Reader
import CommitLint.Main
import CommitLint.Workspace
import CommitLint.Proofs.Subject.Grammar
import CommitLint.Proofs.Check.Conventional
import CommitLint.Proofs.Engine.Consultation
import CommitLint.Proofs.Engine.Independence
import CommitLint.Engine.Steps
import CommitLint.Proofs.Engine.Steps
import CommitLint.Proofs.Hook.Runs
import CommitLint.Proofs.Report.Workflow
import CommitLint.Proofs.Report.Document
import CommitLint.Proofs.Envelope.Ssh
import CommitLint.Proofs.Check.Signature
import CommitLint.Proofs.Toml.Document
import CommitLint.Proofs.Settings.Kind
import CommitLint.Proofs.Settings.Schema
import CommitLint.Proofs.Settings.Layer
import CommitLint.Proofs.Settings.Locate
import CommitLint.Proofs.Rule.Activation
import CommitLint.Proofs.Summary
import CommitLint.Proofs.Envelope.Pgp
import CommitLint.Proofs.Repository.Branch
import CommitLint.Proofs.Check.Respelling
import CommitLint.Proofs.Check.Family
import CommitLint.Proofs.Repository.Divergence
import CommitLint.Proofs.Workspace.Selection
import CommitLint.Proofs.Engine.Stateless
import CommitLint.Proofs.Workspace.Verdict
import CommitLint.Proofs.Verification
import CommitLint.Proofs.Message.Cleaning
import CommitLint.Proofs.Check.Body
import CommitLint.Proofs.Check.Issue
import CommitLint.Proofs.Check.References
import CommitLint.Proofs.Check.SignOff
import CommitLint.Proofs.Check.Spacing
import CommitLint.Proofs.Check.Spelling
import CommitLint.Proofs.Message.Splitting
import CommitLint.Proofs.Message.Recleaning
import CommitLint.Proofs.Report.Terminal
import CommitLint.Proofs.Report.Quotation
import CommitLint.Proofs.Toml.Path
import CommitLint.Proofs.Settings.Nearest
import CommitLint.Proofs.Check.Mood
import CommitLint.Proofs.Engine.Slicing
import CommitLint.Proofs.Check.BlankEntries
import CommitLint.Proofs.Repository.Loading
import CommitLint.Proofs.Report.Rendering
import CommitLint.Proofs.Workspace.Deadline
import CommitLint.Proofs.Rule.NormalForm
