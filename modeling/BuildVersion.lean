import BuildVersion.Main
import BuildVersion.Proofs.Git.Isolation
import BuildVersion.Proofs.Git.Status
import BuildVersion.Proofs.Provider.Selection
import BuildVersion.Proofs.Release.Counting
import BuildVersion.Proofs.Release.Precedence
import BuildVersion.Proofs.Release.Readability
import BuildVersion.Proofs.Release.Validity
import BuildVersion.Proofs.Subversion.Spelling
import BuildVersion.Proofs.Template.Inputs
import BuildVersion.Proofs.Template.Substitution
import BuildVersion.Proofs.TimeScheme.ReadingBack
import BuildVersion.Proofs.TimeScheme.WritingBack
import BuildVersion.SemVer.Precedence
import BuildVersion.Template.Spelling
import BuildVersion.Proofs.Template.ShortVersion
import BuildVersion.Proofs.TimeScheme.Grammar
import BuildVersion.Proofs.Template.Arguments
import BuildVersion.Proofs.Template.TimePlaceholder
import BuildVersion.Proofs.Template.DottedTime
import BuildVersion.Proofs.Template.ControlFree
import BuildVersion.Proofs.Template.Written
import BuildVersion.Proofs.CommandLine.Failure
import BuildVersion.Proofs.Settings.Source
import BuildVersion.Proofs.TimeScheme.Ordering
import BuildVersion.Proofs.Word.TimeScheme
import BuildVersion.Proofs.Tag.Grammar
import BuildVersion.Proofs.Template.Malformed
import BuildVersion.Proofs.Template.VersionVariants
import BuildVersion.Proofs.Template.Warnings
import BuildVersion.Proofs.Git.Description
import BuildVersion.Proofs.Snapshot.Cleaning
import BuildVersion.Proofs.Subversion.Branch
import BuildVersion.Proofs.Subversion.Information
import BuildVersion.Proofs.Provider.CiBranch
import BuildVersion.Proofs.Subversion.Range
import BuildVersion.Proofs.Tool.Exchange
