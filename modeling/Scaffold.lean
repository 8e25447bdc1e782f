import Scaffold.Main
import Scaffold.Proofs.Project.Consent
import Scaffold.Proofs.Walk.Containment
import Scaffold.Proofs.Walk.Failure
import Scaffold.Proofs.Walk.Account
import Scaffold.Proofs.Walk.Repeat
import Scaffold.Proofs.Files.Way
import Scaffold.Proofs.Walk.Abreast
import Scaffold.Proofs.Walk.Exclusion
import Scaffold.Proofs.Files.Regular
import Scaffold.Proofs.Text.Naming
import Scaffold.Proofs.Files.Recreate
import Scaffold.Proofs.Project.Replacement
import Scaffold.Proofs.Vocabulary
import Scaffold.Proofs.Conditions
import Scaffold.Proofs.NamingTable
import Scaffold.Proofs.CommandLine.Report
import Scaffold.Proofs.Files.Zero
import Scaffold.Proofs.Walk.Outcome
import Scaffold.Proofs.Answers
import Scaffold.Proofs.Project.Asked
import Scaffold.Proofs.CommandLine.Prompted
import Scaffold.Proofs.CleanNames
import Scaffold.Proofs.Variants
import Scaffold.Proofs.Walk.Monotone
import Scaffold.Proofs.Readings
import Scaffold.Proofs.Deciding
import Scaffold.Proofs.Admission
import Scaffold.Proofs.Template.Context
import Scaffold.Proofs.Template.Implied
import Scaffold.Proofs.Choices
import Scaffold.Proofs.Project.Options
import Scaffold.Proofs.Settling
import Scaffold.Proofs.NativeExtension
import Scaffold.Proofs.Project.Discovered
import Scaffold.Proofs.Project.Answered
import Scaffold.Proofs.Template.Locations
import Scaffold.Proofs.Text.Spelling
import Scaffold.Proofs.Files.Absolute
import Scaffold.Proofs.Files.Anew
import Scaffold.Proofs.Duration
import Scaffold.Proofs.SharedParts
import Scaffold.Proofs.Resolving
