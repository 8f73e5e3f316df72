import Blurb.Main
import Blurb.Proofs.CaseTables
import Blurb.Proofs.CommandLineWords
import Blurb.Proofs.NameRemoval
import Blurb.Proofs.Footholds
import Blurb.Proofs.Convergence
import Blurb.Proofs.AuditReports
import Blurb.Proofs.QuotedLiterals
import Blurb.Proofs.Repairs
import Blurb.Proofs.Cuts
import Blurb.Proofs.Splicing
import Blurb.Proofs.PathOrder
import Blurb.Proofs.OffenseLedger
import Blurb.Proofs.ReportedOffenses
import Blurb.Proofs.DocumentedRules
import Blurb.Proofs.CallRecords
import Blurb.Proofs.CallJournals
import Blurb.Proofs.CallOrder
import Blurb.Proofs.DisabledRules
import Blurb.Proofs.CacheRemoval
import Blurb.Proofs.AcceptedCommands
import Blurb.Proofs.BatchAudits
import Blurb.Proofs.ExitCodes
import Blurb.Proofs.KeptLetters
import Blurb.Proofs.LengthGain
import Blurb.Proofs.OverlongDescriptions
import Blurb.Proofs.ClosingQuotes
import Blurb.Proofs.MessageTemplates
import Blurb.Proofs.CheckerComments
import Blurb.Proofs.ShortNames
import Blurb.Proofs.LinterArguments
import Blurb.Proofs.NameCase
import Blurb.Proofs.WholeWords
import Blurb.Proofs.RepositoryRoot
import Blurb.Proofs.ShellScripts
import Blurb.Proofs.NameDeletions
import Blurb.Proofs.RepeatedSteps
import Blurb.Proofs.ChecksAndSteps
import Blurb.Proofs.QuoteStyles
import Blurb.Proofs.ReplacedSpans
import Blurb.Proofs.ShownPaths
import Blurb.Proofs.CheckerLocation
import Blurb.Proofs.LoadedManifests
import Blurb.Proofs.LoadedConfigs
