import ServiceRouting.Data.JsonReading
import ServiceRouting.File.Tree
import ServiceRouting.Loader.Threads
import ServiceRouting.Main
import ServiceRouting.Proofs.Loader.FirstLoad
import ServiceRouting.Proofs.Loader.Turns
import ServiceRouting.Proofs.Registry.Enrolment
import ServiceRouting.Proofs.Router.Isolation
import ServiceRouting.Proofs.Router.Building
import ServiceRouting.Proofs.Router.Openings
import ServiceRouting.Proofs.Router.History
import ServiceRouting.Proofs.Bundled
import ServiceRouting.Proofs.Router.Hints
import ServiceRouting.Proofs.Router.FromSettings
import ServiceRouting.Proofs.Router.BundledStack
import ServiceRouting.Proofs.Router.Dispatch
import ServiceRouting.Proofs.Table.Secrecy
import ServiceRouting.Proofs.Router.Secrecy
import ServiceRouting.Proofs.Registry.FirstFault
import ServiceRouting.Proofs.Registry.Suggestions
import ServiceRouting.Proofs.Loader.LoadOutcome
import ServiceRouting.Proofs.Router.SharedSymbols
import ServiceRouting.Proofs.Router.HintPrecedence
import ServiceRouting.Proofs.Router.PublishedSymbols
import ServiceRouting.Proofs.Table.Construction
import ServiceRouting.Proofs.Options.Collecting
import ServiceRouting.Proofs.Service.LastSegment
import ServiceRouting.Proofs.CommandLine.OptionArguments
