import EnvBundle.Main
import EnvBundle.Shell.Words
import EnvBundle.World.FileTree
import EnvBundle.Proofs.Bundle
import EnvBundle.Proofs.NameMap
import EnvBundle.Proofs.Text.Utf8
import EnvBundle.Proofs.Shell.Reading
import EnvBundle.Proofs.Shell.Standard
import EnvBundle.Proofs.Environment.Stored
import EnvBundle.Proofs.Environment.Filling
import EnvBundle.Proofs.Loader.Receiving
import EnvBundle.Proofs.Delivery
import EnvBundle.Proofs.DotEnv.Assignment
import EnvBundle.Proofs.DotEnv.Counting
import EnvBundle.Proofs.Loader.Layering
import EnvBundle.Proofs.DotEnv.Weight
import EnvBundle.Proofs.Text.Lines
import EnvBundle.Proofs.DotEnv.Written
import EnvBundle.Proofs.Shell.BareNames
import EnvBundle.Proofs.Loader.Failing
import EnvBundle.Proofs.Run.ShellMode
import EnvBundle.Proofs.Run.JsonMode
import EnvBundle.Proofs.Loader.Asking
import EnvBundle.Proofs.Session
import EnvBundle.Proofs.Run.Precedence
import EnvBundle.Proofs.Fetch.Arguments
import EnvBundle.Proofs.Loader.Repeating
import EnvBundle.Proofs.Run.Starting
import EnvBundle.Proofs.Run.Diagnostics
import EnvBundle.Proofs.Bundle.Written
import EnvBundle.Proofs.Shell.Sourcing
import EnvBundle.Proofs.Environment.Merging
import EnvBundle.Proofs.Environment.Composing
import EnvBundle.Proofs.DotEnv.Exported
import EnvBundle.Proofs.Shell.Unambiguous
import EnvBundle.Proofs.Shell.ExportLines
import EnvBundle.Proofs.Shell.Delimiting
import EnvBundle.Proofs.DotEnv.Lines
import EnvBundle.Proofs.DotEnv.Quoted
import EnvBundle.Proofs.DotEnv.Slicing
import EnvBundle.Proofs.DotEnv.Shape
import EnvBundle.Proofs.Fetch.Unambiguous
import EnvBundle.Proofs.Fetch.Outcome
import EnvBundle.Proofs.Fetch.Progress
import EnvBundle.Proofs.Fetch.Durations
import EnvBundle.Proofs.CommandLine.Format
