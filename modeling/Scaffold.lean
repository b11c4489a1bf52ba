import Scaffold.Arguments
import Scaffold.Arguments.File
import Scaffold.Builtin.Recipes
import Scaffold.Builtin.Resources
import Scaffold.CommandLine.Reach
import Scaffold.CommandLine.Run
import Scaffold.Config
import Scaffold.Disk.Changes
import Scaffold.Hook.Command
import Scaffold.Hook.Git
import Scaffold.License.Basic
import Scaffold.Main
import Scaffold.Naming.Document
import Scaffold.Naming.Pattern
import Scaffold.Node.Operations
import Scaffold.Node.Outline
import Scaffold.Parameter.Missing
import Scaffold.Recipe.Create
import Scaffold.Recipe.Shown
import Scaffold.Registry
import Scaffold.Shell.Program
import Scaffold.Shell.Run
import Scaffold.Shell.Syntax
import Scaffold.Text.Lossy
import Scaffold.Url
import Scaffold.Yaml.Writer
import Scaffold.Proofs.Disk.Look
import Scaffold.Proofs.Disk.Place
import Scaffold.Proofs.Disk.Effect
import Scaffold.Proofs.Node.Plan
import Scaffold.Proofs.Node.Verdict
import Scaffold.Proofs.Node.Agreement
import Scaffold.Proofs.Node.Written
import Scaffold.Proofs.Recipe.Record
import Scaffold.Proofs.Recipe.Audit
import Scaffold.Proofs.Naming.Paths
import Scaffold.Proofs.Naming.Canonical
import Scaffold.Proofs.Yaml.Equality
import Scaffold.Proofs.Node.Refinement
import Scaffold.Proofs.Path.Components
import Scaffold.Proofs.Node.Placed
import Scaffold.Proofs.Recipe.Dryrun
import Scaffold.Proofs.Disk.Alike
import Scaffold.Proofs.Recipe.Phases
import Scaffold.Proofs.Disk.Below
import Scaffold.Proofs.Node.Repeated
import Scaffold.Proofs.Node.Commute
import Scaffold.Proofs.Node.TreeMap
import Scaffold.Proofs.Node.Reordered
import Scaffold.Proofs.Builtin.Contained
import Scaffold.Proofs.Node.Identifiers
import Scaffold.Proofs.CommandLine.Arguments
import Scaffold.Proofs.Parameter.Offered
import Scaffold.Proofs.Builtin.Settings
import Scaffold.Proofs.Builtin.Inspected
import Scaffold.Proofs.Template.Sound
import Scaffold.Proofs.Node.Listing
import Scaffold.Proofs.Builtin.Rendered
import Scaffold.Proofs.Builtin.Files
import Scaffold.Proofs.Parameter.Asked
import Scaffold.Proofs.Recipe.Context
import Scaffold.Proofs.Builtin.Reloaded
import Scaffold.Proofs.Recipe.Replayed
import Scaffold.Proofs.Resource.Rooted
import Scaffold.Proofs.Node.Lasting
import Scaffold.Proofs.Node.Reported
import Scaffold.Proofs.Yaml.Bare
import Scaffold.Proofs.Naming.Saved
import Scaffold.Proofs.Resource.Fallback
import Scaffold.Proofs.Parameter.Kept
import Scaffold.Proofs.Arguments.Overlaid
import Scaffold.Proofs.Arguments.Stored
import Scaffold.Proofs.Naming.Tokens
import Scaffold.Proofs.Naming.Rejected
import Scaffold.Proofs.Node.Addressed
import Scaffold.Proofs.Node.Pruned
import Scaffold.Proofs.Node.Confined
import Scaffold.Proofs.Registry.Log
import Scaffold.Proofs.Node.Outlined
import Scaffold.Proofs.Template.Flat
import Scaffold.Proofs.Node.Found
import Scaffold.Proofs.Builtin.Extended
import Scaffold.Proofs.Builtin.Mirrored
import Scaffold.Proofs.Node.Positions
import Scaffold.Proofs.Template.Unclosed
import Scaffold.Proofs.Template.Construct
import Scaffold.Proofs.Node.Verbatim
