import PluginNaming.Alias
import PluginNaming.AliasSet
import PluginNaming.Bundled.Formats
import PluginNaming.Bundled.Json.Reader
import PluginNaming.Bundled.Json.Scaled
import PluginNaming.Bundled.Line
import PluginNaming.Bundled.Node
import PluginNaming.Bundled.Toml.Moment
import PluginNaming.Bundled.Toml.Reader
import PluginNaming.Bundled.Toml.Scalar
import PluginNaming.Bundled.Toml.Tables
import PluginNaming.Bundled.Toml.Writer
import PluginNaming.Bundled.Url
import PluginNaming.Bundled.Url.Address
import PluginNaming.Bundled.Url.Composed
import PluginNaming.Bundled.Url.Folded
import PluginNaming.Bundled.Url.Host
import PluginNaming.Bundled.Url.Label
import PluginNaming.Bundled.Url.Percent
import PluginNaming.Bundled.Url.Punycode
import PluginNaming.Bundled.Yaml.Block
import PluginNaming.Bundled.Yaml.Glyph
import PluginNaming.Bundled.Yaml.Plain
import PluginNaming.Bundled.Yaml.Property
import PluginNaming.Bundled.Yaml.Quoted
import PluginNaming.Bundled.Yaml.Reader
import PluginNaming.Bundled.Yaml.Scalar
import PluginNaming.Bundled.Yaml.Token
import PluginNaming.Bundled.Yaml.Tree
import PluginNaming.Bundled.Yaml.Writer
import PluginNaming.Catalog
import PluginNaming.Catalog.Directory
import PluginNaming.Catalog.Format
import PluginNaming.Catalog.Record
import PluginNaming.Catalog.Store
import PluginNaming.Command
import PluginNaming.Command.Arguments
import PluginNaming.Command.Form
import PluginNaming.Command.Help
import PluginNaming.Command.LogFilter
import PluginNaming.Command.Outcome
import PluginNaming.Data.Expected
import PluginNaming.Data.Json
import PluginNaming.Data.Json.Writer
import PluginNaming.Environment
import PluginNaming.Fault
import PluginNaming.Info
import PluginNaming.InfoSet
import PluginNaming.Instance
import PluginNaming.Listed
import PluginNaming.Main
import PluginNaming.Name
import PluginNaming.Number.Binary64
import PluginNaming.Number.Numeral
import PluginNaming.Number.Printed
import PluginNaming.Number.Shortest
import PluginNaming.Ordered.Sorted
import PluginNaming.Ordered.Table
import PluginNaming.Pattern
import PluginNaming.Pattern.Bracket
import PluginNaming.Pattern.Escape
import PluginNaming.Proofs.AliasSet.Agreement
import PluginNaming.Proofs.AliasSet.Canonical
import PluginNaming.Proofs.AliasSet.Extent
import PluginNaming.Proofs.AliasSet.Grammar
import PluginNaming.Proofs.AliasSet.Identity
import PluginNaming.Proofs.AliasSet.Merge
import PluginNaming.Proofs.AliasSet.Recorded
import PluginNaming.Proofs.AliasSet.Restriction
import PluginNaming.Proofs.AliasSet.RoundTrip
import PluginNaming.Proofs.Bundled
import PluginNaming.Proofs.Catalog.Completeness
import PluginNaming.Proofs.Catalog.Directory
import PluginNaming.Proofs.Catalog.Record
import PluginNaming.Proofs.Catalog.Resolution
import PluginNaming.Proofs.Catalog.Saved
import PluginNaming.Proofs.Fault
import PluginNaming.Proofs.Fold
import PluginNaming.Proofs.InfoSet.Bijection
import PluginNaming.Proofs.InfoSet.Correspondence
import PluginNaming.Proofs.InfoSet.Grammar
import PluginNaming.Proofs.InfoSet.Refusal
import PluginNaming.Proofs.InfoSet.RoundTrip
import PluginNaming.Proofs.InfoSet.Update
import PluginNaming.Proofs.Listed
import PluginNaming.Proofs.Listed.Grammar
import PluginNaming.Proofs.Name
import PluginNaming.Proofs.Number.Longest
import PluginNaming.Proofs.Number.ReadBack
import PluginNaming.Proofs.Number.Rounding
import PluginNaming.Proofs.Ordered.Unique
import PluginNaming.Proofs.Provider.Parameters
import PluginNaming.Proofs.Provider.Substitution
import PluginNaming.Proofs.Provider.Visibility
import PluginNaming.Proofs.Registry.Bystander
import PluginNaming.Proofs.Registry.Owner
import PluginNaming.Proofs.Registry.Quarantine
import PluginNaming.Proofs.Registry.Routing
import PluginNaming.Proofs.Registry.Single
import PluginNaming.Proofs.Scanner
import PluginNaming.Proofs.Selector.Action
import PluginNaming.Proofs.Selector.Answer
import PluginNaming.Proofs.Selector.Course
import PluginNaming.Proofs.Selector.Enclosed
import PluginNaming.Proofs.Selector.Interpretation
import PluginNaming.Proofs.Selector.Number
import PluginNaming.Proofs.Selector.Outcome
import PluginNaming.Proofs.Selector.Parameter
import PluginNaming.Proofs.Selector.Phrase
import PluginNaming.Proofs.Selector.Reading
import PluginNaming.Proofs.Selector.RoundTrip
import PluginNaming.Proofs.Selector.Run
import PluginNaming.Proofs.Selector.Sealed
import PluginNaming.Proofs.Selector.Word
import PluginNaming.Proofs.Token
import PluginNaming.Proofs.Translation
import PluginNaming.Proofs.Url
import PluginNaming.Provider
import PluginNaming.Registry
import PluginNaming.Scanner
import PluginNaming.Selector
import PluginNaming.Selector.Arguments
import PluginNaming.Selector.Evaluation
import PluginNaming.Text.Blank
import PluginNaming.Text.CodePoint
import PluginNaming.Text.Hidden
import PluginNaming.Text.Letter
import PluginNaming.Text.LowerCase
import PluginNaming.Text.Mark
import PluginNaming.Text.Pieces
import PluginNaming.Text.Quoted
import PluginNaming.Text.Rest
import PluginNaming.Text.Rows
import PluginNaming.Token
import PluginNaming.Translation
import PluginNaming.Url
import PluginNaming.Url.Library
import PluginNaming.Vocabulary
