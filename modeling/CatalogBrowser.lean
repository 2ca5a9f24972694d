import CatalogBrowser.Json.StringLiteral
import CatalogBrowser.Messages
import CatalogBrowser.Resource.Basic
import CatalogBrowser.Text.Alphanumeric
import CatalogBrowser.Tree.Rows
import CatalogBrowser.Tree.State
import CatalogBrowser.Catalog.Encoding
import CatalogBrowser.Decimal.Style
import CatalogBrowser.Json.NumberLiteral
import CatalogBrowser.Json.Document
import CatalogBrowser.Catalog.Reading
import CatalogBrowser.Catalog.Basic
import CatalogBrowser.Files.Basic
import CatalogBrowser.Files.Tree
import CatalogBrowser.Toml.Reader
import CatalogBrowser.Toml.Scalar
import CatalogBrowser.Toml.Document
import CatalogBrowser.Config.Basic
import CatalogBrowser.Config.Decoding
import CatalogBrowser.Config.Loading
import CatalogBrowser.Log.Filter
import CatalogBrowser.Browser.Action
import CatalogBrowser.Text.Grapheme
import CatalogBrowser.Text.Width
import CatalogBrowser.Screen.Basic
import CatalogBrowser.Command.Arguments
import CatalogBrowser.Command.Basic
import CatalogBrowser.Command.Outcome
import CatalogBrowser.Command.Run
import CatalogBrowser.Main
import CatalogBrowser.Proofs.Pruning
import CatalogBrowser.Proofs.Rows
import CatalogBrowser.Proofs.Loading
import CatalogBrowser.Proofs.Selecting
import CatalogBrowser.Proofs.LazyLoading
import CatalogBrowser.Proofs.DerivedPaths
import CatalogBrowser.Proofs.OpenRows
import CatalogBrowser.Proofs.FullExpansion
import CatalogBrowser.Proofs.FailedLoads
import CatalogBrowser.Proofs.Highlight
import CatalogBrowser.Proofs.OfferedPages
import CatalogBrowser.Proofs.SelectedEntries
import CatalogBrowser.Proofs.StarredRows
import CatalogBrowser.Proofs.EntryGrammar
import CatalogBrowser.Proofs.WrittenLiterals
import CatalogBrowser.Proofs.WrittenValues
import CatalogBrowser.Proofs.Documents
import CatalogBrowser.Proofs.Rereading
import CatalogBrowser.Proofs.Grafting
import CatalogBrowser.Proofs.DerivedIds
import CatalogBrowser.Proofs.RowPositions
import CatalogBrowser.Proofs.SelectingTwice
import CatalogBrowser.Proofs.RevealedRows
import CatalogBrowser.Proofs.RoutedSelections
import CatalogBrowser.Proofs.DistinctKeys
import CatalogBrowser.Proofs.StatedSettings
import CatalogBrowser.Proofs.Precedence
import CatalogBrowser.Proofs.FittingSettings
import CatalogBrowser.Proofs.Independence
import CatalogBrowser.Proofs.Lookup
import CatalogBrowser.Proofs.TreeWindow
import CatalogBrowser.Proofs.Tags
import CatalogBrowser.Proofs.OpenedBrowser
