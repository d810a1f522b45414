import TableGateway.Text.Blank
import TableGateway.Text.Letter
import TableGateway.Text.LowerCase
import TableGateway.Text.Escaped
import TableGateway.Text.Delimited
import TableGateway.Text.Integer
import TableGateway.Text.Percent
import TableGateway.Dict
import TableGateway.Number.Shortest
import TableGateway.Json.Printer
import TableGateway.Json.Reader
import TableGateway.Json.Record
import TableGateway.Sql.Cast
import TableGateway.Sql.Identifier
import TableGateway.Sql.Parameter
import TableGateway.Sql.Scan
import TableGateway.Sql.Statement
import TableGateway.Catalog.Assembly
import TableGateway.Link.Change
import TableGateway.Settings.TableSettings
import TableGateway.Configuration
import TableGateway.Request.RawSql
import TableGateway.Http.Identity
import TableGateway.Call.Basic
import TableGateway.Cell.Value
import TableGateway.Database.Row
import TableGateway.Call.World
import TableGateway.Rows.Raw
import TableGateway.Rows.Table
import TableGateway.Link.Rows
import TableGateway.Catalog.Loading
import TableGateway.Catalog.Statistics
import TableGateway.Settings.Store
import TableGateway.Database.Preparation
import TableGateway.Json.Incremental
import TableGateway.Http.ContentType
import TableGateway.Http.Service
import TableGateway.Proofs.Segmentation
import TableGateway.Proofs.CastLocality
import TableGateway.Proofs.TextIndependence
import TableGateway.Proofs.LinkMembership
import TableGateway.Proofs.Exchanges
import TableGateway.Proofs.LinkTransaction
import TableGateway.Proofs.ParameterPositions
import TableGateway.Proofs.Dictionaries
import TableGateway.Proofs.MemberOrder
import TableGateway.Proofs.Records
import TableGateway.Proofs.SettingsDocuments
import TableGateway.Proofs.Interleaving
import TableGateway.Proofs.SettingsSteps
import TableGateway.Proofs.SettingsCoherence
import TableGateway.Proofs.SettingsFailures
import TableGateway.Proofs.Refusals
import TableGateway.Proofs.RowFetching
import TableGateway.Proofs.RowRestrictions
import TableGateway.Proofs.CatalogAssembly
import TableGateway.Proofs.CatalogReload
import TableGateway.Proofs.Firsts
import TableGateway.Proofs.LinkResolution
import TableGateway.Proofs.CatalogVersions
import TableGateway.Proofs.PageStability
import TableGateway.Proofs.ArrayLiterals
import TableGateway.Proofs.NumericDecoding
import TableGateway.Proofs.IntervalTexts
import TableGateway.Proofs.DelimitedLists
import TableGateway.Proofs.ListedNames
import TableGateway.Proofs.DatabaseUrls
import TableGateway.Proofs.RawRows
import TableGateway.Proofs.LetterCase
import TableGateway.Proofs.TextSearch
import TableGateway.Proofs.ScanPositions
import TableGateway.Proofs.QuotedNames
import TableGateway.Proofs.PageBounds
import TableGateway.Proofs.DocumentSpellings
