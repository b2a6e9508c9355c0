import ApiContract.Dict
import ApiContract.Text.Percent
import ApiContract.Text.Quoted
import ApiContract.Text.CaseOrbit
import ApiContract.Text.Script
import ApiContract.Text.Uppercase
import ApiContract.Path.SegmentMatch
import ApiContract.Path.Route
import ApiContract.Path.Address
import ApiContract.Http.Message
import ApiContract.Decimal.Layout
import ApiContract.Decimal.Reading
import ApiContract.Json.Parser
import ApiContract.Yaml.Document
import ApiContract.Yaml.Reading
import ApiContract.Toml.Reading
import ApiContract.Document.Reader
import ApiContract.Document.Writer
import ApiContract.Pattern.Library
import ApiContract.Specification.Reading
import ApiContract.Validation.Message
import ApiContract.Session.Basic
import ApiContract.Logging.Settings
import ApiContract.Proofs.Path.Filling
import ApiContract.Proofs.Text.Casing
import ApiContract.Proofs.Text.Cutting
import ApiContract.Proofs.Path.Template
import ApiContract.Proofs.Path.SegmentMatch
import ApiContract.Proofs.Path.PathMatch
import ApiContract.Proofs.Path.Route
import ApiContract.Proofs.Specification.Loading
import ApiContract.Proofs.Specification.Lookup
import ApiContract.Proofs.Specification.Agreement
import ApiContract.Proofs.Session.Coverage
import ApiContract.Proofs.Session.Outcome
import ApiContract.Proofs.Session.Run
import ApiContract.Proofs.Session.Effect
import ApiContract.Proofs.Session.ResponseKey
import ApiContract.Proofs.Validation.Satisfaction
import ApiContract.Proofs.Validation.Coercion
import ApiContract.Proofs.Path.Cover
import ApiContract.Proofs.Session.Attainment
import ApiContract.Proofs.Specification.Resolution
import ApiContract.Proofs.Validation.Origin
import ApiContract.Proofs.Validation.Finding
import ApiContract.Proofs.Specification.Endpoint
import ApiContract.Proofs.Specification.Patterns
import ApiContract.Proofs.Specification.References
import ApiContract.Proofs.Specification.PathParameters
import ApiContract.Proofs.Session.InternalError
import ApiContract.Proofs.Validation.Depth
import ApiContract.Proofs.Path.Captures
import ApiContract.Proofs.Path.RouteMatch
import ApiContract.Proofs.Session.NestedTable
import ApiContract.Proofs.Session.Tally
import ApiContract.Proofs.Session.Filtering
import ApiContract.Proofs.Session.Documented
import ApiContract.Proofs.Path.Grammar
import ApiContract.Proofs.Text.ByteOrder
import ApiContract.Proofs.Session.FlatTable
import ApiContract.Proofs.Specification.Reordering
import ApiContract.Proofs.Session.Reordering
import ApiContract.Proofs.Session.Log
import ApiContract.Proofs.Session.Search
import ApiContract.Proofs.Path.Address
import ApiContract.Proofs.Session.BasePath
import ApiContract.Proofs.Document.Record
import ApiContract.Proofs.Document.Schema
import ApiContract.Proofs.Document.RoundTrip
import ApiContract.Proofs.Text.Utf8
import ApiContract.Proofs.Text.Percent
import ApiContract.Proofs.Document.Distinct
import ApiContract.Proofs.Session.Loading
import ApiContract.Proofs.Specification.Selection
import ApiContract.Proofs.Path.Substitution
import ApiContract.Proofs.Session.Substitution
import ApiContract.Proofs.Validation.QueryArray
import ApiContract.Proofs.Decimal.Reading
import ApiContract.Proofs.Decimal.Rounding
import ApiContract.Proofs.Decimal.Shortest
import ApiContract.Proofs.Decimal.Layout
import ApiContract.Proofs.Decimal.RoundTrip
import ApiContract.Proofs.Json.Numeral
import ApiContract.Proofs.Validation.ListedType
import ApiContract.Proofs.Validation.IntegerText
import ApiContract.Proofs.Validation.EnumMember
import ApiContract.Proofs.Validation.FormFields
import ApiContract.Proofs.Validation.Conformance
import ApiContract.Proofs.Text.Form
import ApiContract.Proofs.Specification.Merging
import ApiContract.Proofs.Specification.Bases
import ApiContract.Proofs.Session.Override
import ApiContract.Proofs.Http.Dump
import ApiContract.Proofs.Http.Building
import ApiContract.Proofs.Validation.Location
import ApiContract.Proofs.Validation.Undeclared
import ApiContract.Proofs.Validation.Multiple
import ApiContract.Proofs.Path.LeftToRight
import ApiContract.Proofs.Text.Unescaping
