import FeatureGrant.AllowAttribute
import FeatureGrant.Allowlist
import FeatureGrant.Command.Check
import FeatureGrant.Command.Display
import FeatureGrant.Command.Folder
import FeatureGrant.Command.Invocation
import FeatureGrant.Command.Options
import FeatureGrant.Command.Outcome
import FeatureGrant.Command.Run
import FeatureGrant.Command.Wording
import FeatureGrant.Console.Layout
import FeatureGrant.Console.Markup
import FeatureGrant.Console.Table
import FeatureGrant.Default
import FeatureGrant.Failure
import FeatureGrant.Fault.Basic
import FeatureGrant.Fetch.Client
import FeatureGrant.Fetch.Exchange
import FeatureGrant.Fetch.Page
import FeatureGrant.Fetch.Reply
import FeatureGrant.Fetch.Web
import FeatureGrant.Field.Dictionary
import FeatureGrant.Field.Item
import FeatureGrant.Field.Scalar
import FeatureGrant.Header
import FeatureGrant.Host.Address
import FeatureGrant.Host.LetterTables
import FeatureGrant.Host.Name
import FeatureGrant.Host.NameprepTables
import FeatureGrant.Host.Punycode
import FeatureGrant.Host.Registered
import FeatureGrant.Host.RegistrationTable
import FeatureGrant.Main
import FeatureGrant.Number.Binary64
import FeatureGrant.Number.CivilDate
import FeatureGrant.Number.Numeral
import FeatureGrant.OrderedMap
import FeatureGrant.Origin
import FeatureGrant.Policy.Arguments
import FeatureGrant.Policy.Basic
import FeatureGrant.Policy.Decision
import FeatureGrant.Policy.Frame
import FeatureGrant.Policy.Ruling
import FeatureGrant.PolicyMap
import FeatureGrant.Proofs.AllowAttribute
import FeatureGrant.Proofs.Field.Comma
import FeatureGrant.Proofs.Field.Length
import FeatureGrant.Proofs.Header
import FeatureGrant.Proofs.Header.Lines
import FeatureGrant.Proofs.Host.Address
import FeatureGrant.Proofs.Host.Folding
import FeatureGrant.Proofs.Host.Name
import FeatureGrant.Proofs.Host.Punycode
import FeatureGrant.Proofs.Listing
import FeatureGrant.Proofs.OrderedMap
import FeatureGrant.Proofs.OrderedMap.Merge
import FeatureGrant.Proofs.Origin.Canonical
import FeatureGrant.Proofs.Origin.Reading
import FeatureGrant.Proofs.Origin.SameOrigin
import FeatureGrant.Proofs.Origin.Text
import FeatureGrant.Proofs.Policy.Answer
import FeatureGrant.Proofs.Policy.Construction
import FeatureGrant.Proofs.Policy.Containment
import FeatureGrant.Proofs.Policy.Inheritance
import FeatureGrant.Proofs.Policy.Ruling
import FeatureGrant.Proofs.Policy.Targets
import FeatureGrant.Proofs.Request
import FeatureGrant.Proofs.Resolution
import FeatureGrant.Proofs.Result
import FeatureGrant.Proofs.Schema
import FeatureGrant.Proofs.Session.Immutability
import FeatureGrant.Proofs.Session.Inheritance
import FeatureGrant.Proofs.Session.Ownership
import FeatureGrant.Proofs.Session.Records
import FeatureGrant.Proofs.Session.Steps
import FeatureGrant.Proofs.Session.Values
import FeatureGrant.Proofs.Text.Compatibility
import FeatureGrant.Proofs.Text.Letters
import FeatureGrant.Proofs.Text.LowerCase
import FeatureGrant.Proofs.Text.Pieces
import FeatureGrant.Proofs.Url.Head
import FeatureGrant.Proofs.Url.Host
import FeatureGrant.Resolution
import FeatureGrant.Scenario.Basic
import FeatureGrant.Scenario.Load
import FeatureGrant.Schema.Models
import FeatureGrant.Schema.Record
import FeatureGrant.Schema.Scalar
import FeatureGrant.Schema.Violation
import FeatureGrant.Session.State
import FeatureGrant.Session.Step
import FeatureGrant.SortedSet
import FeatureGrant.Text.Ascii
import FeatureGrant.Text.Base64
import FeatureGrant.Text.Blank
import FeatureGrant.Text.CodePoint
import FeatureGrant.Text.CombiningClass
import FeatureGrant.Text.Compatibility
import FeatureGrant.Text.Composition
import FeatureGrant.Text.Decomposition
import FeatureGrant.Text.LowerCase
import FeatureGrant.Text.Percent
import FeatureGrant.Text.Printable
import FeatureGrant.Text.Quoted
import FeatureGrant.Text.Utf8
import FeatureGrant.Url.Head
import FeatureGrant.Url.Parts
import FeatureGrant.Url.Reference
import FeatureGrant.Value
import FeatureGrant.Value.Document
import FeatureGrant.Yaml.Cursor
import FeatureGrant.Yaml.Document
import FeatureGrant.Yaml.Node.Basic
import FeatureGrant.Yaml.Node.OfTokens
import FeatureGrant.Yaml.Scalar
import FeatureGrant.Yaml.Tag
import FeatureGrant.Yaml.Token.Basic
import FeatureGrant.Yaml.Token.Property
import FeatureGrant.Yaml.Token.Reader
import FeatureGrant.Yaml.Token.Scalar
import FeatureGrant.Proofs.Header.Written
import FeatureGrant.Proofs.AllowAttribute.Written
import FeatureGrant.Proofs.RoundTrip
import FeatureGrant.Proofs.Session.Replacement
import FeatureGrant.Proofs.Policy.Forms
import FeatureGrant.Proofs.Policy.Stored
import FeatureGrant.Proofs.Fetch.Redirects
import FeatureGrant.Proofs.Command.Fetch
import FeatureGrant.Proofs.Command.Words
import FeatureGrant.Proofs.Policy.Failure
import FeatureGrant.Proofs.Command.Scenario
import FeatureGrant.Proofs.Scenario
import FeatureGrant.Proofs.Field.Grammar
import FeatureGrant.Proofs.Field.Reading
import FeatureGrant.Proofs.Header.Verdict
import FeatureGrant.Proofs.Command.Display
import FeatureGrant.Proofs.Command.Draft
import FeatureGrant.Proofs.Command.Outcome
import FeatureGrant.Proofs.Field.Characters
import FeatureGrant.Proofs.Header.Characters
import FeatureGrant.Proofs.AllowAttribute.Respelling
import FeatureGrant.Proofs.Policy.NormalForm
import FeatureGrant.Proofs.Policy.Explanation
import FeatureGrant.Proofs.Policy.Growth
import FeatureGrant.Proofs.OrderedMap.Traverse
import FeatureGrant.Proofs.Default
import FeatureGrant.Proofs.Policy.Defaults
import FeatureGrant.Proofs.Policy.Refusal
import FeatureGrant.Proofs.Fetch.Failure
import FeatureGrant.Proofs.Schema.Fields
import FeatureGrant.Proofs.Console.Shown
import FeatureGrant.Proofs.Console.Table
import FeatureGrant.Proofs.Command.AllowTable
import FeatureGrant.Proofs.Command.Features
