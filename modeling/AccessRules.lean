import AccessRules.Attribute
import AccessRules.Builder
import AccessRules.Decision.Manager
import AccessRules.Decision.Voter
import AccessRules.Expression.Compile
import AccessRules.Expression.Escape
import AccessRules.Expression.Evaluation
import AccessRules.Expression.Formatted
import AccessRules.Expression.Grammar
import AccessRules.Expression.Lexer
import AccessRules.Expression.Literal
import AccessRules.Expression.Numeral
import AccessRules.Expression.Reader
import AccessRules.Expression.Reading
import AccessRules.Expression.Token
import AccessRules.Expression.Tree
import AccessRules.Expression.Walk
import AccessRules.Fault
import AccessRules.Field
import AccessRules.Handler
import AccessRules.Log
import AccessRules.Matcher
import AccessRules.Network.Address
import AccessRules.Network.Membership
import AccessRules.Network.Subnet
import AccessRules.Number.Binary64
import AccessRules.Number.Shortest
import AccessRules.Pattern.Ant
import AccessRules.Pattern.Cache
import AccessRules.Regex.Bracket
import AccessRules.Regex.Escape
import AccessRules.Regex.Letter
import AccessRules.Regex.Match
import AccessRules.Regex.Node
import AccessRules.Regex.Opening
import AccessRules.Regex.Reading
import AccessRules.Regex.Source
import AccessRules.Report
import AccessRules.Request
import AccessRules.Rule.Basic
import AccessRules.Rule.Registry
import AccessRules.Rule.Source
import AccessRules.Rule.Table
import AccessRules.Security
import AccessRules.Settings
import AccessRules.Shorthand
import AccessRules.Text.Blank
import AccessRules.Text.CaseRun
import AccessRules.Text.Fold
import AccessRules.Text.Identifier
import AccessRules.Text.Intervals
import AccessRules.Text.Normal
import AccessRules.Text.Normal.Data
import AccessRules.Text.Numeral
import AccessRules.Text.Printable
import AccessRules.Text.Quoted
import AccessRules.Text.Sorted
import AccessRules.Text.Split
import AccessRules.Text.Upper
import AccessRules.Text.Word
import AccessRules.Value
import AccessRules.Proofs.Rule.Reflection
import AccessRules.Proofs.Rule.Governing
import AccessRules.Proofs.Rule.Lifecycle
import AccessRules.Proofs.Pattern.Language
import AccessRules.Proofs.Pattern.Subtree
import AccessRules.Proofs.Pattern.Recency
import AccessRules.Proofs.Outcome
import AccessRules.Proofs.Expression.Parts
import AccessRules.Proofs.Expression.Origin
import AccessRules.Proofs.Expression.Whitelist
import AccessRules.Proofs.Expression.Dependence
import AccessRules.Proofs.Expression.Growth
import AccessRules.Proofs.Expression.Quotation
import AccessRules.Proofs.Handler.Builtin
import AccessRules.Proofs.Handler.Validation
import AccessRules.Proofs.Handler.Evaluation
import AccessRules.Proofs.Handler.Dependence
import AccessRules.Proofs.Handler.Growth
import AccessRules.Proofs.Decision.Aggregation
import AccessRules.Proofs.Decision.Conjunction
import AccessRules.Proofs.Decision.Polling
import AccessRules.Proofs.Decision.Growth
import AccessRules.Proofs.Builder.Session
import AccessRules.Proofs.Builder.History
import AccessRules.Proofs.Builder.Totality
import AccessRules.Proofs.Expression.Spelling
import AccessRules.Proofs.Expression.Spacing
import AccessRules.Proofs.Expression.Reading
import AccessRules.Proofs.Expression.Writing
import AccessRules.Proofs.Expression.Recovery
import AccessRules.Proofs.Expression.Printing
import AccessRules.Proofs.Requirement.Canonical
import AccessRules.Proofs.Requirement.Agreement
import AccessRules.Proofs.Network.Address
import AccessRules.Proofs.Network.Membership
import AccessRules.Proofs.Network.AddressText
import AccessRules.Proofs.Network.SubnetText
import AccessRules.Proofs.Text.Fold
import AccessRules.Proofs.Pattern.LetterCase
import AccessRules.Proofs.Decision.Joining
import AccessRules.Proofs.Rule.Exchange
import AccessRules.Proofs.Expression.Operand
import AccessRules.Proofs.Expression.Rewriting
import AccessRules.Proofs.Expression.WellFormed
import AccessRules.Proofs.Expression.NormalForm
import AccessRules.Proofs.Handler.Refusal
import AccessRules.Proofs.Expression.Demand
import AccessRules.Proofs.Expression.Place
import AccessRules.Proofs.Expression.Collection
import AccessRules.Proofs.Handler.Evaluable
import AccessRules.Proofs.Pattern.RegexForm
import AccessRules.Proofs.Text.Upper
import AccessRules.Proofs.Pattern.Method
import AccessRules.Proofs.Rule.Replacement
import AccessRules.Proofs.Handler.Alternatives
