import Switchboard.Assistant
import Switchboard.Console.Arguments
import Switchboard.Console.Dialogue
import Switchboard.Conversation
import Switchboard.Data.Conversion
import Switchboard.Data.Json.Printer
import Switchboard.Data.Json.Reader
import Switchboard.Data.Json.Token
import Switchboard.Data.Merge
import Switchboard.Data.Misreading
import Switchboard.Data.Moment
import Switchboard.Data.Scalar
import Switchboard.Data.Value
import Switchboard.Data.Yaml.Layout
import Switchboard.Data.Yaml.Node
import Switchboard.Data.Yaml.Outline
import Switchboard.Data.Yaml.Plain
import Switchboard.Data.Yaml.Reader
import Switchboard.Data.Yaml.Timestamp
import Switchboard.Data.Yaml.Token
import Switchboard.Data.Yaml.Writing
import Switchboard.Expression.Calculation
import Switchboard.Expression.Cleaning
import Switchboard.Expression.Evaluation
import Switchboard.Expression.Fault
import Switchboard.Expression.Report
import Switchboard.Expression.Token
import Switchboard.Expression.Validation
import Switchboard.Failure
import Switchboard.Fallback
import Switchboard.Http.Exchange
import Switchboard.Http.Header
import Switchboard.Main
import Switchboard.Number.Decimal
import Switchboard.Number.Double
import Switchboard.Number.Reading
import Switchboard.Profile.Folder
import Switchboard.Profile.Loading
import Switchboard.Profile.Placeholder
import Switchboard.Profile.Shipped
import Switchboard.Routing
import Switchboard.Server
import Switchboard.Skill.Basic
import Switchboard.Skill.Calculator
import Switchboard.Skill.Dictionary
import Switchboard.Skill.Registry
import Switchboard.Skill.Source
import Switchboard.Skill.Trigger
import Switchboard.Skill.Weather
import Switchboard.Text.Blank
import Switchboard.Text.Digit
import Switchboard.Text.Encoding
import Switchboard.Text.Escape
import Switchboard.Text.Hex
import Switchboard.Text.InvisibleTable
import Switchboard.Text.Letter
import Switchboard.Text.LetterTable
import Switchboard.Text.Line
import Switchboard.Text.Lowercase
import Switchboard.Text.Percent
import Switchboard.Text.Quoted
import Switchboard.Text.Search
import Switchboard.Text.Style
import Switchboard.Text.Utf8
import Switchboard.Proofs.Expression.Grammar
import Switchboard.Proofs.Expression.Reading
import Switchboard.Proofs.Expression.Validity
import Switchboard.Proofs.Skill.Matching
import Switchboard.Proofs.Routing.FirstHit
import Switchboard.Proofs.Data.Merging
import Switchboard.Proofs.Profile.Inheritance
import Switchboard.Proofs.Routing.Command
import Switchboard.Proofs.Profile.Files
import Switchboard.Proofs.Routing.Boundary
import Switchboard.Proofs.Skill.Weather
import Switchboard.Proofs.Conversation.Run
import Switchboard.Proofs.Data.Layering
import Switchboard.Proofs.Data.Reading
import Switchboard.Proofs.Profile.Lineage
import Switchboard.Proofs.Profile.Shipped
import Switchboard.Proofs.Profile.Expansion
import Switchboard.Proofs.Routing.Silence
import Switchboard.Proofs.Profile.Setup
import Switchboard.Proofs.Server.Calls
import Switchboard.Proofs.Server.Sessions
import Switchboard.Proofs.Routing.Requests
import Switchboard.Proofs.Console.Agreement
import Switchboard.Proofs.Routing.Credential
import Switchboard.Proofs.Expression.Cleaning
import Switchboard.Proofs.Routing.Calculation
import Switchboard.Proofs.Expression.Guarded
import Switchboard.Proofs.Expression.Balance
import Switchboard.Proofs.Expression.Tidiness
import Switchboard.Proofs.Expression.Misfit
import Switchboard.Proofs.Expression.Lexemes
import Switchboard.Proofs.Expression.Respacing
import Switchboard.Proofs.Expression.Continuation
import Switchboard.Proofs.Number.Nearest
import Switchboard.Proofs.Number.Plain
import Switchboard.Proofs.Expression.Reported
import Switchboard.Proofs.Expression.Reread
import Switchboard.Proofs.Data.Overlay
import Switchboard.Proofs.Number.Remainder
import Switchboard.Proofs.Profile.Substitution
import Switchboard.Proofs.Profile.Location
import Switchboard.Proofs.Profile.Sections
import Switchboard.Proofs.Text.Letter
import Switchboard.Proofs.Routing.Argument
import Switchboard.Proofs.Routing.Phrase
import Switchboard.Proofs.Routing.Question
import Switchboard.Proofs.Routing.Order
import Switchboard.Proofs.Routing.Keyword
import Switchboard.Proofs.Skill.Query
import Switchboard.Proofs.Text.Segment
import Switchboard.Proofs.Skill.Address
import Switchboard.Proofs.Skill.Origin
import Switchboard.Proofs.Skill.Headword
