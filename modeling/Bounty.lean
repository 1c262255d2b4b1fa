import Bounty.Attribute
import Bounty.Binary64
import Bounty.Calendar
import Bounty.Command
import Bounty.Command.Run
import Bounty.Data
import Bounty.Data.Display
import Bounty.Data.Shape
import Bounty.Data.View
import Bounty.Dice
import Bounty.Dice.Script
import Bounty.Dice.Twister
import Bounty.Document
import Bounty.Element
import Bounty.Emoji
import Bounty.Emoji.Names
import Bounty.Fault
import Bounty.FilePath
import Bounty.FileTree
import Bounty.Grant
import Bounty.Host
import Bounty.Json.Reader
import Bounty.Json.Writer
import Bounty.Kind
import Bounty.Main
import Bounty.Markup
import Bounty.Markup.Literal
import Bounty.Markup.Shown
import Bounty.Markup.Style
import Bounty.Modifier
import Bounty.Numeral
import Bounty.Numeral.Lenient
import Bounty.Outline
import Bounty.Outline.Drawing
import Bounty.Parser
import Bounty.Reading
import Bounty.Record
import Bounty.Record.Field
import Bounty.Record.Issue
import Bounty.Record.Reader
import Bounty.Requirement
import Bounty.Resolution
import Bounty.Schema
import Bounty.Settings
import Bounty.Survey
import Bounty.Text.Base64
import Bounty.Text.Blank
import Bounty.Text.CodePage
import Bounty.Text.Codec
import Bounty.Text.CaseClass
import Bounty.Text.Digit
import Bounty.Text.Half
import Bounty.Text.LowerCase
import Bounty.Text.Printable
import Bounty.Text.Quoted
import Bounty.Text.Terminal
import Bounty.Text.Utf8
import Bounty.Text.Width
import Bounty.Text.Wrap
import Bounty.Trace
import Bounty.Xml.DocumentType
import Bounty.Xml.Encoding
import Bounty.Xml.Name
import Bounty.Xml.Namespace
import Bounty.Xml.Passage
import Bounty.Xml.Reader
import Bounty.Xml.Reference
import Bounty.Xml.Token
import Bounty.Yaml.Cursor
import Bounty.Yaml.Fault
import Bounty.Yaml.Graph
import Bounty.Yaml.Meaning
import Bounty.Yaml.Network
import Bounty.Yaml.Scalar
import Bounty.Yaml.Tag
import Bounty.Yaml.Timestamp
import Bounty.Yaml.Token
import Bounty.Proofs.Parser.Transfer
import Bounty.Proofs.Replay
import Bounty.Proofs.Parser.Strict
import Bounty.Proofs.Parser.Depth
import Bounty.Proofs.Numeral
import Bounty.Proofs.Parser.Soundness
import Bounty.Proofs.Parser.Completeness
import Bounty.Proofs.Resolution
import Bounty.Proofs.Resolution.Pick
import Bounty.Proofs.Occurrence
import Bounty.Proofs.Resolution.Safety
import Bounty.Proofs.Agreement
import Bounty.Proofs.Lookups
import Bounty.Proofs.Rules
import Bounty.Proofs.Parser.Role
import Bounty.Proofs.Parser.Branches
import Bounty.Proofs.Parser.Shown
import Bounty.Proofs.Parser.Location
import Bounty.Proofs.Parser.Edit
import Bounty.Proofs.Parser.Tidy
import Bounty.Proofs.Parser.Calls
import Bounty.Proofs.Parser.Conservation
import Bounty.Proofs.Resolution.Sequence
import Bounty.Proofs.Resolution.Selection
import Bounty.Proofs.Resolution.Splice
import Bounty.Proofs.Resolution.Irrelevance
import Bounty.Proofs.Parser.Look
import Bounty.Proofs.Data.Shape
import Bounty.Proofs.Data.View
import Bounty.Proofs.Data.Writing
import Bounty.Proofs.Document
import Bounty.Proofs.Parser.Relocation
import Bounty.Proofs.Requirement
import Bounty.Proofs.Resolution.Weights
import Bounty.Proofs.FileTree
import Bounty.Proofs.Survey
import Bounty.Proofs.Data.Depth
import Bounty.Proofs.Record.Field
import Bounty.Proofs.Record.Sound
import Bounty.Proofs.Record.Complete
import Bounty.Proofs.Text.Half
import Bounty.Proofs.Json.Reader
import Bounty.Proofs.Json.RoundTrip
import Bounty.Proofs.Record.Dump
import Bounty.Proofs.Record.Validation
import Bounty.Proofs.Parser.Blocks
import Bounty.Proofs.Requirement.Leaves
import Bounty.Proofs.Data.Faults
import Bounty.Proofs.Parser.Restriction
import Bounty.Proofs.Parser.Walk
import Bounty.Proofs.Parser.Tour
import Bounty.Proofs.Markup
import Bounty.Proofs.Outline
import Bounty.Proofs.Outline.Marks
import Bounty.Proofs.FileTree.Writing
import Bounty.Proofs.FileTree.Listing
import Bounty.Proofs.Settings
import Bounty.Proofs.Numeral.Spelling
import Bounty.Proofs.Numeral.Lenient
import Bounty.Proofs.Attribute
import Bounty.Proofs.Yaml.Knot
