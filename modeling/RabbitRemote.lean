import RabbitRemote.Arguments.Complaint
import RabbitRemote.Arguments.Grammar
import RabbitRemote.Arguments.Reading
import RabbitRemote.Arguments.Token
import RabbitRemote.Arguments.Usage
import RabbitRemote.Batch.Basic
import RabbitRemote.Batch.Dispatch
import RabbitRemote.Batch.Field
import RabbitRemote.Charset.Fault
import RabbitRemote.Charset.Registry
import RabbitRemote.Charset.SingleOctet
import RabbitRemote.Charset.Utf16
import RabbitRemote.Charset.Utf8
import RabbitRemote.Choreography.Action
import RabbitRemote.Choreography.Instruction
import RabbitRemote.Choreography.Payload
import RabbitRemote.Choreography.Score
import RabbitRemote.Codec
import RabbitRemote.CommandLine
import RabbitRemote.Disk
import RabbitRemote.Failure
import RabbitRemote.Form
import RabbitRemote.Ini.Document
import RabbitRemote.Ini.FileText
import RabbitRemote.Ini.Line
import RabbitRemote.Ini.Reader
import RabbitRemote.Ledger
import RabbitRemote.Log.Level
import RabbitRemote.Log.Record
import RabbitRemote.Log.Routing
import RabbitRemote.Main
import RabbitRemote.Names
import RabbitRemote.Number.Binary64
import RabbitRemote.Number.Decimal
import RabbitRemote.Number.IntegerLiteral
import RabbitRemote.Number.RealLiteral
import RabbitRemote.Number.Shortest
import RabbitRemote.Outcome
import RabbitRemote.Path
import RabbitRemote.Rabbit
import RabbitRemote.Reply.Acknowledgement
import RabbitRemote.Reply.EarPositions
import RabbitRemote.Reply.Lines
import RabbitRemote.RequestUrl
import RabbitRemote.Session
import RabbitRemote.Settings
import RabbitRemote.Setup
import RabbitRemote.Text.Blank
import RabbitRemote.Text.Cut
import RabbitRemote.Text.Digit
import RabbitRemote.Text.Hex
import RabbitRemote.Text.Line
import RabbitRemote.Text.LowerCase
import RabbitRemote.Text.Printable
import RabbitRemote.Text.Quoted
import RabbitRemote.Text.Runs
import RabbitRemote.Value
import RabbitRemote.Proofs.Arguments.Places
import RabbitRemote.Proofs.Batch.Conclusion
import RabbitRemote.Proofs.Batch.Endings
import RabbitRemote.Proofs.Batch.HeardEars
import RabbitRemote.Proofs.Batch.LastWrites
import RabbitRemote.Proofs.Batch.Requests
import RabbitRemote.Proofs.Batch.Run
import RabbitRemote.Proofs.Charset.CallerOctets
import RabbitRemote.Proofs.Charset.Spelling
import RabbitRemote.Proofs.Choreography.Changes
import RabbitRemote.Proofs.Choreography.Equations
import RabbitRemote.Proofs.Choreography.PayloadGrammar
import RabbitRemote.Proofs.Choreography.PayloadRoundTrip
import RabbitRemote.Proofs.Choreography.Refusals
import RabbitRemote.Proofs.Choreography.Timing
import RabbitRemote.Proofs.Choreography.WireFormat
import RabbitRemote.Proofs.CommandLine.EndToEnd
import RabbitRemote.Proofs.CommandLine.Tasks
import RabbitRemote.Proofs.Fallible
import RabbitRemote.Proofs.Ini.Items
import RabbitRemote.Proofs.Ini.PlainLines
import RabbitRemote.Proofs.Ini.Sheets
import RabbitRemote.Proofs.Ledger
import RabbitRemote.Proofs.Log.Delivery
import RabbitRemote.Proofs.Log.Handlers
import RabbitRemote.Proofs.Log.Lineage
import RabbitRemote.Proofs.Number.DecimalReading
import RabbitRemote.Proofs.Number.Literal
import RabbitRemote.Proofs.Pairing
import RabbitRemote.Proofs.Rabbit.Acknowledged
import RabbitRemote.Proofs.Rabbit.Coherence
import RabbitRemote.Proofs.Rabbit.Demands
import RabbitRemote.Proofs.Rabbit.EarQuery
import RabbitRemote.Proofs.Rabbit.FailedCommands
import RabbitRemote.Proofs.Rabbit.History
import RabbitRemote.Proofs.Rabbit.Replay
import RabbitRemote.Proofs.Rabbit.Run
import RabbitRemote.Proofs.Rabbit.Sending
import RabbitRemote.Proofs.Rabbit.Verdicts
import RabbitRemote.Proofs.Rabbit.Waiting
import RabbitRemote.Proofs.Reply.Findings
import RabbitRemote.Proofs.Reply.FirstTold
import RabbitRemote.Proofs.Reply.JoinedLines
import RabbitRemote.Proofs.Reply.Normalising
import RabbitRemote.Proofs.Reply.Numbered
import RabbitRemote.Proofs.Reply.Positions
import RabbitRemote.Proofs.Reply.WideGaps
import RabbitRemote.Proofs.Request.Composition
import RabbitRemote.Proofs.Request.FormDecoding
import RabbitRemote.Proofs.Request.QueryPieces
import RabbitRemote.Proofs.Request.Unsent
import RabbitRemote.Proofs.Secrecy.CommandLine
import RabbitRemote.Proofs.Secrecy.Requests
import RabbitRemote.Proofs.Secrecy.Settings
import RabbitRemote.Proofs.Session.Exchanges
import RabbitRemote.Proofs.Session.Lifecycle
import RabbitRemote.Proofs.Settings.WrittenValues
import RabbitRemote.Proofs.Text.Pieces
import RabbitRemote.Proofs.Text.Trimming
