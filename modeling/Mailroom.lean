import Mailroom.Main
import Mailroom.Proofs.Session
import Mailroom.Proofs.Store.Contents
import Mailroom.Proofs.Sql.Words
import Mailroom.Provider.Mailbox
import Mailroom.Proofs.Rule.QueryWords
import Mailroom.Proofs.Rule.QueryCondition
import Mailroom.Proofs.Rule.Selection
import Mailroom.Proofs.Provider.Schedule
import Mailroom.Proofs.Rule.Mirror
import Mailroom.Proofs.Sync.Walk
import Mailroom.Proofs.Text.Utf8Order
import Mailroom.Proofs.Sync.Order
import Mailroom.Proofs.Sync.Effect
import Mailroom.Proofs.Provider.Interruption
import Mailroom.Proofs.Sync.Listing
import Mailroom.Proofs.Sync.Resume
import Mailroom.Proofs.Store.OrderedMap
import Mailroom.Proofs.Run.Recovery
import Mailroom.Proofs.Json.RoundTrip
import Mailroom.Proofs.Message.RoundTrip
import Mailroom.Proofs.Store.ReadBack
import Mailroom.Proofs.Sql.Within
import Mailroom.Proofs.Rule.SentLabel
import Mailroom.Proofs.Rule.Stability
import Mailroom.Proofs.Rule.Relabel
import Mailroom.Proofs.Rule.Effect
import Mailroom.Proofs.Rule.Repetition
import Mailroom.Proofs.Rule.QueryText
import Mailroom.Proofs.Rule.Validity
import Mailroom.Proofs.Rule.Independence
import Mailroom.Proofs.Run.RuleLoop
import Mailroom.Proofs.Run.Reading
import Mailroom.Proofs.Rule.Failure
import Mailroom.Proofs.Run.Refusal
import Mailroom.Proofs.Store.AnyRows
import Mailroom.Proofs.Sync.Settled
import Mailroom.Proofs.Run.SecondRun
import Mailroom.Proofs.FileTree
import Mailroom.Proofs.Message.Rewriting
import Mailroom.Proofs.Machine
import Mailroom.Proofs.OAuth.Endpoint
import Mailroom.Proofs.OAuth.TokenFile
import Mailroom.Proofs.Provider.LabelListing
import Mailroom.Proofs.Store.Replacement
import Mailroom.Proofs.Provider.Calls
import Mailroom.Proofs.Provider.Performance
import Mailroom.Proofs.Rule.Trace
import Mailroom.Proofs.Rule.RowOrder
import Mailroom.Proofs.Rule.NetLabels
import Mailroom.Proofs.Provider.Reply
import Mailroom.Proofs.Run.ClientFailure
import Mailroom.Proofs.Calendar.Day
import Mailroom.Proofs.Text.FixedWidth
import Mailroom.Proofs.Sql.TextOrder
import Mailroom.Proofs.Calendar.Stamp
import Mailroom.Proofs.Rule.SingleFilter
import Mailroom.Proofs.Rule.Duration
import Mailroom.Proofs.Rule.DateFilter
import Mailroom.Proofs.Sql.LookBack
import Mailroom.Proofs.Rule.RelativeWindow
import Mailroom.Proofs.Sql.Pattern
import Mailroom.Proofs.Rule.Containment
import Mailroom.Proofs.Rule.Phrase
import Mailroom.Proofs.Rule.Compilation
import Mailroom.Proofs.Rule.SentCheck
import Mailroom.Proofs.Rule.Opposites
import Mailroom.Proofs.Sync.Chain
import Mailroom.Proofs.Sync.Cap
import Mailroom.Proofs.Sync.Paging
import Mailroom.Proofs.Store.HistoryMaximum
import Mailroom.Proofs.Store.HistoryOrder
import Mailroom.Proofs.Store.Decoding
import Mailroom.Proofs.Calendar.Elapsed
import Mailroom.Proofs.Message.Moment
import Mailroom.Proofs.Address.Bracket
import Mailroom.Proofs.Address.QuotedName
import Mailroom.Proofs.Text.Trimming
import Mailroom.Proofs.Text.Splitting
import Mailroom.Proofs.Address.MailboxList
import Mailroom.Proofs.Address.Display
import Mailroom.Proofs.Message.Envelope
import Mailroom.Proofs.Text.Utf8Bytes
import Mailroom.Proofs.Url.Escapes
import Mailroom.Proofs.Url.Path
import Mailroom.Proofs.Url.Below
import Mailroom.Proofs.Provider.MessageAddress
import Mailroom.Proofs.OAuth.Expiry
import Mailroom.Proofs.Url.Form
import Mailroom.Proofs.Url.Query
import Mailroom.Proofs.OAuth.Redirect
import Mailroom.Proofs.OAuth.EmptyCode
import Mailroom.Proofs.Json.Members
import Mailroom.Proofs.OAuth.Grant
import Mailroom.Proofs.OAuth.Renewal
import Mailroom.Proofs.Provider.LabelReply
