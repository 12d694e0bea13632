import L850GL.Text
import L850GL.Cell
import L850GL.Blob
import L850GL.Radio
import L850GL.Modem
import L850GL.Identity
import L850GL.Lib.Ledger
import L850GL.Hardware
import L850GL.Hardware.Attestation
import L850GL.Errors
import L850GL.MutationPolicy
import L850GL.Lib.Transition
import L850GL.Lib.Trace
import L850GL.Lib.Deferral
import L850GL.Lib.Coalesce
import L850GL.Mutation.Operation
import L850GL.Mutation.System
import L850GL.Mutation.Invariant
import L850GL.Mutation.Completion
import L850GL.Mutation.Callbacks
import L850GL.Mutation.Run
import L850GL.Mutation.WriteSafety
import L850GL.Mutation.VerifiedSuccess
import L850GL.Mutation.StateMachine
import L850GL.Mutation.Moves
import L850GL.Mutation.Refinement
import L850GL.Mutation.Lifecycle
import L850GL.Mutation.Cooldown
import L850GL.SafeText
import L850GL.OwnNumber
import L850GL.Frontend.Gateway
import L850GL.Frontend.Widgets
import L850GL.Frontend.Lock
import L850GL.Lib.Uci
import L850GL.Lib.AssocList
import L850GL.Lib.Loop
import L850GL.Lib.TextFormat
import L850GL.Lib.Iso8601
import L850GL.Lib.Sorting
import L850GL.Lib.Pages
import L850GL.Lib.Version
import L850GL.Network.Binding
import L850GL.Network.SectionLookup
import L850GL.Network.ModesUpdate
import L850GL.Network.Allowedmode
import L850GL.Advanced.Operation
import L850GL.Advanced.System
import L850GL.Advanced.Completion
import L850GL.Advanced.ExactlyOnce
import L850GL.Advanced.Discipline
import L850GL.Advanced.Cooldown
import L850GL.Lib.ExpiringQueue
import L850GL.Lib.ExpiringMap
import L850GL.Sms.Policy
import L850GL.Sms.InboundText
import L850GL.Sms.Cache
import L850GL.Sms.TokenCache
import L850GL.Sms.Operation
import L850GL.Sms.System
import L850GL.Sms.Effects
import L850GL.Sms.Steps
import L850GL.Sms.Discipline
import L850GL.Sms.CacheReady
import L850GL.Sms.Holding
import L850GL.Sms.Tokens
import L850GL.Sms.AtMostOnce
import L850GL.Sms.Repeats
import L850GL.UnknownOutcome
import L850GL.Sms.Changes
import L850GL.Sms.Scripts
import L850GL.Sms.Ids
import L850GL.Sms.IdIntegrity
import L850GL.Sms.Epochs
import L850GL.Sms.Tombstones
import L850GL.Sms.Listing
import L850GL.Sms.Revision
import L850GL.Sms.Paging
import L850GL.Sms.NewestFirst
import L850GL.Frontend.Responses
import L850GL.Frontend.Replies
import L850GL.Frontend.ReplyNames
import L850GL.Frontend.Carrier
import L850GL.Frontend.CarrierCache
import L850GL.Frontend.ExpertStatus
import L850GL.Frontend.CarrierReplies
import L850GL.Frontend.CarrierErrors
import L850GL.Frontend.SmsState
import L850GL.Frontend.SmsPages
import L850GL.Frontend.DeleteAll
import L850GL.Frontend.SmsDrafts
import L850GL.Frontend.DraftValidation
import L850GL.Frontend.DraftIsolation
import L850GL.Cell.Numerals
import L850GL.Cell.Bands
import L850GL.Cell.ScanGrammar
import L850GL.Cell.LockCodec
import L850GL.Ca
import L850GL.Ca.Records
import L850GL.MachineNumerals
import L850GL.Voltage
import L850GL.Ca.Grammar
import L850GL.Ca.Output
import L850GL.Radio.Selection
import L850GL.Connection
import L850GL.Refresh
import L850GL.Refresh.LosesNothing
import L850GL.CellInfo
import L850GL.CellInfo.Agreement
import L850GL.Reads
import L850GL.Reads.System
import L850GL.Reads.Effects
import L850GL.Reads.Discipline
import L850GL.Reads.RetryAfter
import L850GL.Reads.Spacing
import L850GL.Cooldown
import L850GL.UbusRequest
import L850GL.UbusRequest.Exact
import L850GL.UbusRequest.Libubox
import L850GL.Registry
import L850GL.Registry.Identity
import L850GL.Registry.Capacity
import L850GL.Status
import L850GL.Status.System
import L850GL.Lib.Ownership
import L850GL.Marks
import L850GL.Sms.Marks
import L850GL.Advanced.Marks
import L850GL.Mutation.Marks
import L850GL.Reads.Marks
import L850GL.Exclusion
import L850GL.Exclusion.Ownership
import L850GL.Exclusion.Steps
import L850GL.Exclusion.Operations
import L850GL.Exclusion.Runs
import L850GL.Exclusion.Safety
import L850GL.Frontend.DeleteScope
import L850GL.Frontend.StatusChecks
import L850GL.Frontend.SafeTexts
import L850GL.Frontend.StatusReplies
import L850GL.Frontend.SmsReplies
import L850GL.Frontend.BaseReplies
