import TokenliveGateway.PolicyNames
import TokenliveGateway.PolicyLookups
import TokenliveGateway.ModelAliases
import TokenliveGateway.BreakerRecovery
import TokenliveGateway.BreakerProbes
import TokenliveGateway.BreakerOpening
import TokenliveGateway.BreakerListing
import TokenliveGateway.LimitKeys
import TokenliveGateway.ErrorMessages
import TokenliveGateway.FallbackOrder
import TokenliveGateway.SessionHash
import TokenliveGateway.BucketEquivalence
import TokenliveGateway.CounterEquivalence
import TokenliveGateway.ReservationSettlement
import TokenliveGateway.AbortedStreams
import TokenliveGateway.HedgedHeaders
import TokenliveGateway.SlowCalls
import TokenliveGateway.LastAttempt
import TokenliveGateway.CompensationClaims
import TokenliveGateway.CompensationPlaces
import TokenliveGateway.StreamTerminals
import TokenliveGateway.ChatMessagesTrace
import TokenliveGateway.MessagesResponsesTrace
import TokenliveGateway.UsageReaders
import TokenliveGateway.ConversationOrder
import TokenliveGateway.CompletionAgreement
import TokenliveGateway.ClientDisconnects
import TokenliveGateway.WebSocketUsage
import TokenliveGateway.WebSocketPumps
import TokenliveGateway.TurnBilling
import TokenliveGateway.SchemaCleaning
import TokenliveGateway.ConfigCache
import TokenliveGateway.ResponsesMessages
import TokenliveGateway.FrameForwarding
import TokenliveGateway.WeightedDraws
import TokenliveGateway.LatencyRing
import TokenliveGateway.AsyncPublisher
import TokenliveGateway.AccessLogBatches
import TokenliveGateway.HedgingDelay
