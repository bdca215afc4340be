import StoreLink.Gateway.Listen
import StoreLink.Client
import StoreLink.Script
import StoreLink.Site
import StoreLink.Session.Program
import StoreLink.Main
import StoreLink.Proofs.ReplyFraming
import StoreLink.Proofs.ConformingStore
import StoreLink.Proofs.InputLines
import StoreLink.Proofs.InTurn
import StoreLink.Proofs.SessionRequests
import StoreLink.Proofs.GatewayPaths
import StoreLink.Proofs.GatewayResponses
import StoreLink.Proofs.GatewayExchanges
import StoreLink.Proofs.Delivery
import StoreLink.Proofs.GatewayRoundTrip
import StoreLink.Proofs.LossyReading
import StoreLink.Proofs.SessionDeeds
import StoreLink.Proofs.FailingOutputs
import StoreLink.Proofs.SessionTranscript
import StoreLink.Proofs.ClientCalls
import StoreLink.Proofs.DamagedReplies
import StoreLink.Proofs.CommandFields
import StoreLink.Proofs.ExchangeOrder
import StoreLink.Proofs.PathSpelling
import StoreLink.Proofs.AddressableKeys
import StoreLink.Proofs.EndpointTexts
import StoreLink.Proofs.EndpointGrammar
import StoreLink.Proofs.UsageCounts
import StoreLink.Proofs.TypedCommands
import StoreLink.Proofs.ErrorMessages
import StoreLink.Proofs.BareSlashes
