import Immortal.Store.Safety
import Immortal.Store.Convergence
import Immortal.Store.Capacity
import Immortal.Store.Decode
import Immortal.Store.LocalEphemeral
import Immortal.Gateway.Requests
import Immortal.Gateway.OutboundQueue
import Immortal.Gateway.HubExactlyOnce
import Immortal.Gateway.Pump
import Immortal.Client.VerifyBeforeFund
import Immortal.Client.TerminalStatus
import Immortal.Provider.RefundLeaf
import Immortal.Bitcoin.Musig2Complete
import Immortal.Provider.Coins
import Immortal.Provider.InverseSearch
import Immortal.Provider.IntentJournalRuns
