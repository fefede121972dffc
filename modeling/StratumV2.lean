import StratumV2.Encoding
import StratumV2.Transaction
import StratumV2.Job
import StratumV2.JobStore
import StratumV2.ShareAccounting
import StratumV2.Channel
import StratumV2.ValidateShare
import StratumV2.Run
import StratumV2.Atomicity
import StratumV2.Configuration
import StratumV2.Lifecycle
import StratumV2.Coinbase
import StratumV2.Credit
import StratumV2.BatchSize
import StratumV2.JobIds
import StratumV2.JobPhases
import StratumV2.Noise.Handshake
import StratumV2.Noise.Responder
import StratumV2.Noise.Erasure
import StratumV2.Noise.Certificate
import StratumV2.Noise.Pattern
