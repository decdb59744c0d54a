import Logbook.Session
import Logbook.Decimal.Reading
import Logbook.Proofs.Logger
import Logbook.Proofs.Configuration
import Logbook.Proofs.Ledger
import Logbook.Proofs.Ledger.Conservation
import Logbook.Proofs.Ledger.Fates
import Logbook.Proofs.Cut
import Logbook.Proofs.Bytes
import Logbook.Proofs.Reachable
import Logbook.Proofs.Burst
import Logbook.Proofs.Deferral
import Logbook.Proofs.Host.Running
import Logbook.Proofs.Host.Activity
import Logbook.Proofs.Host.Pending
import Logbook.Proofs.Host.Reentrancy
import Logbook.Proofs.Given
import Logbook.Proofs.Capture
import Logbook.Proofs.Host.Attribution
import Logbook.Proofs.Host.Snapshot
import Logbook.Proofs.Host.Unwinding
import Logbook.Proofs.Capacity
import Logbook.Proofs.Host.Access
import Logbook.Proofs.Balance
import Logbook.Proofs.Forwarding
import Logbook.Proofs.Host.Bridge
import Logbook.Proofs.Polling
import Logbook.Proofs.Json.Writing
import Logbook.Proofs.Omission
import Logbook.Proofs.Refusal
import Logbook.Proofs.Encoding
import Logbook.Proofs.Eviction
import Logbook.Proofs.Portions
import Logbook.Proofs.Copying
import Logbook.Proofs.Retrieval
import Logbook.Proofs.Sink.Lines
import Logbook.Proofs.Host.Intake
import Logbook.Proofs.Decoding
