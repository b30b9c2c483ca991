import Iec104South.Lib.Reactive
import Iec104South.Lib.Chain
import Iec104South.Lib.OrdMap
import Iec104South.Lib.Keyed
import Iec104South.Lib.Scan
import Iec104South.Lib.Json
import Iec104South.Protocol
import Iec104South.Config
import Iec104South.ConfigImport
import Iec104South.ExchangeImport
import Iec104South.PrepareConnection
import Iec104South.TlsImport
import Iec104South.ProtocolImport
import Iec104South.Client
import Iec104South.HandleAsdu
import Iec104South.AsduReadings
import Iec104South.Connection
import Iec104South.Machine
import Iec104South.SessionFreshness
import Iec104South.TimeSync
import Iec104South.SyncGate
import Iec104South.GiStatus
import Iec104South.GiReplies
import Iec104South.GiCoverage
import Iec104South.GiAllCa
import Iec104South.GiAttempts
import Iec104South.GiExclusive
import Iec104South.GiCycle
import Iec104South.Commands
import Iec104South.CommandsConcurrent
import Iec104South.CommandCarrier
import Iec104South.CommandLimit
import Iec104South.ClientMachine
import Iec104South.GiRunning
import Iec104South.ActiveConnection
import Iec104South.DisconnectRequest
import Iec104South.GiTrigger
import Iec104South.IdenticalCommands
import Iec104South.ConThread
import Iec104South.GiRequest
import Iec104South.GiSpacing
import Iec104South.GiTimeout
import Iec104South.ThreadSections
import Iec104South.HandleDiscipline
import Iec104South.Lib.Lockset
import Iec104South.Operation
import Iec104South.OutstandingMutex
import Iec104South.Lib.Text
import Iec104South.AddressGrammar
import Iec104South.CertificatePath
import Iec104South.ReconnectPacing
import Iec104South.Deadlines
import Iec104South.NonTopicalBurst
import Iec104South.TlsObjects
import Iec104South.OperationBounds
import Iec104South.CommandValues
import Iec104South.UnknownLookups
import Iec104South.PathAudits
import Iec104South.Lib.Loop
import Iec104South.Lib.Split
import Iec104South.Tokenize
import Iec104South.TypeNames
import Iec104South.Lib.Waiting
import Iec104South.LockOrder
import Iec104South.Lib.Change
import Iec104South.Publishing
import Iec104South.ReadingFormat
import Iec104South.StatusReports
import Iec104South.Service
import Iec104South.Lifecycle
import Iec104South.Lib.Typestate
import Iec104South.SessionCalls
import Iec104South.SessionProtocol
import Iec104South.PathReports
import Iec104South.SyncSpacing
import Iec104South.Lib.Progress
import Iec104South.Recovery
import Iec104South.BackupConnections
import Iec104South.GiDuration
import Iec104South.ConfigTexts
import Iec104South.StaleData
import Iec104South.Lib.SharedPointer
import Iec104South.ActiveConnectionUse
