import ClimateBus.Block.System
import ClimateBus.Block.Capability
import ClimateBus.Block.Holding
import ClimateBus.Block.Error
import ClimateBus.Serial.Rehearsal
import ClimateBus.Gateway.Command
import ClimateBus.Console.Run
import ClimateBus.Journal
import ClimateBus.Simulation
import ClimateBus.Supervisor
import ClimateBus.Main
import ClimateBus.Proofs.RegisterMap
import ClimateBus.Proofs.Runs
import ClimateBus.Proofs.Records
import ClimateBus.Proofs.SlotSteps
import ClimateBus.Proofs.GatewaySteps
import ClimateBus.Proofs.LinkHistory
import ClimateBus.Proofs.SlotInvariants
import ClimateBus.Proofs.HoldingMirror
import ClimateBus.Proofs.StatusMirror
import ClimateBus.Proofs.PendingEdit
import ClimateBus.Proofs.CommandEffect
import ClimateBus.Proofs.FilterPulse
import ClimateBus.Proofs.PollTiming
import ClimateBus.Proofs.OperationSpacing
import ClimateBus.Proofs.ShiftRegister
import ClimateBus.Proofs.FrameFormat
import ClimateBus.Proofs.Transfers
import ClimateBus.Proofs.BitErrors
import ClimateBus.Proofs.BufferContract
import ClimateBus.Proofs.ObservedLine
import ClimateBus.Proofs.ExchangeCourse
import ClimateBus.Proofs.LineDirection
import ClimateBus.Proofs.SingleExchange
import ClimateBus.Proofs.ScriptedExchange
import ClimateBus.Proofs.ReplyArrival
import ClimateBus.Proofs.ReplyChecks
import ClimateBus.Proofs.RequestDecoding
import ClimateBus.Proofs.Agreement
import ClimateBus.Proofs.FaultFree
import ClimateBus.Proofs.Retry
import ClimateBus.Proofs.SlotTable
import ClimateBus.Proofs.Repetition
import ClimateBus.Proofs.CommandOrder
import ClimateBus.Proofs.Independence
import ClimateBus.Proofs.LineCut
import ClimateBus.Proofs.JournalContents
import ClimateBus.Proofs.JournalReader
import ClimateBus.Proofs.SupervisorRuns
import ClimateBus.Proofs.SupervisorAccounts
import ClimateBus.Proofs.CommandRequests
import ClimateBus.Proofs.RefusedRequests
import ClimateBus.Proofs.CommandTraffic
import ClimateBus.Proofs.Discovery
import ClimateBus.Proofs.PollPass
import ClimateBus.Proofs.QuotedStrings
import ClimateBus.Proofs.WrittenValues
import ClimateBus.Proofs.WrittenDocuments
import ClimateBus.Proofs.DocumentIntegers
import ClimateBus.Proofs.PartialSettings
import ClimateBus.Proofs.SettingsRange
import ClimateBus.Proofs.WrittenFiles
import ClimateBus.Proofs.SettingsFiles
import ClimateBus.Proofs.UnitFrame
import ClimateBus.Proofs.StatusSync
import ClimateBus.Proofs.ErrorCache
import ClimateBus.Proofs.ChangeReports
import ClimateBus.Proofs.EditMark
import ClimateBus.Proofs.ImageNumber
import ClimateBus.Proofs.WriteBack
import ClimateBus.Proofs.NearestNumber
import ClimateBus.Proofs.StatusEdits
import ClimateBus.Proofs.NumberWidths
import ClimateBus.Proofs.CommandValues
import ClimateBus.Proofs.HoldingReflection
import ClimateBus.Proofs.RegisterPlaces
import ClimateBus.Proofs.SystemFlags
import ClimateBus.Proofs.NameSpelling
import ClimateBus.Proofs.LongFields
import ClimateBus.Proofs.ExitCodes
import ClimateBus.Proofs.UnitSelection
