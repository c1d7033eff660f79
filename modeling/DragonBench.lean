import DragonBench.Lib.Transition
import DragonBench.Lib.Script
import DragonBench.Lib.SerialNumber
import DragonBench.Lib.RingBuffer
import DragonBench.Lib.BoundedQueue
import DragonBench.Lib.KeyedList
import DragonBench.Lib.Grouping
import DragonBench.Lib.Epochs
import DragonBench.Lib.Text
import DragonBench.Lib.Utf8
import DragonBench.Lib.Lines
import DragonBench.Lib.Utf8Replace
import DragonBench.Lib.TextFile
import DragonBench.Lib.DateTime
import DragonBench.Lib.Json
import DragonBench.Lib.JsonRoundTrip
import DragonBench.Lib.JsonText
import DragonBench.Lib.JsonSplice
import DragonBench.Lib.JsonWidth
import DragonBench.CJson
import DragonBench.Run
import DragonBench.RunsPost
import DragonBench.Event
import DragonBench.Workload
import DragonBench.Traffic
import DragonBench.Pacing
import DragonBench.Device
import DragonBench.DeviceStep
import DragonBench.Ownership
import DragonBench.History
import DragonBench.Abort
import DragonBench.Faults
import DragonBench.Reboot
import DragonBench.Fields
import DragonBench.Verdicts
import DragonBench.Blocks
import DragonBench.Sequence
import DragonBench.Routes
import DragonBench.Parameters
import DragonBench.Widths
import DragonBench.Client
import DragonBench.RunIds
import DragonBench.Snapshots
import DragonBench.Boots
import DragonBench.Network
import DragonBench.Credentials
import DragonBench.Station
import DragonBench.StationStep
import DragonBench.Provision
import DragonBench.Outcome
import DragonBench.Connected
import DragonBench.Retry
import DragonBench.Window
import DragonBench.Persist
import DragonBench.Accepted
import DragonBench.Responses
import DragonBench.Firmware
import DragonBench.Refusals
import DragonBench.Secret
import DragonBench.Recovery
import DragonBench.Monitor
import DragonBench.RawLog
import DragonBench.Flash
import DragonBench.Cpu
import DragonBench.Association
import DragonBench.Backoff
import DragonBench.RequestIds
import DragonBench.Hostname
import DragonBench.SetupPage
import DragonBench.Echo
import DragonBench.CliRun
import DragonBench.PollFailures
import DragonBench.Lib.Rounding
import DragonBench.Lib.Regex
import DragonBench.Capture
import DragonBench.Lib.Segments
import DragonBench.CaptureBoots
import DragonBench.Lib.Chunks
import DragonBench.ReadLoop
import DragonBench.Extract
import DragonBench.Lib.GroupBy
import DragonBench.Summary
import DragonBench.Lib.Statistics
import DragonBench.RecoveryStats
import DragonBench.Anomalies
import DragonBench.Campaign
import DragonBench.Phases
import DragonBench.Export
import DragonBench.FormRequest
import DragonBench.Display
import DragonBench.Evidence
import DragonBench.Reports
import DragonBench.Lib.Response
import DragonBench.Latency
import DragonBench.Lib.Refinement
import DragonBench.RunService
import DragonBench.Lib.Lock
import DragonBench.StateLock
import DragonBench.Transfers
import DragonBench.Fitting
import DragonBench.Lib.JsonSchema
import DragonBench.Schema
