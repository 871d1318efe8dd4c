import LiveTimetable.Batch.Tally
import LiveTimetable.Batch.Updater
import LiveTimetable.Calendar.Civil
import LiveTimetable.Calendar.Date
import LiveTimetable.Calendar.DateText
import LiveTimetable.Calendar.Instant
import LiveTimetable.Calendar.InstantText
import LiveTimetable.Calendar.Zone
import LiveTimetable.Calendar.ZoneTable
import LiveTimetable.Json.Decode
import LiveTimetable.Json.Numeral
import LiveTimetable.Json.Reader
import LiveTimetable.Json.Value
import LiveTimetable.Json.Writer
import LiveTimetable.Main
import LiveTimetable.Message.Call
import LiveTimetable.Message.Codec
import LiveTimetable.Message.Journey
import LiveTimetable.Replay.Config
import LiveTimetable.Replay.Files
import LiveTimetable.Replay.Report
import LiveTimetable.Replay.Run
import LiveTimetable.Replay.ScheduleFile
import LiveTimetable.Seconds
import LiveTimetable.Service.Day
import LiveTimetable.Store.Basic
import LiveTimetable.Store.Departures
import LiveTimetable.Table
import LiveTimetable.Text.Basic
import LiveTimetable.Text.Quoted
import LiveTimetable.Timetable.BoardingRule
import LiveTimetable.Timetable.Passage
import LiveTimetable.Timetable.Schedule
import LiveTimetable.Timetable.Stop
import LiveTimetable.Timetable.Trip
import LiveTimetable.Timetable.TripRecord
import LiveTimetable.Timetable.Visit
import LiveTimetable.Update.Anchor
import LiveTimetable.Update.Check
import LiveTimetable.Update.Error
import LiveTimetable.Update.Matching
import LiveTimetable.Update.Propagation
import LiveTimetable.Update.Revision
import LiveTimetable.Yaml.Cursor
import LiveTimetable.Yaml.Decode
import LiveTimetable.Yaml.Node
import LiveTimetable.Yaml.ScalarText
import LiveTimetable.Yaml.Token
import LiveTimetable.Proofs.Outcome
import LiveTimetable.Proofs.Update.Journey
import LiveTimetable.Proofs.Update.Report
import LiveTimetable.Proofs.Store.Run
import LiveTimetable.Proofs.Timetable.Schedule
import LiveTimetable.Proofs.Update.Soundness
import LiveTimetable.Proofs.Store.Published
import LiveTimetable.Proofs.Service.Day
import LiveTimetable.Proofs.Update.Matching
import LiveTimetable.Proofs.Update.Substitution
import LiveTimetable.Proofs.Store.Rows
import LiveTimetable.Proofs.Store.Board
import LiveTimetable.Proofs.Batch.Order
import LiveTimetable.Proofs.Batch.Groups
import LiveTimetable.Proofs.Timetable.Shift
import LiveTimetable.Proofs.Update.LoneCall
import LiveTimetable.Proofs.Update.Carried
import LiveTimetable.Proofs.Update.Clamped
import LiveTimetable.Proofs.Store.Reported
import LiveTimetable.Proofs.Store.Redelivery
import LiveTimetable.Proofs.Store.State
import LiveTimetable.Proofs.Update.ServiceDay
import LiveTimetable.Proofs.Store.Dated
import LiveTimetable.Proofs.Store.News
import LiveTimetable.Proofs.Store.CalledOff
import LiveTimetable.Proofs.Store.Contention
import LiveTimetable.Proofs.Store.Refused
import LiveTimetable.Proofs.Columns.Basic
import LiveTimetable.Proofs.Columns.Matching
import LiveTimetable.Proofs.Columns.Revision
import LiveTimetable.Proofs.Columns.Journey
import LiveTimetable.Proofs.Columns.Report
import LiveTimetable.Proofs.Columns.Board
import LiveTimetable.Proofs.Columns.Store
import LiveTimetable.Proofs.Batch.Usual
import LiveTimetable.Proofs.Columns.Batch
import LiveTimetable.Proofs.Columns.Run
import LiveTimetable.Proofs.Store.Flags
import LiveTimetable.Proofs.Batch.Accounting
import LiveTimetable.Proofs.Store.Purge
import LiveTimetable.Proofs.Text.Decimal
import LiveTimetable.Proofs.Calendar.Written
import LiveTimetable.Proofs.Json.Members
import LiveTimetable.Proofs.Json.Line
import LiveTimetable.Proofs.Message.Instants
import LiveTimetable.Proofs.Message.Codec
import LiveTimetable.Proofs.Update.Between
import LiveTimetable.Proofs.Update.Told
import LiveTimetable.Proofs.Update.Exact
import LiveTimetable.Proofs.Batch.Pool
import LiveTimetable.Proofs.Batch.Deliveries
import LiveTimetable.Proofs.Replay.Report
import LiveTimetable.Proofs.Update.Greedy
import LiveTimetable.Proofs.Columns.Greedy
import LiveTimetable.Proofs.Update.Revision
import LiveTimetable.Proofs.Update.RunningOrder
import LiveTimetable.Proofs.Update.Inherited
import LiveTimetable.Proofs.Update.Anchored
import LiveTimetable.Proofs.Service.Noon
import LiveTimetable.Proofs.Text.Bytes
import LiveTimetable.Proofs.Store.Ordered
import LiveTimetable.Proofs.Timetable.Additions
import LiveTimetable.Proofs.Timetable.Stations
import LiveTimetable.Proofs.Timetable.Disorder
import LiveTimetable.Proofs.Timetable.Building
import LiveTimetable.Proofs.Text.Numeral
import LiveTimetable.Proofs.Service.Clock
import LiveTimetable.Proofs.Batch.Grouped
import LiveTimetable.Proofs.Timetable.Checks
import LiveTimetable.Proofs.Update.Gist
import LiveTimetable.Proofs.Store.Offsets
import LiveTimetable.Proofs.Json.Changed
import LiveTimetable.Proofs.Message.UnknownCodes
