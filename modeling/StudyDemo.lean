import StudyDemo.EasyLink.AddressDelivery
import StudyDemo.EasyLink.AddressReception
import StudyDemo.EasyLink.Delivery
import StudyDemo.EasyLink.DeliverySafety
import StudyDemo.EasyLink.FrameTables
import StudyDemo.EasyLink.Frozen
import StudyDemo.EasyLink.LengthChecks
import StudyDemo.EasyLink.Notifications
import StudyDemo.EasyLink.Progress
import StudyDemo.EasyLink.Receiver
import StudyDemo.EasyLink.Reception
import StudyDemo.EasyLink.Record
import StudyDemo.EasyLink.Round
import StudyDemo.EasyLink.Sender
import StudyDemo.Foundation.CMemory
import StudyDemo.Foundation.Distinct
import StudyDemo.Foundation.Execution
import StudyDemo.Foundation.Gaps
import StudyDemo.Foundation.Joins
import StudyDemo.Foundation.PrefixCodes
import StudyDemo.Foundation.Probing
import StudyDemo.Foundation.Reading
import StudyDemo.Foundation.Rings
import StudyDemo.Foundation.Stuffing
import StudyDemo.Json.CStrings
import StudyDemo.Json.Framing
import StudyDemo.Json.Lexemes
import StudyDemo.Json.Objects
import StudyDemo.Json.Progress
import StudyDemo.Json.RoundTrip
import StudyDemo.Json.Shapes
import StudyDemo.Json.Tokener
import StudyDemo.Lists.Memory
import StudyDemo.Lists.Runs
import StudyDemo.Lists.Traversal
import StudyDemo.NetLink.CallingHome
import StudyDemo.NetLink.DisplayBuffer
import StudyDemo.NetLink.FixedFields
import StudyDemo.NetLink.InformationElements
import StudyDemo.NetLink.Joining
import StudyDemo.NetLink.Message
import StudyDemo.NetLink.SecurityElements
import StudyDemo.NetLink.SecurityScan
import StudyDemo.NetLink.SiteSurvey
import StudyDemo.NetLink.WalkBounds
import StudyDemo.SelectServer.Consistency
import StudyDemo.SerialLink.Acceptance
import StudyDemo.SerialLink.Bounds
import StudyDemo.SerialLink.Chunks
import StudyDemo.SerialLink.CommandTool
import StudyDemo.SerialLink.Corruption
import StudyDemo.SerialLink.Parsing
import StudyDemo.SerialLink.Reader
import StudyDemo.SerialLink.RoundTrip
import StudyDemo.SerialLink.Termination
import StudyDemo.SerialLink.Writer
import StudyDemo.SocketComm.ClientRecords
import StudyDemo.SocketComm.Counter
import StudyDemo.SocketComm.Departures
import StudyDemo.SocketComm.Draining
import StudyDemo.SocketComm.JsonMessages
import StudyDemo.SocketComm.Kernel
import StudyDemo.SocketComm.OwnBytes
import StudyDemo.SocketComm.RecordSafety
import StudyDemo.SocketComm.Registry
import StudyDemo.SocketComm.Requests
import StudyDemo.SocketComm.StopRequest
import StudyDemo.SocketComm.Stopping
import StudyDemo.SocketComm.Thread
import StudyDemo.Sql.Engine
import StudyDemo.Sql.Format
import StudyDemo.Sql.Keys
import StudyDemo.Sql.Lengths
import StudyDemo.Sql.Parser
import StudyDemo.Sql.Relation
import StudyDemo.Sqlite.BufferLimits
import StudyDemo.Sqlite.Commands
import StudyDemo.Sqlite.CutShort
import StudyDemo.Sqlite.DeviceKeys
import StudyDemo.Sqlite.DistinctDevices
import StudyDemo.Sqlite.Existence
import StudyDemo.Sqlite.FailedUpdates
import StudyDemo.Sqlite.Links
import StudyDemo.Sqlite.MaskedUpdate
import StudyDemo.Sqlite.OpenStatements
import StudyDemo.Sqlite.Operations
import StudyDemo.Sqlite.ProfileDevices
import StudyDemo.Sqlite.ProfileSwitch
import StudyDemo.Sqlite.ReadBack
import StudyDemo.Sqlite.Records
import StudyDemo.Sqlite.Results
import StudyDemo.Sqlite.RoomIds
import StudyDemo.Sqlite.RoomLists
import StudyDemo.Sqlite.RowIndex
import StudyDemo.Sqlite.SceneDevices
import StudyDemo.Sqlite.Search
import StudyDemo.Sqlite.Tables
import StudyDemo.Sqlite.UnknownProfiles
import StudyDemo.Sqlite.UnusedIds
import StudyDemo.SocketComm.ReadResults
import StudyDemo.Sql.Forms
