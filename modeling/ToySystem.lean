import ToySystem.Machine.Clients
import ToySystem.Drivers.EngineStop
import ToySystem.Drivers.ClickTimers
import ToySystem.Drivers.SimpleIoCommands
import ToySystem.Server.Commands
import ToySystem.Server.TimerPeriod
import ToySystem.Backend.Temperature
import ToySystem.Drivers.SimpleIoModes
import ToySystem.Drivers.SimpleIoExit
import ToySystem.Server.SampleFlow
import ToySystem.Drivers.SensorTimer
import ToySystem.Hal.CameraService
import ToySystem.Server.MotorIndependence
import ToySystem.Data.Ledger
import ToySystem.Drivers.Registration
import ToySystem.Drivers.SensorInit
import ToySystem.Backend.RecvLoop
import ToySystem.Server.SharedSegment
import ToySystem.Ui.Shell
import ToySystem.Drivers.Compensation
import ToySystem.Hal.ThreadExit
import ToySystem.Hal.CameraOpen
import ToySystem.Server.MotorTwins
import ToySystem.Data.Interrupted
import ToySystem.Drivers.IrqWindow
import ToySystem.Drivers.SensorStore
import ToySystem.Drivers.SensorRead
import ToySystem.Drivers.SensorTransfer
import ToySystem.Drivers.SimpleIoWrite
import ToySystem.Ui.SplitLine
import ToySystem.Machine.Raises
import ToySystem.Server.DirectorySize
import ToySystem.Drivers.ClickExit
import ToySystem.Data.Links
import ToySystem.Data.Objects
import ToySystem.Data.Smear
import ToySystem.Heap.AllocatorPool
import ToySystem.Heap.XallocatorAccounts
import ToySystem.Heap.XallocatorTraps
import ToySystem.Web.Storage
import ToySystem.Web.Api
import ToySystem.Web.Dashboard
import ToySystem.Web.Startup
import ToySystem.Web.Steering
import ToySystem.Data.Rings
import ToySystem.Data.Code
import ToySystem.Hal.ListComm
import ToySystem.Hal.ListShapes
import ToySystem.Hal.ListRanges
import ToySystem.Hal.ListUsers
import ToySystem.Hal.ListClients
import ToySystem.Hal.ListRefinement
import ToySystem.Hal.MessageList
