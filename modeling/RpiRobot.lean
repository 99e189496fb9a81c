import RpiRobot.ListPages
import RpiRobot.DeleteAgreement
import RpiRobot.ListResults
import RpiRobot.Paging
import RpiRobot.TextQueries
import RpiRobot.TelemetryIngest
import RpiRobot.RestController
import RpiRobot.LiteralIntegrity
import RpiRobot.WorkerRuns
import RpiRobot.PrometheusService
import RpiRobot.JsonRpcHandler
import RpiRobot.QueryPages
import RpiRobot.PageStates
import RpiRobot.RefDevices
import RpiRobot.Listability
import RpiRobot.RestProtocol
import RpiRobot.SoftPwm
import RpiRobot.ThemeClasses
import RpiRobot.Utf8Bytes
import RpiRobot.JsonRpcAnswers
import RpiRobot.AcceptorShutdown
import RpiRobot.KeptAlive
import RpiRobot.RequestStatus
import RpiRobot.TransactionThreads
import RpiRobot.TelemetryGauges
import RpiRobot.LostUpdates
import RpiRobot.I2CDriver
import RpiRobot.RouterTargets
import RpiRobot.StaticFiles
import RpiRobot.PageParameters
import RpiRobot.ColumnTrees
import RpiRobot.LikePrefixes
import RpiRobot.BuilderResets
import RpiRobot.DomainRoundTrips
import RpiRobot.BinaryRounding
import RpiRobot.MonitorEvents
import RpiRobot.MenuSearch
import RpiRobot.Srf05Sensor
import RpiRobot.BrokenConnections
import RpiRobot.ShownDevices
import RpiRobot.TableHistories
import RpiRobot.ServiceRuns
import RpiRobot.TelemetryInterleavings
import RpiRobot.RegistryRequests
import RpiRobot.RegistryStore
import RpiRobot.EditForms
import RpiRobot.DCMotor
import RpiRobot.I2CServoMotor
import RpiRobot.SmcKeys
import RpiRobot.TemperatureSensor
import RpiRobot.MonitorPipeline
import RpiRobot.Sessions
import RpiRobot.LayoutClasses
import RpiRobot.MenuItems
