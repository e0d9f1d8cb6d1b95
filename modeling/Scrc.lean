import Scrc.Executor.SuiteVerdicts
import Scrc.Docker.Preparation
import Scrc.Executor.SuiteReference
import Scrc.Docker.Client
import Scrc.Docker.ContainerEngine
import Scrc.Docker.Lifecycle
import Scrc.Kafka.Messages
import Scrc.Docker.Sessions
import Scrc.Docker.Outcomes
import Scrc.Executor.Dispatch
import Scrc.Executor.DispatchSafety
import Scrc.Lib.Json
import Scrc.Kafka.Decode
import Scrc.Executor.DispatchProgress
import Scrc.Kafka.Stream
import Scrc.Kafka.Publisher
import Scrc.Kafka.Shutdown
import Scrc.Docker.TimeLimit
import Scrc.Lib.Environment
import Scrc.Docker.Clock
import Scrc.Docker.Deadline
import Scrc.Docker.PullHistory
import Scrc.Kafka.RequestedLimits
import Scrc.Kafka.SubmissionIds
import Scrc.Kafka.Accounting
import Scrc.Kafka.Crash
import Scrc.Simulator.Benchmark
import Scrc.Docker.Isolation
import Scrc.Lib.JsonPrint
import Scrc.Lib.Rfc3339
import Scrc.Kafka.Encode
import Scrc.Docker.EnforcedLimits
import Scrc.Kafka.TestNumbers
import Scrc.Executor.SuiteErrors
import Scrc.Kafka.Durations
import Scrc.Simulator.Collector
import Scrc.Simulator.Producer
import Scrc.Docker.BuildLimits
import Scrc.Docker.Stdin
import Scrc.Docker.Judgement
import Scrc.Docker.SharedDaemon
import Scrc.Executor.Workers
import Scrc.Lib.JsonDumps
import Scrc.Simulator.Wire
import Scrc.Lib.JsonUtf8
import Scrc.Kafka.Echo
import Scrc.Simulator.ResultLog
import Scrc.Simulator.Run
import Scrc.Simulator.Threads
import Scrc.Simulator.Pipeline
import Scrc.Kafka.MemberOrder
import Scrc.Executor.Containers
import Scrc.Cmd.Config
import Scrc.Cmd.Main
import Scrc.Simulator.Load
import Scrc.Simulator.Measurement
import Scrc.Simulator.Runners
