import AutoMlos.HwTimer
import AutoMlos.HwTimer.Counter
import AutoMlos.HwWatchdog
import AutoMlos.Interrupt
import AutoMlos.Interrupt.Analysis
import AutoMlos.Interrupt.Counting
import AutoMlos.Interrupt.Lines
import AutoMlos.Interrupt.Registration
import AutoMlos.Interrupt.WorstCase
import AutoMlos.IpcBatch
import AutoMlos.IpcBatch.Container
import AutoMlos.IpcBatch.Sending
import AutoMlos.IpcPriority
import AutoMlos.IpcPriority.Invariant
import AutoMlos.IpcPriority.Isolation
import AutoMlos.IpcPriority.Overload
import AutoMlos.IpcPubsub
import AutoMlos.IpcPubsub.Delivery
import AutoMlos.IpcPubsub.Init
import AutoMlos.IpcPubsub.Routing
import AutoMlos.IpcPubsub.Usable
import AutoMlos.IpcTopics
import AutoMlos.IpcTopics.Building
import AutoMlos.IpcTopics.Grammar
import AutoMlos.Kernel
import AutoMlos.Kernel.CoreServices
import AutoMlos.Kernel.MainLoop
import AutoMlos.Kernel.Startup
import AutoMlos.KernelIpc
import AutoMlos.KernelIpc.Budget
import AutoMlos.KernelIpc.Descriptor
import AutoMlos.KernelIpc.Publish
import AutoMlos.KernelIpc.Routing
import AutoMlos.KernelIpc.SharedBuffer
import AutoMlos.KernelSyscalls
import AutoMlos.KernelTime
import AutoMlos.KernelTime.Blame
import AutoMlos.KernelTime.Delays
import AutoMlos.KernelTime.Failover
import AutoMlos.KernelTime.Logging
import AutoMlos.KernelTime.Termination
import AutoMlos.KernelTime.Uptime
import AutoMlos.KernelTime.Usable
import AutoMlos.KernelTime.Validation
import AutoMlos.KernelWatchdog
import AutoMlos.KernelWatchdog.Timeouts
import AutoMlos.Lib.Accounts
import AutoMlos.Lib.Batching
import AutoMlos.Lib.Buckets
import AutoMlos.Lib.Bytes
import AutoMlos.Lib.CString
import AutoMlos.Lib.CharArray
import AutoMlos.Lib.Fields
import AutoMlos.Lib.FileSystem
import AutoMlos.Lib.FirstFit
import AutoMlos.Lib.Layout
import AutoMlos.Lib.Memory
import AutoMlos.Lib.Outcome
import AutoMlos.Lib.Printf
import AutoMlos.Lib.PrintfArgs
import AutoMlos.Lib.RateMonotonic
import AutoMlos.Lib.ReadyQueue
import AutoMlos.Lib.Records
import AutoMlos.Lib.RingBuffer
import AutoMlos.Lib.Run
import AutoMlos.Lib.Scanf
import AutoMlos.Lib.TextFile
import AutoMlos.Lib.Track
import AutoMlos.LogClient
import AutoMlos.LogClient.Accounting
import AutoMlos.LogClient.EarlyLog
import AutoMlos.LogCommon
import AutoMlos.LogCore
import AutoMlos.LogCore.Availability
import AutoMlos.LogCore.Config
import AutoMlos.LogCore.Corruption
import AutoMlos.LogCore.Fifo
import AutoMlos.LogCore.Guards
import AutoMlos.LogCore.Ring
import AutoMlos.LogCore.TimeOrder
import AutoMlos.LogParser
import AutoMlos.LogParser.CommandLine
import AutoMlos.LogParser.Composition
import AutoMlos.LogParser.Conversion
import AutoMlos.LogParser.Databases
import AutoMlos.LogParser.Dump
import AutoMlos.LogParser.Extended
import AutoMlos.LogParser.Filters
import AutoMlos.LogParser.Loading
import AutoMlos.LogParser.Main
import AutoMlos.LogParser.Options
import AutoMlos.LogParser.Rendering
import AutoMlos.LogParser.RoundTrip
import AutoMlos.LogParser.Statistics
import AutoMlos.LoggerService
import AutoMlos.LoggerService.Accounting
import AutoMlos.LoggerService.Contents
import AutoMlos.LoggerService.Parsable
import AutoMlos.LoggerService.Pipeline
import AutoMlos.LoggerService.Validators
import AutoMlos.Memory
import AutoMlos.Memory.Bookkeeping
import AutoMlos.Memory.Counters
import AutoMlos.Memory.Disjoint
import AutoMlos.Memory.FirstFit
import AutoMlos.Scheduler
import AutoMlos.Scheduler.Admission
import AutoMlos.Scheduler.Consistency
import AutoMlos.Scheduler.Creation
import AutoMlos.Scheduler.Deadlines
import AutoMlos.Scheduler.Dispatching
import AutoMlos.Scheduler.Feasibility
import AutoMlos.Scheduler.Independence
import AutoMlos.Scheduler.Iteration
import AutoMlos.Scheduler.Load
import AutoMlos.Scheduler.Power
import AutoMlos.Scheduler.Priority
import AutoMlos.Scheduler.Table
import AutoMlos.Scheduler.TimeAccounting
import AutoMlos.Scheduler.Utilization
import AutoMlos.Syscalls
import AutoMlos.SystemErrors
import AutoMlos.SystemMonitor
import AutoMlos.SystemMonitor.Degradation
import AutoMlos.SystemMonitor.FalseAlarm
import AutoMlos.SystemMonitor.Image
import AutoMlos.SystemMonitor.MemoryTest
import AutoMlos.SystemMonitor.MissedWatchdog
import AutoMlos.SystemMonitor.Reporting
import AutoMlos.SystemMonitor.TimeBase
import AutoMlos.SystemMonitor.Watchdogs
