import StoringDevices.Interleaving
import StoringDevices.Lib.Lists
import StoringDevices.Lib.Numbers
import StoringDevices.Lib.Transducer
import StoringDevices.Rewriting
import StoringDevices.Rotation
import StoringDevices.SessionMap
import StoringDevices.Attribution
import StoringDevices.Growth
import StoringDevices.Residue
import StoringDevices.Paths
import StoringDevices.Standing
import StoringDevices.Status
import StoringDevices.History
import StoringDevices.Handover
import StoringDevices.Descriptors
import StoringDevices.Ids
import StoringDevices.PathSessions
import StoringDevices.DatePattern
import StoringDevices.Timestamps
import StoringDevices.Html
import StoringDevices.Tables
import StoringDevices.TimeRows
import StoringDevices.Lib.Markup
import StoringDevices.ReadBack
import StoringDevices.Definedness
import StoringDevices.UnsetIds
import StoringDevices.EmptyRecords
import StoringDevices.Flush
import StoringDevices.FlushIterators
import StoringDevices.ReaderIterators
import StoringDevices.DiskProbe
import StoringDevices.DiskSize
import StoringDevices.Identify
import StoringDevices.ByteCount
import StoringDevices.DiskNames
import StoringDevices.Lib.Handles
import StoringDevices.HardDisk
import StoringDevices.Origins
import StoringDevices.Lib.Nesting
import StoringDevices.WellNested
import StoringDevices.Program
import StoringDevices.TerminalReadBack
import StoringDevices.TinyDisks
import StoringDevices.Bounds
import StoringDevices.Dependence
import StoringDevices.Ticking
import StoringDevices.Chronology
import StoringDevices.SessionsShown
import StoringDevices.SafeRuns
import StoringDevices.TrueTimes
