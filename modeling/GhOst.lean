import GhOst.Go.Strconv
import GhOst.Go.Strings
import GhOst.Mysql.BinlogFile
import GhOst.Mysql.InstanceKey
import GhOst.Mysql.MasterDiscovery
import GhOst.Base.Context
import GhOst.Lib.Maps
import GhOst.Base.LoadMap
import GhOst.Lib.Lists
import GhOst.Lib.Bytes
import GhOst.Lib.Regex
import GhOst.Lib.Template
import GhOst.Driver.Interpolate
import GhOst.Mysql.Lexical
import GhOst.Sql.Types
import GhOst.Sql.IntegerArgs
import GhOst.Sql.Builder
import GhOst.Sql.Condition
import GhOst.Sql.Dml
import GhOst.Sql.Placeholders
import GhOst.Logic.Applier
import GhOst.Logic.Naming
import GhOst.Lib.Blocks
import GhOst.Logic.Chunks
import GhOst.Logic.Replay
import GhOst.Logic.Convergence
import GhOst.Logic.Checkpoint
import GhOst.Lib.Machine
import GhOst.Logic.CutOver
import GhOst.Logic.SessionTimeZone
import GhOst.Logic.Streamer
import GhOst.Logic.Revert
import GhOst.Logic.CutOverSafety
import GhOst.Logic.Migration
import GhOst.Logic.Throttler
import GhOst.Logic.Server
import GhOst.Logic.ApplyLoop
import GhOst.Logic.RowsDelta
import GhOst.Mysql.Schema
import GhOst.Logic.CheckpointTable
import GhOst.Sql.Parser
import GhOst.Sql.ExplicitTable
import GhOst.Logic.Inspect
import GhOst.Logic.Resume
import GhOst.Logic.TwoStepCutOver
import GhOst.Sql.AlterClauses
import GhOst.Logic.AlterValidation
import GhOst.Logic.Throttling
