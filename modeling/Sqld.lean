import Sqld.ListFacts
import Sqld.Program
import Sqld.Batch
import Sqld.Hrana.Session
import Sqld.Hrana.Worker
import Sqld.Hrana.SessionInvariant
import Sqld.Hrana.StreamOrder
import Sqld.Throttle.Machine
import Sqld.Throttle.Permits
import Sqld.Throttle.Deadlock
import Sqld.Hrana.Cursor
import Sqld.Hrana.Fetch
import Sqld.Http.Dump
import Sqld.Config.Json
import Sqld.Config.Store
import Sqld.Config.Extensions
import Sqld.Config.Utf8
import Sqld.Config.Reader
import Sqld.Config.Number
import Sqld.Config.Decode
import Sqld.Config.RoundTrip
import Sqld.Config.Load
import Sqld.Config.Syntax
import Sqld.Config.Skip
import Sqld.Config.Convert
import Sqld.Config.Document
import Sqld.Config.Prefix
import Sqld.Config.Members
import Sqld.Startup.Cli
import Sqld.Startup.Build
import Sqld.BottomlessCli.Run
import Sqld.Http.HandleDump
