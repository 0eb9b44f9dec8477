import Xlsx.Style.Types
import Xlsx.Style.Intern
import Xlsx.Style.NumFmt
import Xlsx.Style.Resolve
import Xlsx.Style.Run
import Xlsx.Style.Tables
import Xlsx.Style.NumFmtRun
import Xlsx.Style.GetStyle
import Xlsx.Style.Marshal
import Xlsx.Style.MarshalBytes
import Xlsx.Style.Cache
import Xlsx.Redis.Codec
import Xlsx.Redis.Server
import Xlsx.Redis.Row
import Xlsx.Redis.Store
import Xlsx.Redis.Keyspace
import Xlsx.Redis.Records
import Xlsx.Redis.HotCell
import Xlsx.Redis.Move
