import CardLogon.GuardedRun
import CardLogon.CText
import CardLogon.Framing
import CardLogon.ComAsy
import CardLogon.HttpConnect
import CardLogon.SqlLex
import CardLogon.MySqlConn
import CardLogon.FormUrl
import CardLogon.LoginForm
import CardLogon.ByteImage
import CardLogon.Helpers
import CardLogon.Terminal
import CardLogon.CardRows
import CardLogon.Reconnect
import CardLogon.Handover
import CardLogon.PasswordStore
import CardLogon.Credential
import CardLogon.SerialPort
import CardLogon.StateOption
import CardLogon.Provider
import CardLogon.Serialization
import CardLogon.Ownership
import CardLogon.Dll
import CardLogon.PrintUser
import CardLogon.FieldStrings
import CardLogon.SerializationHistory
import CardLogon.ReceiveLoop
import CardLogon.ComWrite
import CardLogon.MachineLine
import CardLogon.CFormat
import CardLogon.LoginRecords
import CardLogon.LoginClick
import CardLogon.SqlExec
import CardLogon.PrintHistory
import CardLogon.HttpMessage
import CardLogon.PostRequest
import CardLogon.AuditSettings
import CardLogon.PingOutput
import CardLogon.SettingConf
import CardLogon.CarTable
import CardLogon.Simulation
import CardLogon.WindowThread
import CardLogon.AuditTrail
import CardLogon.DeafTerminal
import CardLogon.ComHandles
import CardLogon.TileMemory
import CardLogon.Enumeration
import CardLogon.GetRequest
import CardLogon.ServerResources
import CardLogon.TileEvents
import CardLogon.BoundedTurns
import CardLogon.LoggedOn
import CardLogon.SharedTable
