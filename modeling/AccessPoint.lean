import AccessPoint.Core.SimpleTimer
import AccessPoint.Lib.Calendar
import AccessPoint.Lib.Delimited
import AccessPoint.Lib.DoWhile
import AccessPoint.Lib.Family
import AccessPoint.Lib.IoService
import AccessPoint.Lib.Istream
import AccessPoint.Lib.Json
import AccessPoint.Lib.Lines
import AccessPoint.Lib.Mailbox
import AccessPoint.Lib.Managed
import AccessPoint.Lib.Notice
import AccessPoint.Lib.Opening
import AccessPoint.Lib.Run
import AccessPoint.Lib.Stoi
import AccessPoint.Lib.Throwing
import AccessPoint.Lib.Wrap
import AccessPoint.Menu.Client
import AccessPoint.Menu.ClientApp
import AccessPoint.Menu.ClientLines
import AccessPoint.Menu.ClientMenu
import AccessPoint.Menu.ClientScript
import AccessPoint.Menu.ClientText
import AccessPoint.Menu.Console
import AccessPoint.Menu.Harmless
import AccessPoint.Menu.Server
import AccessPoint.Menu.ServerLines
import AccessPoint.Menu.Sheet
import AccessPoint.Meter.Clock
import AccessPoint.Meter.ControlMode
import AccessPoint.Meter.Cosem
import AccessPoint.Meter.Data
import AccessPoint.Meter.Disconnect
import AccessPoint.Meter.ImageTransfer
import AccessPoint.Meter.Initiate
import AccessPoint.Request.Config
import AccessPoint.Request.Delivery
import AccessPoint.Request.Grammar
import AccessPoint.Request.MultiRead
import AccessPoint.Request.Part
import AccessPoint.Request.Round
import AccessPoint.Script.Alone
import AccessPoint.Script.Confirmation
import AccessPoint.Script.Direct
import AccessPoint.Script.Independence
import AccessPoint.Script.Leftover
import AccessPoint.Script.OpenLoop
import AccessPoint.Script.Report
import AccessPoint.Script.RunScript
import AccessPoint.Script.Stage
import AccessPoint.Server.Ownership
import AccessPoint.Server.Registration
import AccessPoint.Socket.AppendResult
import AccessPoint.Socket.CloseNotice
import AccessPoint.Socket.Connect
import AccessPoint.Socket.Connected
import AccessPoint.Socket.Endpoints
import AccessPoint.Socket.FailedOpen
import AccessPoint.Socket.Read
import AccessPoint.Socket.Release
import AccessPoint.Socket.Serial
import AccessPoint.Socket.SerialStream
import AccessPoint.Socket.Tcp
import AccessPoint.Socket.Write
import AccessPoint.System.Answers
import AccessPoint.System.Fleet
import AccessPoint.Websocket.HESConfig
import AccessPoint.Websocket.HesRound
import AccessPoint.Websocket.Listener
import AccessPoint.Websocket.Session
import AccessPoint.Websocket.TaskRunner
