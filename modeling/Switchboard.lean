import Switchboard.Call.ResultDocument
import Switchboard.CommandLine
import Switchboard.Desk
import Switchboard.Folder
import Switchboard.Lobby
import Switchboard.Logging.Session
import Switchboard.Main
import Switchboard.Provider.Watch
import Switchboard.Settings.Document
import Switchboard.Web
import Switchboard.Proofs.Queue.AdmissionLog
import Switchboard.Proofs.Queue.Push
import Switchboard.Proofs.Exchange.Departures
import Switchboard.Proofs.Exchange.Journal
import Switchboard.Proofs.Exchange.Rejection
import Switchboard.Proofs.Floor.Calls
import Switchboard.Proofs.Floor.Deeds
import Switchboard.Proofs.Floor.Moves
import Switchboard.Proofs.Floor.Working
import Switchboard.Proofs.Floor.Arrivals
import Switchboard.Proofs.Floor.Accounts
import Switchboard.Proofs.Floor.Wiring
import Switchboard.Proofs.Floor.Stories
import Switchboard.Proofs.Floor.Resolution
import Switchboard.Proofs.Floor.Records
import Switchboard.Proofs.Floor.Agreement
import Switchboard.Proofs.Floor.Lines
import Switchboard.Proofs.Floor.Places
import Switchboard.Proofs.Floor.Terms
import Switchboard.Proofs.Queue.Refinement
import Switchboard.Proofs.Queue.Reception
import Switchboard.Proofs.Floor.Leading
import Switchboard.Proofs.Center.Succession
import Switchboard.Proofs.Center.Bureau
import Switchboard.Proofs.Center.Updates
import Switchboard.Proofs.Exchange.Clocks
import Switchboard.Proofs.Center.Handovers
import Switchboard.Proofs.Center.SideBySide
import Switchboard.Proofs.Floor.Turns
import Switchboard.Proofs.Floor.Waiting
import Switchboard.Proofs.Floor.Shifts
import Switchboard.Proofs.Floor.Staffing
import Switchboard.Proofs.Floor.Attendance
import Switchboard.Proofs.Floor.Identifiers
import Switchboard.Proofs.Center.Identifiers
import Switchboard.Proofs.Center.Marks
import Switchboard.Proofs.Center.Requests
import Switchboard.Proofs.Settings.Normal
import Switchboard.Proofs.Provider.Readings
import Switchboard.Proofs.Records.File
import Switchboard.Proofs.Center.Numbers
import Switchboard.Proofs.Center.Concord
import Switchboard.Proofs.Provider.Protocol
import Switchboard.Proofs.Call.Documents
import Switchboard.Proofs.Floor.Faults
import Switchboard.Proofs.Task.Deeds
import Switchboard.Proofs.Task.Futures
import Switchboard.Proofs.Task.Writing
import Switchboard.Proofs.Task.Execution
import Switchboard.Proofs.Floor.Particulars
import Switchboard.Proofs.Floor.Refusals
import Switchboard.Proofs.Provider.Vigil
import Switchboard.Proofs.Provider.Desertion
import Switchboard.Proofs.Records.Rounds
import Switchboard.Proofs.Center.Routes
