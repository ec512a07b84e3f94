import Floorplan.Main
import Floorplan.Screen.Dashboard
import Floorplan.Proofs.Intent.Frame
import Floorplan.Proofs.Intent.ClauseOrder
import Floorplan.Proofs.Intent.LetterCase
import Floorplan.Proofs.Intent.Removal
import Floorplan.Proofs.Reply.Truthful
import Floorplan.Proofs.Session.History
import Floorplan.Proofs.Session.Transcript
import Floorplan.Proofs.Session.Mirror
import Floorplan.Proofs.Session.Alike
import Floorplan.Proofs.Session.Names
import Floorplan.Proofs.Session.Timeless
import Floorplan.Proofs.Session.Switching
import Floorplan.Proofs.Session.Floors
import Floorplan.Proofs.Session.Places
import Floorplan.Proofs.App.Selection
import Floorplan.Proofs.App.Waiting
import Floorplan.Proofs.App.Names
import Floorplan.Proofs.Intent.RemovalRequest
import Floorplan.Proofs.Intent.FloorAddition
import Floorplan.Proofs.Intent.Creation
import Floorplan.Proofs.Intent.Wordings
import Floorplan.Proofs.Intent.BulkRename
import Floorplan.Proofs.Intent.Guard
import Floorplan.Proofs.Intent.CombinedAddition
import Floorplan.Proofs.Building.Address
import Floorplan.Proofs.Intent.CleanNames
import Floorplan.Proofs.Session.Attachment
import Floorplan.Proofs.App.LayoutKey
import Floorplan.Proofs.Intent.Counter
import Floorplan.Proofs.App.Upload
import Floorplan.Proofs.Export.Csv
import Floorplan.Proofs.Screen.Newest
