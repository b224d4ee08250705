import HouseStyle.Main
import HouseStyle.Pattern.Occurrence
import HouseStyle.Proofs.Command.Ending
import HouseStyle.Proofs.Command.Written
import HouseStyle.Proofs.Method.Opening
import HouseStyle.Proofs.Method.Walk
import HouseStyle.Proofs.Report.Colours
import HouseStyle.Proofs.Report.Counts
import HouseStyle.Proofs.Report.Layout
import HouseStyle.Proofs.Report.Lossless
import HouseStyle.Proofs.Rule.MagicNumber
import HouseStyle.Proofs.Scan.ClosedForm
import HouseStyle.Proofs.Scan.Cutting
import HouseStyle.Proofs.Scan.DefaultMarkers
import HouseStyle.Proofs.Scan.Faithfulness
import HouseStyle.Proofs.Scan.Lines
import HouseStyle.Proofs.Scan.Relaxing
import HouseStyle.Proofs.Settings.Discovery
import HouseStyle.Proofs.Settings.Usable
