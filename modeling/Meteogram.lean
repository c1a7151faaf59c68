import Meteogram.Main
import Meteogram.Proofs.Definition.Refusals
import Meteogram.Proofs.Page.LoadedVariables
import Meteogram.Proofs.Page.ChartAxes
import Meteogram.Proofs.Page.ResultArrays
import Meteogram.Proofs.Data.IncrementalRuns
import Meteogram.Proofs.Data.WrittenSeries
import Meteogram.Proofs.Data.DailySeries
import Meteogram.Proofs.Data.LogFaults
import Meteogram.Proofs.Page.Links
import Meteogram.Proofs.Command.Saving
import Meteogram.Proofs.Command.Pages
import Meteogram.Proofs.Equation.Turns
import Meteogram.Proofs.Definition.AttributeOrder
import Meteogram.Proofs.Log.ReportedLines
import Meteogram.Proofs.Station.AlignedWindows
import Meteogram.Proofs.Log.CoveredMonths
import Meteogram.Proofs.Data.PointTimes
import Meteogram.Proofs.Page.SoilMoistureUnits
import Meteogram.Proofs.Equation.Indexing
import Meteogram.Proofs.Definition.FreeLayout
import Meteogram.Proofs.Equation.Splitting
