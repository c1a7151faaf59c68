import Meteogram.Station.Settings

/-!
# Options of the pages

The settings of the site that shape its pages. A section in the place of a
location can stand on a page, but no data file can be loaded from it.
-/

set_option autoImplicit false

namespace Meteogram.Page

/-- The settings that shape the pages of a site. -/
structure Options where
  /-- Where the data files of the station are. -/
  dataLocation : Ini.Value
  /-- Where the data files of this program are. -/
  ownLocation : Ini.Value
  /-- A page loads the chart library itself. -/
  loadsCharts : Bool
  /-- A page loads the library for queries itself. -/
  loadsQueries : Bool
  /-- The charts use the faster way of drawing. -/
  boost : Bool
  /-- Lines go on over missing values. -/
  connectNulls : Bool
  /-- The least height of a chart. -/
  height : Option Int

/-- Reads the options. -/
def Options.read (settings : Station.Settings) : Except Fault Options := do
  let dataLocation ← settings.site.get "Website" "CumulusRealTimeLocation" (.text "")
  let ownLocation ← settings.site.get "Compiler" "ModulePath" (.text "")
  let loadsCharts ← settings.flag "Compiler" "DoLibraryIncludes" false
  let loadsQueries ← settings.flag "Compiler" "DojQueryInclude" false
  let boost ← settings.flag "Graphs" "UseHighchartsBoostModule" true
  let connectNulls ← settings.flag "General" "ConnectNulls" false
  let height ← (← settings.site.get "General" "ChartContainerHeight" (.whole 650)).toWhole
  return { dataLocation, ownLocation, loadsCharts, loadsQueries, boost, connectNulls, height }

end Meteogram.Page
