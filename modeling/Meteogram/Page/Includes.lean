import Meteogram.Chart.Basic

/-!
# Fixed parts of a page

The header of the files, and the lines that load the libraries a page needs.
-/

set_option autoImplicit false

namespace Meteogram.Page

/-- The version that generated files name. -/
def version : String := "5.0.0"

/-- The version of the chart library. -/
def chartLibraryVersion : String := "11.2"

/-- The header of a page. -/
def headerLines : List String := [
  "<!--",
  " This file is generated as part of CumulusUtils - ChartsCompiler " ++ version,
  " This header must not be removed and the user must comply to the Creative Commons 4.0 license",
  " The license conditions imply the non-commercial use of HighCharts for which the user is held responsible",
  " See also License conditions of CumulusUtils: https://meteo-wagenborgen.nl/",
  "-->"]

/-- The line that loads the library of the page's dialogs and queries. -/
def queryLibraryLine : String :=
  "<script src=\"https://ajax.googleapis.com/ajax/libs/jquery/3.6.0/jquery.min.js\" type=\"text/javascript\"></script>"

/-- The line that loads what the texts about charts need. -/
def infoLibraryLine : String :=
  "<script src=\"https://cdnjs.cloudflare.com/ajax/libs/jquery-modal/0.9.2/jquery.modal.min.js\"" ++
  "  crossorigin=\"anonymous\" referrerpolicy=\"no-referrer\"></script>" ++
  "<link rel=\"stylesheet\" href=\"https://cdnjs.cloudflare.com/ajax/libs/jquery-modal/0.9.2/jquery.modal.css\"" ++
  " crossorigin=\"anonymous\" referrerpolicy=\"no-referrer\" />"

/-- The lines that load the chart library. -/
def chartLibraryLines (libraryVersion : String) (boost : Bool) : List String :=
  let base := "https://code.highcharts.com/stock/" ++ libraryVersion
  let load (name : String) := "<script src='" ++ base ++ "/" ++ name ++ "'></script>"
  ["highstock.js", "highcharts-more.js", "indicators/indicators.js", "modules/exporting.js",
    "modules/heatmap.js", "modules/windbarb.js"].map load ++
  ["<script defer src='https://code.highcharts.com/" ++ libraryVersion ++
    "/modules/accessibility.js'></script>"] ++
  (if boost then [load "modules/boost.js"] else []) ++
  ["<script src='lib/HighchartsLanguage.js'></script>",
    "<script src='lib/HighchartsDefaults.js'></script>"]

/-- The style of the part of a page that shows the charts. -/
def styleLines : List String := [
  "<style>",
  "#report\x7b",
  "  font-family: arial;",
  "  border-radius: 15px;",
  "  border-spacing: 0;",
  "  border: 1px solid #b0b0b0;",
  "\x7d",
  "</style>"]

end Meteogram.Page
