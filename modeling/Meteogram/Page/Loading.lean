import Meteogram.Page.Options
import Meteogram.Page.Variables

/-!
# Loading the data of a page

The script of a page declares an array for each variable and each equation. For
each data file it has a function that loads the file and fills the arrays of its
fields.
-/

set_option autoImplicit false

namespace Meteogram.Page

/-- The function that loads a data file: its name up to the first point names
it. -/
def loaderName (datafile : String) : String :=
  String.ofList (datafile.toList.takeWhile fun c => c != '.') ++ "Ajax"

/-- The data files of the variables, each once. -/
def datafilesOf (loaded : List Variable) : List String :=
  loaded.foldl (fun sofar item =>
    if item.datafile = "" || sofar.contains item.datafile then sofar
    else sofar ++ [item.datafile]) []

/-! ## Declarations and start -/

/-- The line that declares an array. -/
def declarationLine (name : String) : String :=
  "var " ++ name ++ " = [];"

/-- The lines that declare all arrays. -/
def declarationLines (loaded : List Variable) (equations : List String) : List String :=
  (["WindBarbData", "sumResult"] ++ loaded.map Variable.name ++ equations).map
    declarationLine ++ [""]

/-- The lines that start a page: they load all data and show the first
chart. -/
def startLines (firstChart : String) (panels datafiles : List String) (windBarbs : Bool)
    (number : String) : List String :=
  ["var chart, config, freezing;",
    "$( function()\x7b  InitCumulusCharts = InitCumulusCharts" ++ number ++ ";InitCumulusCharts();" ++
      "     if ( urlParams.get( 'dropdown' ) != '' ) document.getElementById('graph" ++ number ++
      "').value = urlParams.get( 'dropdown' ); ",
    "     else document.getElementById('graph" ++ number ++ "').value = '" ++ firstChart ++ "';",
    " \x7d );",
    "function InitCumulusCharts" ++ number ++ "() \x7b  ChartsType = 'compiler';" ++
      "    ClickEventChart = [" ++
      String.intercalate "," (panels.map fun panel => "'" ++ panel ++ "'") ++ "];",
    "  $.when( Promise.all([GraphconfigAjax()"] ++
  datafiles.map (fun datafile => ", " ++ loaderName datafile ++ "()") ++
  (if windBarbs then [", WindBarbsAjax()"] else []) ++
  ["])).then( () => $( '#graph" ++ number ++ "' ).trigger( 'change' ) ); ",
    "     console.log('Cumuluscharts" ++ number ++ " Compiler version has been initialised');",
    "  \x7d"]

/-- The line that defines the conversion of wind speeds to metres per
second. -/
def windFactorLine (factor : String) : String :=
  "function convertToMs(data) \x7b" ++
  "  data.map( " ++
  "  s => \x7bs[ 1 ] = s[ 1 ] * " ++ factor ++ " \x7d );" ++
  "  return" ++
  "\x7d"

/-- The lines that define the names of wind directions and the loading of the
station's own settings. -/
def stationLines (location : String) : List String := [
  "var compassP = function (deg) \x7b",
  "  var a = ['N', 'NE', 'E', 'SE', 'S', 'SW', 'W', 'NW'];",
  "  return a[Math.floor((deg + 22.5) / 45) % 8];",
  "\x7d;",
  "function GraphconfigAjax()\x7b",
  "  console.log( 'Highcharts version : ' + Highcharts.version );",
  "  return $.ajax(\x7b",
  "    url: '" ++ location ++ "graphconfig.json', cache: true, datatype: 'json'\x7d)",
  "    .done( function(resp) \x7b" ++
    "      config = resp;" ++
    "      freezing = config.temp.units === 'C' ? 0 : 32;" ++
    "      console.log('Succes in Ajax Graphconfig');" ++
    "\x7d)",
  "    .fail(function ( xhr, textStatus, errorThrown) \x7b" ++
    "      console.log('graphconfig.json ' + textStatus + ' : ' + errorThrown);" ++
    "\x7d);",
  "\x7d"]

/-! ## Data files -/

/-- What the names of the data files of this program start with. -/
def ownStarts : List String := ["CUserdata", "extrasensors", "customlogs"]

/-- Where a data file is loaded from. -/
def datafileLocation (options : Options) (datafile : String) : Except Fault String := do
  let location :=
    if ownStarts.any (Text.startsWith datafile) then options.ownLocation
    else options.dataLocation
  return (← location.toText) ++ datafile

/-- The lines that fill the array of a variable. -/
def fillLines (item : Variable) : List String := [
  "      for (var i = 0; i < resp." ++ item.field ++ ".length; i++)",
  "        " ++ item.name ++ ".push([resp." ++ item.field ++ "[i][0], resp." ++ item.field ++
    "[i][1] ]);"]

/-- The lines of the function that loads a data file. -/
def loaderLines (options : Options) (loaded : List Variable) (datafile : String) :
    Except Fault (List String) := do
  let own := loaded.filter fun item => item.datafile == datafile
  let location ← datafileLocation options datafile
  return ["function " ++ loaderName datafile ++ "()\x7b"] ++
  own.map (fun item => "  " ++ item.name ++ ".length = 0;") ++
  ["  return $.ajax(\x7b",
    "    url: '" ++ location ++ "',",
    "    cache: false, datatype: 'json'",
    "    \x7d)",
    "    .fail( function (xhr, textStatus, errorThrown) \x7b console.log( '" ++ datafile ++
      " ' + textStatus + ' : ' + errorThrown ); \x7d)",
    "    .done( function(resp) \x7b"] ++
  own.flatMap fillLines ++
  ["    \x7d)",
    "  \x7d"]

/-- The lines of the function that loads the data of the wind barbs. -/
def windBarbLoaderLines (location : String) : List String := [
  "function WindBarbsAjax() \x7b",
  "  WindBarbData.length = 0;",
  "  return $.when( ",
  "  $.ajax(\x7b",
  "    url: '" ++ location ++ "winddata.json',",
  "    cache: false,",
  "    datatype: 'json' \x7d), ",
  "  $.ajax(\x7b",
  "    url: '" ++ location ++ "wdirdata.json',",
  "    cache: false,",
  "    datatype: 'json' \x7d)",
  "  ).then( ",
  "    function( resp1, resp2 ) \x7b " ++
    "  for ( var i = 0; i < resp1[0].wspeed.length; i++ ) " ++
    "    WindBarbData.push([ resp1[0].wspeed[ i ][ 0 ], resp1[0].wspeed[ i ][ 1 ], resp2[0].avgbearing[ i ][ 1 ] ]); " ++
    "  convertToMs( WindBarbData );" ++
    "\x7d,",
  "    function()\x7b console.log( 'FAIL reading WindBarb Data...' )\x7d",
  "  );",
  "\x7d"]

/-- The lines of all functions that load data. -/
def loadersLines (options : Options) (loaded : List Variable) (windBarbs : Bool) :
    Except Fault (List String) := do
  let loaders ← (datafilesOf loaded).mapM (loaderLines options loaded)
  let barbs ←
    if windBarbs then
      pure (windBarbLoaderLines (← options.dataLocation.shown))
    else pure []
  return loaders.flatten ++ barbs

end Meteogram.Page
