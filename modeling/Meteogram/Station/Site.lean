import Meteogram.Chart.Keyword
import Meteogram.Station.Settings

/-!
# Sites

What the readers and writers of charts need to know of a site: its settings, and
the tables of its keywords.
-/

set_option autoImplicit false

namespace Meteogram

/-- A site. -/
structure Site where
  settings : Station.Settings
  tables : Tables

namespace Site

/-- The names of the sensors that only the settings know of. -/
def externalSensors (settings : Station.Settings) : Except Fault (List String) := do
  match ← settings.site.get "ExtraSensors" "ExternalExtraSensors" (.text "") with
  | .text names => return Text.splitFields ',' names
  | _ => .error .sectionForText

/-- The site with these settings. -/
def build (settings : Station.Settings) : Except Fault Site := do
  return ⟨settings, .build settings.units (← externalSensors settings)⟩

end Site

end Meteogram
