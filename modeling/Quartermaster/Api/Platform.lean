import Quartermaster.Api.Endpoint
import Quartermaster.Api.Settings
import Quartermaster.Text.Decimal

/-!
The platform: the backend of the community and the service that finds routes, as the settings
describe them, on a network.
-/

namespace Quartermaster.Api

def Settings.backend (settings : Settings) : Service :=
  ⟨settings.apiUrl, settings.prodErrorMessages⟩

def Settings.routing (settings : Settings) : Service :=
  ⟨settings.esiUrl, settings.prodErrorMessages⟩

structure Platform where
  settings : Settings
  network : Network

namespace Platform

def ask (platform : Platform) (endpoint : Endpoint α) : Exchange Failure α :=
  endpoint.call platform.settings.backend platform.network

def askRouting (platform : Platform) (endpoint : Endpoint α) : Exchange Failure α :=
  endpoint.call platform.settings.routing platform.network

end Platform

def boolText (b : Bool) : String := if b then "true" else "false"

/-- The named numbers that are positive; the others, and those that are absent, are left out. -/
def positiveQuery (numbers : List (String × Option Int64)) : List (String × String) :=
  numbers.filterMap fun (name, number) =>
    (number.filter (0 < ·)).map fun number => (name, Text.int64 number)

end Quartermaster.Api
