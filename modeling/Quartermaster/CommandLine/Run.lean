import Quartermaster.Call
import Quartermaster.CommandLine.Command
import Quartermaster.Quantity.Compact
import Quartermaster.Quantity.Shorthand

/-!
Running a command line. A run looks at the environment, at files, at the clock and at the network,
and comes to something to print, to a message, or to neither.
-/

namespace Quartermaster.CommandLine

open Api (Exchange Failure Network Platform Settings)
open Calendar (Instant TimeTextError)
open Quantity (GroupingError)

structure World where
  environment : Variables
  files : List (String × Text.Bytes)
  now : Instant
  network : Network

def World.file? (world : World) (name : String) : Option Text.Bytes := world.files.lookup name

inductive Result
  | printed (document : Json)
  | version
  | help
  /-- The command line cannot be understood. -/
  | misuse
  | failed (message : String)
  /-- The run ended in the middle. -/
  | crashed (message : String)

def versionText : String := "mm-cli 0.1.0"

/-- The file that may hold variables of the environment. -/
def variablesFile : String := ".env"

def Result.exitCode : Result → Nat
  | .printed _ => 0
  | .version => 0
  | .help => 0
  | .failed _ => 1
  | .misuse => 2
  | .crashed _ => 101

/-- Prints the answer of a call, or tells what was being done when it failed. -/
def report (exchange : Exchange Failure (Except GroupingError Json)) : Result :=
  match exchange.outcome with
  | .ok (.ok document) => .printed document
  | .ok (.error error) => .crashed error.message
  | .error failure => .failed failure.label

def fleetReport (locale : Locale) (pattern : String) (fleet : Fleet.Detail) :
    Except TimeTextError Json := do
  let texts ← fleet.trackingTexts locale pattern
  return .ofMembers [("fleet", Fleet.Detail.codec.write fleet),
    ("tracking_texts", Fleet.TrackingTexts.codec.option.write texts)]

def showFleet (platform : Platform) (locale : Locale) (id : FleetId) (token : String) :
    Result :=
  match ((Call.fleet token id locale).run platform).outcome with
  | .error failure => .failed failure.label
  | .ok fleet =>
    match fleetReport locale platform.settings.datetimeFormat fleet with
    | .ok document => .printed document
    | .error error => .crashed error.message

/-- The sun types of a file; no file is no types. -/
def readSunTypes (world : World) (file : Option String) : Except String SunTypes :=
  match file with
  | none => .ok .empty
  | some name =>
    match (world.file? name).bind Text.decodeUtf8? with
    | none => .error ("Failed to read sun types from " ++ name)
    | some content =>
      match SunTypes.parse content with
      | .ok types => .ok types
      | .error _ => .error ("Failed to parse sun types from " ++ name)

def showComposition (world : World) (platform : Platform) (id : FleetId) (token : String)
    (byLocation : Bool) (staging : Option SolarSystemId) : Result :=
  match (platform.ask (Fleet.Endpoints.members token id)).outcome with
  | .error failure => .failed failure.label
  | .ok members =>
    if byLocation then
      match readSunTypes world platform.settings.sunTypesFile with
      | .error message => .failed message
      | .ok types => report ((Call.membersBySystem types members staging).document platform)
    else .printed (Fleet.ShipGroup.codec.list.write (Fleet.shipGroups members))

/-- Has a log analysed; one that is not compressed has to be text. -/
def analyze (world : World) (platform : Platform) (name : String) (zipped : Bool)
    (fitting fleet : Option Int64) : Result :=
  let unread : Result := .failed ("Failed to read " ++ name)
  match world.file? name with
  | none => unread
  | some bytes =>
    if zipped then
      report ((Call.backend (Combat.Endpoints.zippedAnalysis bytes fitting fleet)).document platform)
    else
      match Text.decodeUtf8? bytes with
      | none => unread
      | some log => report ((Call.backend (Combat.Endpoints.analysis log)).document platform)

def runQuery (world : World) (platform : Platform) (locale : Locale) : Query → Result
  | .freightRoutes => report ((Call.freightCalculator locale).document platform)
  | .freightContracts history => report ((Call.freightContracts history).document platform)
  | .routeCost route option collateral =>
    report ((Call.backend (Freight.Endpoints.routeCost route option collateral)).document platform)
  | .fleets recent (some token) =>
    report ((Call.fleets token (!recent) world.now locale).document platform)
  | .fleets recent none => report ((Call.publicFleets (!recent) locale).document platform)
  | .fleet id token => showFleet platform locale id token
  | .fleetUsers id => report ((Call.fleetUsers id).document platform)
  | .fleetComposition id token byLocation staging =>
    showComposition world platform id token byLocation staging
  | .orders => report (Call.ordersByLocation.document platform)
  | .analyzeLog file zipped fitting fleet => analyze world platform file zipped fitting fleet
  | .sellOrders location =>
    report ((Call.backend (Market.Endpoints.sellOrders location)).document platform)
  | .marketExpectations token =>
    report ((Call.backend (Market.Endpoints.expectations token)).document platform)

def runCommand (world : World) (locale : Locale) : Command → Result
  | .parseVolume input =>
    .printed ((Json.Codec.option .int64).write (Quantity.ofField? (some input)))
  | .numberName value => .printed (.ofString (Quantity.compact locale value))
  | .query query =>
    match Settings.ofVariables world.environment with
    | .error _ => .failed "Failed to read configuration from environment"
    | .ok settings => runQuery world ⟨settings, world.network⟩ locale query

def World.withVariables (world : World) : World :=
  match world.file? variablesFile with
  | some content => { world with environment := withFile world.environment content }
  | none => world

/-- The files that a run may read besides the one with variables. -/
def filesNamed (environment : Variables) (arguments : List String) : List String :=
  match readInvocation environment arguments with
  | .ok ⟨_, .query (.analyzeLog file _ _ _)⟩ => [file]
  | .ok ⟨_, .query (.fleetComposition ..)⟩ =>
    (((Settings.ofVariables environment).toOption).bind Settings.sunTypesFile).toList
  | _ => []

def run (world : World) (arguments : List String) : Result :=
  let world := world.withVariables
  match readInvocation world.environment arguments with
  | .error .help => .help
  | .error .version => .version
  | .error .misuse => .misuse
  | .ok invocation => runCommand world (Locale.ofCode invocation.locale) invocation.command

end Quartermaster.CommandLine
