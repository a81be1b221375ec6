import Quartermaster.CommandLine.Arguments
import Quartermaster.CommandLine.Variables
import Quartermaster.Identifier

/-!
The commands of the command line. The language may be named before or behind the command, and the
name behind it counts; a token of access that is not given is taken from the environment.
-/

namespace Quartermaster.CommandLine

inductive Query
  | freightRoutes
  | freightContracts (history : Bool)
  | routeCost (route : RouteId) (option : RouteOptionId) (collateral : Int64)
  | fleets (recent : Bool) (token : Option String)
  | fleet (id : FleetId) (token : String)
  | fleetUsers (id : FleetId)
  | fleetComposition (id : FleetId) (token : String) (byLocation : Bool)
      (staging : Option SolarSystemId)
  | orders
  | analyzeLog (file : String) (zipped : Bool) (fitting fleet : Option Int64)
  | sellOrders (location : Option LocationId)
  | marketExpectations (token : String)
  deriving DecidableEq, Repr

inductive Command
  | parseVolume (input : String)
  | numberName (value : Double)
  | query (query : Query)
  deriving DecidableEq

inductive CommandName
  | parseVolume
  | numberName
  | freightRoutes
  | freightContracts
  | routeCost
  | fleets
  | fleet
  | fleetUsers
  | fleetComposition
  | orders
  | analyzeLog
  | sellOrders
  | marketExpectations
  deriving DecidableEq, Repr

namespace CommandName

def text : CommandName → String
  | .parseVolume => "parse-volume"
  | .numberName => "number-name"
  | .freightRoutes => "freight-routes"
  | .freightContracts => "freight-contracts"
  | .routeCost => "route-cost"
  | .fleets => "fleets"
  | .fleet => "fleet"
  | .fleetUsers => "fleet-users"
  | .fleetComposition => "fleet-composition"
  | .orders => "orders"
  | .analyzeLog => "analyze-log"
  | .sellOrders => "sell-orders"
  | .marketExpectations => "market-expectations"

def all : List CommandName :=
  [.parseVolume, .numberName, .freightRoutes, .freightContracts, .routeCost, .fleets, .fleet,
    .fleetUsers, .fleetComposition, .orders, .analyzeLog, .sellOrders, .marketExpectations]

def ofText? (text : String) : Option CommandName := all.find? fun name => name.text = text

/-- The option that names the language, which every command understands. -/
def localeOption : String × ValueKind := ("locale", .text)

def grammarOf (flags : List String) (options : List (String × ValueKind))
    (operands : List ValueKind) : Grammar :=
  ⟨flags, localeOption :: options, operands, false⟩

def grammar : CommandName → Grammar
  | .parseVolume => grammarOf [] [] [.text]
  | .numberName => grammarOf [] [] [.number]
  | .freightRoutes => grammarOf [] [] []
  | .freightContracts => grammarOf ["history"] [] []
  | .routeCost => grammarOf []
      [("route-id", .integer), ("route-option-id", .integer), ("collateral", .integer)] []
  | .fleets => grammarOf ["recent"] [("access-token", .text)] []
  | .fleet => grammarOf [] [("id", .integer), ("access-token", .text)] []
  | .fleetUsers => grammarOf [] [("id", .integer)] []
  | .fleetComposition => grammarOf ["by-location"]
      [("id", .integer), ("access-token", .text), ("staging-system", .integer)] []
  | .orders => grammarOf [] [] []
  | .analyzeLog => grammarOf ["zipped"]
      [("file", .path), ("fitting-id", .integer), ("fleet-id", .integer)] []
  | .sellOrders => grammarOf [] [("location-id", .integer)] []
  | .marketExpectations => grammarOf [] [("access-token", .text)] []

/-- The variable that holds a token of access. -/
def tokenVariable : String := "MM_ACCESS_TOKEN"

/-- What is to be done by a command with its arguments; none if one is missing. -/
def command? (environment : Variables) (arguments : Arguments) :
    CommandName → Option Command
  | .parseVolume => arguments.operands.head?.map .parseVolume
  | .numberName => do
    return .numberName (← Double.read? (← arguments.operands.head?).toList)
  | .freightRoutes => some (.query .freightRoutes)
  | .freightContracts => some (.query (.freightContracts (arguments.flag "history")))
  | .routeCost => do
    let route ← arguments.integer? "route-id"
    let option ← arguments.integer? "route-option-id"
    let collateral ← arguments.integer? "collateral"
    return .query (.routeCost ⟨route⟩ ⟨option⟩ collateral)
  | .fleets => some (.query (.fleets (arguments.flag "recent") token?))
  | .fleet => do return .query (.fleet ⟨← arguments.integer? "id"⟩ (← token?))
  | .fleetUsers => do return .query (.fleetUsers ⟨← arguments.integer? "id"⟩)
  | .fleetComposition => do
    let id ← arguments.integer? "id"
    let staging := (arguments.integer? "staging-system").map Identifier.mk
    return .query (.fleetComposition ⟨id⟩ (← token?) (arguments.flag "by-location") staging)
  | .orders => some (.query .orders)
  | .analyzeLog => do
    let file ← arguments.option? "file"
    return .query (.analyzeLog file (arguments.flag "zipped")
      (arguments.integer? "fitting-id") (arguments.integer? "fleet-id"))
  | .sellOrders =>
    some (.query (.sellOrders ((arguments.integer? "location-id").map Identifier.mk)))
  | .marketExpectations => do return .query (.marketExpectations (← token?))
where
  token? : Option String :=
    arguments.option? "access-token" <|> environment.lookup tokenVariable

end CommandName

/-- What is understood in front of a command. -/
def rootGrammar : Grammar := ⟨[], [CommandName.localeOption], [], true⟩

/-- What a question for help comes to: the command it is asked for has to exist. -/
def helpFor : List String → Halt
  | [] => .help
  | [name] => if name = "help" ∨ (CommandName.ofText? name).isSome then .help else .misuse
  | _ => .misuse

structure Invocation where
  locale : String
  command : Command
  deriving DecidableEq

def readCommand (environment : Variables) (front : Arguments) (name : String)
    (rest : List String) : Except Halt Invocation :=
  match CommandName.ofText? name with
  | none => .error (if name = "help" then helpFor rest else .misuse)
  | some name => do
    let arguments ← Arguments.read name.grammar rest
    match name.command? environment arguments with
    | none => .error .misuse
    | some command =>
      let locale := arguments.option? "locale" <|> front.option? "locale"
      return ⟨locale.getD "en", command⟩

/-- Reads a command line, given the arguments in front of the command that were read already. -/
def readFrom (environment : Variables) (front : Arguments) :
    List String → Except Halt Invocation
  | [] => .error .misuse
  | argument :: rest =>
    if front.pending.isNone && !front.operandsOnly && !Arguments.isOptionLike argument then
      readCommand environment front argument rest
    else do
      readFrom environment (← front.add rootGrammar argument) rest

def readInvocation (environment : Variables) (arguments : List String) :
    Except Halt Invocation :=
  readFrom environment .empty arguments

end Quartermaster.CommandLine
