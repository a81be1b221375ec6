import Quartermaster.Api.Platform
import Quartermaster.Fleet.TrackingTexts
import Quartermaster.SunTypes

/-!
What can be asked of the platform about fleets, their members and their doctrines.
-/

namespace Quartermaster

open Api (Endpoint Exchange Failure Platform)
open Http (Draft)
open Json (Codec)

namespace Fleet

inductive ListKind
  | active
  | recent
  deriving DecidableEq, Repr

def ListKind.text : ListKind → String
  | .active => "active"
  | .recent => "recent"

namespace Endpoints

def listed (token : String) (kind : ListKind) : Endpoint (List Fleet) where
  label := "Error fetching fleets"
  draft :=
    (Draft.get "/api/fleets/v3").withQuery [("type", kind.text)] |>.withToken token
  explains := false
  answer := Fleet.codec.list

def summaries (upcoming : Bool) : Endpoint (List Summary) where
  label := "Error fetching fleets"
  draft := (Draft.get "/api/fleets/v2").withQuery [("upcoming", Api.boolText upcoming)]
  explains := false
  answer := Summary.codec.list

def byId (token : String) (fleet : FleetId) : Endpoint Fleet where
  label := "Error fetching fleet"
  draft := (Draft.get ("/api/fleets/" ++ fleet.text)).withToken token
  explains := true
  answer := Fleet.codec

def members (token : String) (fleet : FleetId) : Endpoint (List Member) where
  label := "Error fetching fleet members"
  draft := (Draft.get ("/api/fleets/" ++ fleet.text ++ "/members")).withToken token
  explains := false
  answer := Member.codec.list

def users (fleet : FleetId) : Endpoint (List Users) where
  label := "Error fetching fleet users"
  draft := .get ("/api/fleets/" ++ fleet.text ++ "/users")
  explains := false
  answer := Users.codec.list

end Endpoints

end Fleet

namespace Character.Endpoints

def primaries (users : List UserId) : Endpoint (List CharacterProfile) where
  label := "Error fetching characters"
  draft :=
    (Draft.get "/api/eveonline/characters/primary").withQuery
      [("user_ids", ",".intercalate (users.map Identifier.text))]
  explains := false
  answer := CharacterProfile.codec.list

def primary (user : UserId) : Endpoint CharacterProfile where
  label := "Error fetching character"
  draft := .get ("/api/eveonline/characters/primary/" ++ user.text)
  explains := false
  answer := CharacterProfile.codec

end Character.Endpoints

namespace Doctrine.Endpoints

def byId (doctrine : DoctrineId) : Endpoint Doctrine where
  label := "Error fetching doctrine"
  draft := .get ("/api/doctrines/" ++ doctrine.text)
  explains := false
  answer := Doctrine.codec

end Doctrine.Endpoints

namespace SolarSystem.Endpoints

/-- The systems on the way from one to another, both included; none if there is no way. -/
def route (origin destination : SolarSystemId) : Endpoint (List SolarSystemId) where
  label := "Error fetching route"
  draft := .get ("/route/" ++ origin.text ++ "/" ++ destination.text ++ "/")
  explains := false
  answer := Identifier.codec.list

end SolarSystem.Endpoints

namespace Character

/-- The primary characters of users. No users are no request. -/
def primaries (platform : Platform) (users : List UserId) :
    Exchange Failure (List CharacterProfile) :=
  if users.isEmpty then .yields [] else platform.ask (Endpoints.primaries users)

/-- The primary character of a user; none if the backend finds none. -/
def primary? (platform : Platform) (user : UserId) :
    Exchange Failure (Option CharacterProfile) :=
  let exchange := platform.ask (Endpoints.primary user)
  { exchange with
    outcome :=
      match exchange.outcome with
      | .ok profile => .ok (some profile)
      | .error failure =>
        if failure.cause.status? = some .notFound then .ok none else .error failure }

end Character

/-- The jumps of a route: one less than its systems; none if it has no system. -/
def jumps? (route : List SolarSystemId) : Option UInt32 :=
  match route with
  | [] => none
  | _ :: rest => if rest.length < UInt32.size then some (UInt32.ofNat rest.length) else none

namespace Fleet

/-- The system where fleets gather unless another one is named: Sosala. -/
def defaultStaging : SolarSystemId := ⟨30003070⟩

/--
Whether a fleet is listed: it has a commander, and unless the listing is of those to come, it is
tracked or has started.
-/
def isListed (upcoming : Bool) (now : Calendar.Instant) (fleet : Fleet) : Bool :=
  fleet.commander?.isSome &&
    (upcoming || fleet.tracking.isSome || fleet.startTime.isBefore now)

def profileOf? (profiles : List CharacterProfile) (fleet : Fleet) : Option CharacterProfile :=
  profiles.find? fun profile => profile.userId.isSome && profile.userId = fleet.commanderId

/-- The commanders of fleets, each once, in the order in which they were first seen. -/
def commanders (fleets : List Fleet) : List UserId := (fleets.filterMap commander?).eraseDups

def listings (platform : Platform) (token : String) (upcoming : Bool) (now : Calendar.Instant)
    (locale : Locale) : Exchange Failure (List Listing) := do
  let fleets ← platform.ask (Endpoints.listed token (if upcoming then .active else .recent))
  let fleets := fleets.filter (isListed upcoming now)
  let profiles ← Character.primaries platform (commanders fleets)
  return fleets.map fun fleet => fleet.listing locale (profileOf? profiles fleet)

/-- The fleets that everyone may see, which tell nothing but their audience. -/
def publicListings (platform : Platform) (upcoming : Bool) (locale : Locale) :
    Exchange Failure (List Listing) := do
  let summaries ← platform.ask (Endpoints.summaries upcoming)
  return summaries.map (Summary.listing locale)

/-- A fleet with its commander and its doctrine, which are asked for together. -/
def detailById (platform : Platform) (token : String) (id : FleetId) (locale : Locale) :
    Exchange Failure Detail := do
  let fleet ← platform.ask (Endpoints.byId token id)
  let commander : Exchange Failure (Option CharacterProfile) :=
    match fleet.commander? with
    | some user => Character.primary? platform user
    | none => .yields none
  let doctrine : Exchange Failure (Option Doctrine) :=
    match fleet.doctrineId with
    | some doctrine => some <$> platform.ask (Doctrine.Endpoints.byId doctrine)
    | none => .yields none
  let (profile, doctrine) ← commander.both doctrine
  return fleet.detail locale profile doctrine

def systemGroup (platform : Platform) (sunTypes : SunTypes) (staging : SolarSystemId)
    (group : Group SolarSystemId Member) : Exchange Failure SystemGroup := do
  let route ← platform.askRouting (SolarSystem.Endpoints.route group.key staging)
  return {
    solarSystemId := group.key
    solarSystemName := group.first.solarSystemName
    sunTypeId := sunTypes.get? group.key
    jumps := jumps? route
    members := group.items.map Member.pilot }

/-- The members by solar system. The routes of all systems are asked for together. -/
def systemGroups (platform : Platform) (sunTypes : SunTypes) (members : List Member)
    (staging : Option SolarSystemId) : Exchange Failure (List SystemGroup) :=
  Exchange.together <| (groupBy Member.solarSystemId members).map
    (systemGroup platform sunTypes (staging.getD defaultStaging))

/-- The users of a fleet, by the first entry of the answer; none if there is no entry. -/
def userIds (platform : Platform) (id : FleetId) : Exchange Failure (List UserId) := do
  let users ← platform.ask (Endpoints.users id)
  return (users.head?.map Users.userIds).getD []

end Fleet

end Quartermaster
