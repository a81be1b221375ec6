import Quartermaster.Call
import Quartermaster.Proofs.Api.Exchange

/-!
Questions that take one request. A response is judged by its status before its body is read
(`StatusFirst`): a body that comes with a bad status is never taken for an answer, only searched
for an explanation, and that only by the questions that ask for one. This holds of calling any
endpoint (`statusFirst_call`), and so of every question (`Inquiry.statusFirst_run`); only the
question for the character of a user has an answer for what is not found.
-/

namespace Quartermaster

open Http (Request Status)
open Json (Codec Flaw Value)

namespace Api

variable {α : Type}

/-- The text of an error response that explains it: what its detail, if it has one, can tell. -/
def Explains (body explanation : String) : Prop :=
  ∃ document detail, Value.parse? body = some document ∧
    document.member? "detail" = some detail ∧ detailText? detail = some explanation

/-- A question whose request is answered with a status and a body. -/
structure Answered (α : Type) where
  production : Bool
  label : String
  /-- Whether an error response is asked for its own explanation. -/
  explains : Bool
  decode : String → Except Flaw α
  /-- The answer to a response that says that nothing was found, if that is no failure. -/
  ifMissing : Option α
  request : Request
  status : Status
  body : String

/-- What a response comes to whose status is looked at before its body. -/
structure StatusFirst (answered : Answered α) (outcome : Except Failure α) : Prop where
  /-- A bad status gives no value, whatever the body, but the one for what was not found. -/
  refused : ¬(200 ≤ answered.status.code ∧ answered.status.code ≤ 299) →
    ∀ value, outcome = .ok value ↔
      answered.status.code = 404 ∧ answered.ifMissing = some value
  /-- The failure is told in the words of the response or, without any, by its status. -/
  told : ¬(200 ≤ answered.status.code ∧ answered.status.code ≤ 299) →
    ¬(answered.status.code = 404 ∧ answered.ifMissing.isSome) →
    ∃ failure, outcome = .error failure ∧
      ((∃ explanation, answered.explains = true ∧ Explains answered.body explanation ∧
          failure.message = answered.label ++ ": " ++ explanation) ∨
        (¬(answered.explains = true ∧ ∃ explanation, Explains answered.body explanation) ∧
          failure.message = answered.label ++ ": " ++
            ((if answered.production then "Request"
              else answered.request.method.text ++ " " ++ answered.request.url.text) ++
              " failed because " ++ answered.status.reason)))
  accepted : 200 ≤ answered.status.code ∧ answered.status.code ≤ 299 →
    ∀ value, outcome = .ok value ↔ answered.decode answered.body = .ok value
  undecodable : 200 ≤ answered.status.code ∧ answered.status.code ≤ 299 →
    ∀ flaw, answered.decode answered.body = .error flaw →
      ∃ failure, outcome = .error failure ∧
        failure.message = answered.label ++ ": " ++ ("Error decoding response of " ++
          (answered.request.method.text ++ " " ++ answered.request.url.text))

/-! ### Calling an endpoint -/

theorem mapError_eq_ok_iff {ε ε' : Type} {result : Except ε α} {wrap : ε → ε'} {value : α} :
    result.mapError wrap = .ok value ↔ result = .ok value := by
  cases result with
  | ok found =>
    have kept : (Except.ok found : Except ε α).mapError wrap = .ok found := rfl
    simp [kept]
  | error failure =>
    have failed : (Except.error failure : Except ε α).mapError wrap = .error (wrap failure) := rfl
    simp [failed]

theorem isSuccess_iff (status : Status) :
    status.isSuccess = true ↔ 200 ≤ status.code ∧ status.code ≤ 299 := by
  simp only [Status.isSuccess, Bool.and_eq_true, decide_eq_true_eq]
  omega

theorem detailOfBody?_eq_some_iff {body explanation : String} :
    detailOfBody? body = some explanation ↔ Explains body explanation := by
  simp [detailOfBody?, Explains, Option.bind_eq_some_iff]

section Refusal

variable (service : Service) (request : Request) (status : Status) (body : String)

theorem status?_refusal (explains : Bool) :
    (refusal service explains request status body).status? = some status := by
  unfold refusal
  split <;> rfl

theorem refusal_of_explains {explanation : String} (explained : Explains body explanation) :
    refusal service true request status body = .detail status explanation := by
  unfold refusal
  rw [if_pos rfl, detailOfBody?_eq_some_iff.mpr explained]

theorem refusal_of_not_explains {explains : Bool}
    (unexplained : ¬(explains = true ∧ ∃ explanation, Explains body explanation)) :
    refusal service explains request status body =
      .status status (if service.production then none else some request.line) := by
  have none : (if explains then detailOfBody? body else .none) = .none := by
    cases explains with
    | false => rfl
    | true =>
      refine Option.eq_none_iff_forall_ne_some.mpr fun explanation found => ?_
      exact unexplained ⟨rfl, explanation, detailOfBody?_eq_some_iff.mp found⟩
  unfold refusal
  rw [none]

theorem message_refusal_of_explains (label : String) {explanation : String}
    (explained : Explains body explanation) :
    (Failure.mk label (refusal service true request status body)).message =
      label ++ ": " ++ explanation := by
  rw [refusal_of_explains _ _ _ _ explained]
  rfl

theorem message_refusal_of_not_explains (label : String) {explains : Bool}
    (unexplained : ¬(explains = true ∧ ∃ explanation, Explains body explanation)) :
    (Failure.mk label (refusal service explains request status body)).message =
      label ++ ": " ++ ((if service.production then "Request"
        else request.method.text ++ " " ++ request.url.text) ++
        " failed because " ++ status.reason) := by
  rw [refusal_of_not_explains _ _ _ _ unexplained]
  cases service.production <;> rfl

end Refusal

section Endpoint

variable {endpoint : Endpoint α} {service : Service} {network : Network} {request : Request}
  {status : Status} {body : Text.Bytes}
  (built : endpoint.request? service = some request)
  (replied : network.reply request = .response status body)

def Endpoint.answered (endpoint : Endpoint α) (service : Service) (request : Request)
    (status : Status) (body : Text.Bytes) : Answered α where
  production := service.production
  label := endpoint.label
  explains := endpoint.explains
  decode := endpoint.answer.decode
  ifMissing := none
  request := request
  status := status
  body := Text.decodeBody body

include built replied

theorem outcome_of_refused (refused : ¬(200 ≤ status.code ∧ status.code ≤ 299)) :
    (endpoint.call service network).outcome =
      .error ⟨endpoint.label,
        refusal service endpoint.explains request status (Text.decodeBody body)⟩ := by
  rw [← isSuccess_iff] at refused
  simp only [Endpoint.call, built, Endpoint.receive, replied, refused]
  rfl

theorem outcome_of_accepted (accepted : 200 ≤ status.code ∧ status.code ≤ 299) :
    (endpoint.call service network).outcome =
      (endpoint.answer.decode (Text.decodeBody body)).mapError fun flaw =>
        ⟨endpoint.label, .undecodable request.line flaw⟩ := by
  rw [← isSuccess_iff] at accepted
  simp only [Endpoint.call, built, Endpoint.receive, replied, accepted, if_true]
  cases endpoint.answer.decode (Text.decodeBody body) <;> rfl

/-- Calling an endpoint looks at the status before the body. -/
theorem statusFirst_call :
    StatusFirst (endpoint.answered service request status body)
      (endpoint.call service network).outcome where
  refused bad value := by
    rw [outcome_of_refused built replied bad]
    simp [Endpoint.answered]
  told bad _ := by
    refine ⟨_, outcome_of_refused built replied bad, ?_⟩
    by_cases explained : endpoint.explains = true ∧
        ∃ explanation, Explains (Text.decodeBody body) explanation
    · obtain ⟨explains, explanation, found⟩ := explained
      rw [explains]
      exact .inl ⟨explanation, explains, found, message_refusal_of_explains _ _ _ _ _ found⟩
    · exact .inr ⟨explained, message_refusal_of_not_explains _ _ _ _ _ explained⟩
  accepted good value := by
    rw [outcome_of_accepted built replied good]
    exact mapError_eq_ok_iff
  undecodable good flaw flawed := by
    have decoded : endpoint.answer.decode (Text.decodeBody body) = .error flaw := flawed
    rw [outcome_of_accepted built replied good, decoded]
    exact ⟨_, rfl, rfl⟩

end Endpoint

end Api

open Api

/-- A question that takes one request. -/
inductive Inquiry : Type → Type
  | freightRoutes : Inquiry (List Freight.Route)
  | routeOptions (id : RouteId) : Inquiry (List Freight.RouteOption)
  | routeCost (id : RouteId) (option : RouteOptionId) (collateral : Int64) :
      Inquiry Freight.RouteCost
  | freightContracts (history : Bool) : Inquiry (List Freight.Contract)
  | truckerStatistics : Inquiry (List Freight.TruckerStatistics)
  | marketContracts (location : LocationId) : Inquiry (List Market.Contract)
  | marketContract (expectation : Int64) : Inquiry Market.Contract
  | createResponsibility (token : String) (expectation entity : Int64) : Inquiry Market.Contract
  | marketCharacters (token : String) : Inquiry (List Market.Character)
  | corporations (token : String) : Inquiry (List Market.Corporation)
  | expectations (token : String) : Inquiry (List Market.Expectation)
  | stockedDoctrines : Inquiry (List Market.StockedDoctrine)
  | sellOrders (location : Option LocationId) : Inquiry (List Market.SellOrderLocation)
  | expectationsByLocation : Inquiry (List Market.LocationStock)
  | fleets (token : String) (kind : Fleet.ListKind) : Inquiry (List Fleet)
  | publicFleets (upcoming : Bool) : Inquiry (List Fleet.Summary)
  | fleet (token : String) (id : FleetId) : Inquiry Fleet
  | fleetMembers (token : String) (id : FleetId) : Inquiry (List Fleet.Member)
  | fleetUsers (id : FleetId) : Inquiry (List Fleet.Users)
  | characters (users : List UserId) : Inquiry (List CharacterProfile)
  | character (user : UserId) : Inquiry (Option CharacterProfile)
  | doctrine (id : DoctrineId) : Inquiry Doctrine
  | orders : Inquiry (List Industry.Order)
  | flatSummary : Inquiry Industry.FlatSummary
  | nestedSummary : Inquiry Industry.NestedSummary
  | combatAnalysis (log : String) : Inquiry Combat.Log
  | zippedAnalysis (log : Text.Bytes) (fittingId fleetId : Option Int64) : Inquiry Combat.Log
  | route (origin destination : SolarSystemId) : Inquiry (List SolarSystemId)

namespace Inquiry

variable {α : Type}

def run (platform : Platform) : Inquiry α → Exchange Failure α
  | freightRoutes => platform.ask Freight.Endpoints.routes
  | routeOptions id => platform.ask (Freight.Endpoints.routeOptions id)
  | routeCost id option collateral =>
    platform.ask (Freight.Endpoints.routeCost id option collateral)
  | freightContracts history => platform.ask (Freight.Endpoints.contracts history)
  | truckerStatistics => platform.ask Freight.Endpoints.statistics
  | marketContracts location => platform.ask (Market.Endpoints.contracts location)
  | marketContract expectation => platform.ask (Market.Endpoints.contract expectation)
  | createResponsibility token expectation entity =>
    platform.ask (Market.Endpoints.createResponsibility token expectation entity)
  | marketCharacters token => platform.ask (Market.Endpoints.characters token)
  | corporations token => platform.ask (Market.Endpoints.corporations token)
  | expectations token => platform.ask (Market.Endpoints.expectations token)
  | stockedDoctrines => platform.ask Market.Endpoints.stockedDoctrines
  | sellOrders location => platform.ask (Market.Endpoints.sellOrders location)
  | expectationsByLocation => platform.ask Market.Endpoints.expectationsByLocation
  | fleets token kind => platform.ask (Fleet.Endpoints.listed token kind)
  | publicFleets upcoming => platform.ask (Fleet.Endpoints.summaries upcoming)
  | fleet token id => platform.ask (Fleet.Endpoints.byId token id)
  | fleetMembers token id => platform.ask (Fleet.Endpoints.members token id)
  | fleetUsers id => platform.ask (Fleet.Endpoints.users id)
  | characters users => Character.primaries platform users
  | character user => Character.primary? platform user
  | doctrine id => platform.ask (Doctrine.Endpoints.byId id)
  | orders => platform.ask Industry.Endpoints.orders
  | flatSummary => platform.ask Industry.Endpoints.flatSummary
  | nestedSummary => platform.ask Industry.Endpoints.nestedSummary
  | combatAnalysis log => platform.ask (Combat.Endpoints.analysis log)
  | zippedAnalysis log fittingId fleetId =>
    platform.ask (Combat.Endpoints.zippedAnalysis log fittingId fleetId)
  | route origin destination => platform.askRouting (SolarSystem.Endpoints.route origin destination)

def label : Inquiry α → String
  | freightRoutes => "Error fetching freight routes"
  | routeOptions _ => "Error fetching freight route options"
  | routeCost _ _ _ => "Error fetching freight route cost"
  | freightContracts _ => "Error fetching freight contracts"
  | truckerStatistics => "Error fetching freight contracts"
  | marketContracts _ => "Error fetching contracts"
  | marketContract _ => "Error fetching contract"
  | createResponsibility _ _ _ => "Error creating responsability"
  | marketCharacters _ => "Error fetching market characters"
  | corporations _ => "Error fetching market corporations"
  | expectations _ => "Error fetching market expectations"
  | stockedDoctrines => "Error fetching market locations with doctrines"
  | sellOrders _ => "Error fetching sell orders"
  | expectationsByLocation => "Error fetching market expectations by location"
  | fleets _ _ => "Error fetching fleets"
  | publicFleets _ => "Error fetching fleets"
  | fleet _ _ => "Error fetching fleet"
  | fleetMembers _ _ => "Error fetching fleet members"
  | fleetUsers _ => "Error fetching fleet users"
  | characters _ => "Error fetching characters"
  | character _ => "Error fetching character"
  | doctrine _ => "Error fetching doctrine"
  | orders => "Error fetching industry orders"
  | flatSummary => "Error fetching industry orders summary"
  | nestedSummary => "Error fetching industry orders summary"
  | combatAnalysis _ => "Error analizing log"
  | zippedAnalysis _ _ _ => "Error analizing log"
  | route _ _ => "Error fetching route"

def explains : Inquiry α → Bool
  | marketCharacters _ => true
  | expectations _ => true
  | fleet _ _ => true
  | _ => false

def ifMissing : Inquiry α → Option α
  | character _ => some none
  | _ => none

def decode : Inquiry α → String → Except Flaw α
  | freightRoutes, body => Freight.Route.codec.list.decode body
  | routeOptions _, body => Freight.RouteOption.codec.list.decode body
  | routeCost _ _ _, body => Freight.RouteCost.codec.decode body
  | freightContracts _, body => Freight.Contract.codec.list.decode body
  | truckerStatistics, body => Freight.TruckerStatistics.codec.list.decode body
  | marketContracts _, body => Market.Contract.codec.list.decode body
  | marketContract _, body => Market.Contract.codec.decode body
  | createResponsibility _ _ _, body => Market.Contract.codec.decode body
  | marketCharacters _, body => Market.Character.codec.list.decode body
  | corporations _, body => Market.Corporation.codec.list.decode body
  | expectations _, body => Market.Expectation.codec.list.decode body
  | stockedDoctrines, body => Market.StockedDoctrine.codec.list.decode body
  | sellOrders _, body => Market.SellOrderLocation.codec.list.decode body
  | expectationsByLocation, body => Market.LocationStock.codec.list.decode body
  | fleets _ _, body => Fleet.codec.list.decode body
  | publicFleets _, body => Fleet.Summary.codec.list.decode body
  | fleet _ _, body => Fleet.codec.decode body
  | fleetMembers _ _, body => Fleet.Member.codec.list.decode body
  | fleetUsers _, body => Fleet.Users.codec.list.decode body
  | characters _, body => CharacterProfile.codec.list.decode body
  | character _, body => (CharacterProfile.codec.decode body).map some
  | doctrine _, body => Doctrine.codec.decode body
  | orders, body => Industry.Order.codec.list.decode body
  | flatSummary, body => Industry.FlatSummary.codec.decode body
  | nestedSummary, body => Industry.NestedSummary.codec.decode body
  | combatAnalysis _, body => Combat.Log.codec.decode body
  | zippedAnalysis _ _ _, body => Combat.Log.codec.decode body
  | route _ _, body => Identifier.codec.list.decode body

def answered (inquiry : Inquiry α) (settings : Settings) (request : Request) (status : Status)
    (body : Text.Bytes) : Answered α where
  production := settings.prodErrorMessages
  label := inquiry.label
  explains := inquiry.explains
  decode := inquiry.decode
  ifMissing := inquiry.ifMissing
  request := request
  status := status
  body := Text.decodeBody body

section Run

variable {platform : Platform} {request : Request} {status : Status} {body : Text.Bytes}

theorem eq_notFound_iff (status : Status) : status = .notFound ↔ status.code = 404 := by
  cases status
  simp [Status.notFound]

section Character

variable {user : UserId}
  (sent : (Character.primary? platform user).sent = [request])
  (replied : platform.network.reply request = .response status body)

include sent

theorem request?_of_sent_character :
    (Character.Endpoints.primary user).request? platform.settings.backend = some request := by
  have asked : (platform.ask (Character.Endpoints.primary user)).sent = [request] := sent
  exact request?_of_sent asked

include replied

/-- A user whose character is not found has none; with another bad status the question fails. -/
theorem outcome_character_of_refused (bad : ¬(200 ≤ status.code ∧ status.code ≤ 299)) :
    (Character.primary? platform user).outcome =
      if status.code = 404 then .ok none
      else (platform.ask (Character.Endpoints.primary user)).outcome.map some := by
  have built := request?_of_sent_character sent
  have refused := outcome_of_refused built replied bad
  simp only [Character.primary?, Platform.ask, refused, status?_refusal, Option.some.injEq,
    eq_notFound_iff]
  rfl

theorem outcome_character_of_accepted (good : 200 ≤ status.code ∧ status.code ≤ 299) :
    (Character.primary? platform user).outcome =
      ((character user).decode (Text.decodeBody body)).mapError fun flaw =>
        ⟨(character user).label, .undecodable request.line flaw⟩ := by
  have built := request?_of_sent_character sent
  have accepted := outcome_of_accepted built replied good
  have answer : (Character.Endpoints.primary user).answer = CharacterProfile.codec := rfl
  simp only [Character.primary?, Platform.ask, accepted, answer, decode]
  cases CharacterProfile.codec.decode (Text.decodeBody body) with
  | ok profile => rfl
  | error flaw => rfl

theorem statusFirst_character :
    StatusFirst ((character user).answered platform.settings request status body)
      (Character.primary? platform user).outcome := by
  have asked := statusFirst_call (request?_of_sent_character sent) replied
  refine ⟨fun bad value => ?_, fun bad found => ?_, fun good value => ?_,
    fun good flaw flawed => ?_⟩
  · rw [outcome_character_of_refused sent replied bad]
    by_cases code : status.code = 404
    · simp [code, answered, ifMissing, eq_comm]
    · obtain ⟨failure, failed, -⟩ := asked.told bad nofun
      have failed : (platform.ask (Character.Endpoints.primary user)).outcome = _ := failed
      simp [code, answered, failed, Except.map]
  · have code : status.code ≠ 404 := fun code => found ⟨code, rfl⟩
    obtain ⟨failure, failed, told⟩ := asked.told bad nofun
    rw [outcome_character_of_refused sent replied bad, if_neg code]
    exact ⟨failure, congrArg (Except.map some) failed, told⟩
  · rw [outcome_character_of_accepted sent replied good]
    exact mapError_eq_ok_iff
  · have flawed : (character user).decode (Text.decodeBody body) = .error flaw := flawed
    rw [outcome_character_of_accepted sent replied good, flawed]
    exact ⟨_, rfl, rfl⟩

end Character

theorem primaries_of_sent {users : List UserId}
    (sent : (Character.primaries platform users).sent = [request]) :
    Character.primaries platform users = platform.ask (Character.Endpoints.primaries users) := by
  cases users with
  | nil => contradiction
  | cons user others => rfl

/-- A response is judged by its status before its body is read, whatever was asked. -/
theorem statusFirst_run (inquiry : Inquiry α)
    (sent : (inquiry.run platform).sent = [request])
    (replied : platform.network.reply request = .response status body) :
    StatusFirst (inquiry.answered platform.settings request status body)
      (inquiry.run platform).outcome := by
  cases inquiry with
  | character user => exact statusFirst_character sent replied
  | characters users =>
    have asked := primaries_of_sent sent
    rw [run, asked] at sent ⊢
    exact statusFirst_call (request?_of_sent sent) replied
  | _ => exact statusFirst_call (request?_of_sent sent) replied

-- the address is read letter by letter
set_option maxRecDepth 2000 in
theorem isSome_request?_marketCharacters :
    ((Market.Endpoints.characters "token").request? ⟨"http://localhost", false⟩).isSome := by rfl

/-- A refusal that explains itself, of a question that asks for explanations. -/
theorem statusFirst_run_marketCharacters :
    let settings : Settings :=
      ⟨"http://localhost", none, "", false, true, "", "", none, none, none, none, "", none⟩
    let forbidden : Status := ⟨403, by decide⟩
    let body := Text.utf8 "\x7b\"detail\": \" no access \"\x7d".toList
    let platform : Platform := ⟨settings, ⟨fun _ => .response forbidden body, fun _ => 0⟩⟩
    let inquiry := marketCharacters "token"
    ∃ request, (inquiry.run platform).sent = [request] ∧
      platform.network.reply request = .response forbidden body ∧
      StatusFirst (inquiry.answered settings request forbidden body)
        (inquiry.run platform).outcome := by
  intro settings forbidden body platform inquiry
  obtain ⟨request, built⟩ := Option.isSome_iff_exists.mp isSome_request?_marketCharacters
  have sent : (inquiry.run platform).sent = [request] := by
    have asked :=
      sent_call_eq (Market.Endpoints.characters "token") settings.backend platform.network
    have built : (Market.Endpoints.characters "token").request? settings.backend = _ := built
    rwa [built] at asked
  exact ⟨request, sent, rfl, statusFirst_run inquiry sent rfl⟩

end Run

end Inquiry

end Quartermaster
