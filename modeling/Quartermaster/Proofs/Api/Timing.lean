import Quartermaster.Call
import Quartermaster.Proofs.Api.Exchange
import Quartermaster.Proofs.Api.Together

/-!
Time does not change answers. Two platforms that reply alike may take different times for it: a
call sends the same to both and yields the same from both, and where it fails it fails with the
failure of a request of its own (`Call.sameButTime_run`). So time is left to choose between
failures.
-/

namespace Quartermaster

namespace Api

variable {α β ι : Type}

/-- Platforms with the same settings that reply alike, at whatever times. -/
structure Alike (early late : Platform) : Prop where
  settings : early.settings = late.settings
  reply : early.network.reply = late.network.reply

/-- A failure of calling an endpoint of the platform, with no other request than those sent. -/
def BlamedOn (platform : Platform) (sent : List Http.Request) (failure : Failure) : Prop :=
  ∃ (β : Type) (endpoint : Endpoint β) (service : Service),
    (service = platform.settings.backend ∨ service = platform.settings.routing) ∧
    (endpoint.call service platform.network).outcome = .error failure ∧
    (endpoint.call service platform.network).sent ⊆ sent

theorem BlamedOn.mono {platform : Platform} {sent more : List Http.Request} {failure : Failure}
    (blamed : BlamedOn platform sent failure) (kept : sent ⊆ more) :
    BlamedOn platform more failure := by
  obtain ⟨β, endpoint, service, known, failed, among⟩ := blamed
  exact ⟨β, endpoint, service, known, failed, List.Subset.trans among kept⟩

/-- Exchanges that differ in time alone, and in which of the failures of their requests counts. -/
structure SameButTime (platform : Platform) (first second : Exchange Failure α) : Prop where
  sent : first.sent = second.sent
  ok_iff : ∀ value, first.outcome = .ok value ↔ second.outcome = .ok value
  blames : ∀ failure, first.outcome = .error failure → BlamedOn platform first.sent failure

/-! ### Calling an endpoint -/

theorem sent_call (endpoint : Endpoint α) (service : Service) (network network' : Network) :
    (endpoint.call service network).sent = (endpoint.call service network').sent :=
  (sent_call_eq ..).trans (sent_call_eq ..).symm

theorem outcome_call (endpoint : Endpoint α) (service : Service) {network network' : Network}
    (same : network.reply = network'.reply) :
    (endpoint.call service network).outcome = (endpoint.call service network').outcome := by
  unfold Endpoint.call
  rw [same]
  split <;> rfl

variable {early late : Platform}

namespace Alike

theorem sent_ask (alike : Alike early late) (endpoint : Endpoint α) :
    (early.ask endpoint).sent = (late.ask endpoint).sent := by
  rw [Platform.ask, Platform.ask, alike.settings]
  exact sent_call ..

theorem outcome_ask (alike : Alike early late) (endpoint : Endpoint α) :
    (early.ask endpoint).outcome = (late.ask endpoint).outcome := by
  rw [Platform.ask, Platform.ask, alike.settings]
  exact outcome_call _ _ alike.reply

theorem call (alike : Alike early late) (endpoint : Endpoint α) {service : Service}
    (known : service = early.settings.backend ∨ service = early.settings.routing) :
    SameButTime early (endpoint.call service early.network) (endpoint.call service late.network) where
  sent := sent_call ..
  ok_iff value := by rw [outcome_call endpoint service alike.reply]
  blames failure failed := ⟨α, endpoint, service, known, failed, List.Subset.refl _⟩

theorem ask (alike : Alike early late) (endpoint : Endpoint α) :
    SameButTime early (early.ask endpoint) (late.ask endpoint) := by
  rw [Platform.ask, Platform.ask, ← alike.settings]
  exact alike.call endpoint (.inl rfl)

theorem askRouting (alike : Alike early late) (endpoint : Endpoint α) :
    SameButTime early (early.askRouting endpoint) (late.askRouting endpoint) := by
  rw [Platform.askRouting, Platform.askRouting, ← alike.settings]
  exact alike.call endpoint (.inr rfl)

end Alike

/-! ### Putting exchanges together -/

namespace SameButTime

theorem pure (value : α) : SameButTime early (Pure.pure value) (Pure.pure value) where
  sent := rfl
  ok_iff _ := Iff.rfl
  blames failure failed := by cases failed

/-- Steps that differ in time alone make sequences that do. -/
theorem bind {first second : Exchange Failure α} {next next' : α → Exchange Failure β}
    (same : SameButTime early first second)
    (sameNext : ∀ value, SameButTime early (next value) (next' value)) :
    SameButTime early (first >>= next) (second >>= next') := by
  change SameButTime early (first.andThen next) (second.andThen next')
  cases found : first.outcome with
  | ok value =>
    have found' := (same.ok_iff value).mp found
    simp only [Exchange.andThen, found, found']
    refine ⟨?_, (sameNext value).ok_iff, fun failure failed => ?_⟩
    · rw [same.sent, (sameNext value).sent]
    · exact ((sameNext value).blames failure failed).mono (List.subset_append_right _ _)
  | error failure =>
    cases found' : second.outcome with
    | ok value => exact absurd ((same.ok_iff value).mpr found') (by simp [found])
    | error failure' =>
      simp only [Exchange.andThen, found, found']
      refine ⟨same.sent, by simp, fun failure failed => ?_⟩
      exact same.blames failure (by rw [found, Except.error.inj failed])

theorem map {first second : Exchange Failure α} (same : SameButTime early first second)
    (f : α → β) : SameButTime early (f <$> first) (f <$> second) :=
  same.bind fun value => .pure (f value)

theorem map_outcome_eq_ok {items : List ι} {part part' : ι → Exchange Failure α}
    (same : ∀ item, SameButTime early (part item) (part' item)) {values : List α} :
    (items.map part).map Exchange.outcome = values.map .ok ↔
      (items.map part').map Exchange.outcome = values.map .ok := by
  induction items generalizing values with
  | nil => rfl
  | cons item rest ih =>
    cases values with
    | nil => simp
    | cons value values =>
      simp only [List.map_cons, List.cons.injEq, (same item).ok_iff, ih]

/-- Parts that differ in time alone come to the same together; the failure is that of a part. -/
theorem together {part part' : ι → Exchange Failure α} (items : List ι)
    (same : ∀ item, SameButTime early (part item) (part' item)) :
    SameButTime early (.together (items.map part)) (.together (items.map part')) where
  sent := by simp [Exchange.sent_together, List.flatMap_map, fun item => (same item).sent]
  ok_iff values := by
    rw [Exchange.outcome_together_eq_ok, Exchange.outcome_together_eq_ok, map_outcome_eq_ok same]
  blames failure failed := by
    obtain ⟨exchange, member, failed⟩ := Exchange.exists_of_outcome_together failed
    obtain ⟨item, present, rfl⟩ := List.mem_map.mp member
    refine ((same item).blames failure failed).mono ?_
    rw [Exchange.sent_together]
    exact fun request sent => List.mem_flatMap.mpr ⟨part item, member, sent⟩

theorem settleAll {part part' : ι → Exchange Failure α} (items : List ι)
    (sent : ∀ item, (part item).sent = (part' item).sent)
    (outcome : ∀ item, (part item).outcome = (part' item).outcome) :
    SameButTime early (.settleAll (items.map part)) (.settleAll (items.map part')) where
  sent := by simp [Exchange.settleAll, List.flatMap_map, sent]
  ok_iff values := by simp [Function.comp_def, outcome]
  blames failure failed := by cases failed

theorem both {first first' : Exchange Failure α} {second second' : Exchange Failure β}
    (same : SameButTime early first first') (sameSecond : SameButTime early second second') :
    SameButTime early (first.both second) (first'.both second') where
  sent := by rw [Exchange.sent_both, Exchange.sent_both, same.sent, sameSecond.sent]
  ok_iff values := by
    rw [Exchange.outcome_both_eq_ok, Exchange.outcome_both_eq_ok, same.ok_iff, sameSecond.ok_iff]
  blames failure failed := by
    rw [Exchange.sent_both]
    rcases Exchange.failed_of_outcome_both failed with here | there
    · exact (same.blames failure here).mono (List.subset_append_left _ _)
    · exact (sameSecond.blames failure there).mono (List.subset_append_right _ _)

end SameButTime

end Api

/-! ### Calls -/

open Api (Alike Endpoint Exchange Failure Network Platform SameButTime Service Settings)

variable {early late : Platform}

theorem Character.sameButTime_primaries (alike : Alike early late) (users : List UserId) :
    SameButTime early (primaries early users) (primaries late users) := by
  unfold primaries
  split
  · exact .pure []
  · exact alike.ask _

theorem Character.sameButTime_primary? (alike : Alike early late) (user : UserId) :
    SameButTime early (primary? early user) (primary? late user) where
  sent := alike.sent_ask (Endpoints.primary user)
  ok_iff value := by simp only [primary?, alike.outcome_ask]
  blames failure failed := by
    refine (alike.ask (Endpoints.primary user)).blames failure ?_
    cases found : (early.ask (Endpoints.primary user)).outcome with
    | ok profile => simp [primary?, found] at failed
    | error failure' =>
      simp only [primary?, found] at failed
      split at failed
      · cases failed
      · rw [Except.error.inj failed]

namespace Fleet

theorem sameButTime_detailById (alike : Alike early late) (token : String) (id : FleetId)
    (locale : Locale) :
    SameButTime early (detailById early token id locale) (detailById late token id locale) := by
  refine (alike.ask _).bind fun fleet => ?_
  refine (SameButTime.both ?_ ?_).bind fun _ => .pure _
  · cases fleet.commander? with
    | none => exact .pure none
    | some user => exact Character.sameButTime_primary? alike user
  · cases fleet.doctrineId with
    | none => exact .pure none
    | some doctrine => exact (alike.ask _).map some

theorem sameButTime_systemGroups (alike : Alike early late) (sunTypes : SunTypes)
    (members : List Member) (staging : Option SolarSystemId) :
    SameButTime early (systemGroups early sunTypes members staging)
      (systemGroups late sunTypes members staging) :=
  .together _ fun _ => (alike.askRouting _).bind fun _ => .pure _

end Fleet

theorem Freight.sameButTime_calculator (alike : Alike early late) (locale : Locale) :
    SameButTime early (calculator early locale) (calculator late locale) := by
  refine (alike.ask _).bind fun routes => SameButTime.bind ?_ fun _ => .pure _
  exact .settleAll routes (fun _ => alike.sent_ask _) fun _ => alike.outcome_ask _

namespace Call

/-- Platforms that reply alike yield the same, whatever is asked of them. -/
theorem sameButTime_run (alike : Alike early late) (call : Call α) :
    SameButTime early (call.run early) (call.run late) := by
  cases call with
  | backend endpoint => exact alike.ask endpoint
  | routing endpoint => exact alike.askRouting endpoint
  | characters users => exact Character.sameButTime_primaries alike users
  | character user => exact Character.sameButTime_primary? alike user
  | fleets token upcoming now locale =>
    exact (alike.ask _).bind fun fleets =>
      (Character.sameButTime_primaries alike _).bind fun _ => .pure _
  | publicFleets upcoming locale => exact (alike.ask _).bind fun _ => .pure _
  | fleet token id locale => exact Fleet.sameButTime_detailById alike token id locale
  | fleetUsers id => exact (alike.ask _).bind fun _ => .pure _
  | membersBySystem sunTypes members staging =>
    exact Fleet.sameButTime_systemGroups alike sunTypes members staging
  | freightCalculator locale => exact Freight.sameButTime_calculator alike locale
  | freightContracts history => exact (alike.ask _).bind fun _ => .pure _
  | orderSummaries => exact (alike.ask _).bind fun _ => .pure _
  | summaryTrees => exact (alike.ask _).bind fun _ => .pure _
  | ordersByLocation => exact (alike.ask _).bind fun _ => .pure _

/--
How long replies take does not change the answer of a call. It is answered at some times only if it
is at all others, with the same value and after the same requests. If it fails, then with the
failure of a request of its own that fails at all times; so time only chooses between failures.
Requests that are made together come to the same in whatever order they end.
-/
theorem answers_independent_of_delays (settings : Settings) (reply : Http.Request → Http.Reply)
    (delay delay' : Http.Request → Nat) (call : Call α) :
    let early := call.run ⟨settings, ⟨reply, delay⟩⟩
    let late := call.run ⟨settings, ⟨reply, delay'⟩⟩
    (∀ answer, early.outcome = .ok answer ↔ late.outcome = .ok answer) ∧
    early.sent = late.sent ∧
    (∀ failure, early.outcome = .error failure →
      ∃ (β : Type) (endpoint : Endpoint β) (service : Service),
        (service = settings.backend ∨ service = settings.routing) ∧
        ∀ anytime : Http.Request → Nat,
          (endpoint.call service ⟨reply, anytime⟩).outcome = .error failure ∧
          (endpoint.call service ⟨reply, anytime⟩).sent ⊆ early.sent) ∧
    (∀ (β : Type) (parts : List (Exchange Failure β)) (ends : List (Except Failure β × Nat)),
      ends.Perm (parts.map Exchange.outcome).zipIdx → ∀ values,
        Exchange.joined parts.length ends = .ok values ↔
          (Exchange.together parts).outcome = .ok values) ∧
    ∀ (β : Type) (parts : List (Exchange Failure β))
      (ends : List (Except Failure (Except Failure β) × Nat)),
      ends.Perm ((parts.map Exchange.settled).map Exchange.outcome).zipIdx →
        Exchange.joined parts.length ends = (Exchange.settleAll parts).outcome := by
  intro early late
  have alike : Alike ⟨settings, ⟨reply, delay⟩⟩ ⟨settings, ⟨reply, delay'⟩⟩ := ⟨rfl, rfl⟩
  have same : SameButTime _ early late := sameButTime_run alike call
  refine ⟨same.ok_iff, same.sent, fun failure failed => ?_, fun _ _ _ => Exchange.outcome_joined,
    fun _ _ _ => Exchange.joined_settled⟩
  obtain ⟨β, endpoint, service, known, fails, among⟩ := same.blames failure failed
  refine ⟨β, endpoint, service, known, fun anytime => ⟨?_, ?_⟩⟩
  · rw [← fails]
    exact Api.outcome_call endpoint service rfl
  · rw [Api.sent_call endpoint service _ ⟨reply, delay⟩]
    exact among

end Call

end Quartermaster
