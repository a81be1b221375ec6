import Quartermaster.Proofs.Api.Answers
import Quartermaster.Proofs.Api.Together
import Quartermaster.Proofs.Fleet.Listings

/-!
One fleet with its commander and its doctrine, by whatever comes back for the requests. The two
lookups run together and differ in what is no answer: that nothing was found is a failure of the
doctrine, but only leaves the commander without a name. `detailById_resolved` says when there is a
fleet to show, what is shown, what fails otherwise, and which requests are sent.
-/

namespace Quartermaster

open Api
open Http (Request)

namespace Fleet

variable {platform : Platform} {locale : Locale} {fleet : Fleet} {failure : Failure}

/-! ### Looking up what may be wanted -/

section LookUp

variable {ι α : Type}

def lookUp (wanted : Option ι) (part : ι → Exchange Failure (Option α)) :
    Exchange Failure (Option α) :=
  match wanted with
  | some item => part item
  | none => .yields none

variable {wanted : Option ι} {part : ι → Exchange Failure (Option α)}

theorem outcome_lookUp_eq_ok {found : Option α} :
    (lookUp wanted part).outcome = .ok found ↔
      (∃ item, wanted = some item ∧ (part item).outcome = .ok found) ∨
        wanted = none ∧ found = none := by
  cases wanted with
  | none => simp [lookUp, eq_comm]
  | some item => simp [lookUp]

theorem wanted_of_outcome_lookUp (failed : (lookUp wanted part).outcome = .error failure) :
    ∃ item, wanted = some item ∧ (part item).outcome = .error failure := by
  cases wanted with
  | none => cases failed
  | some item => exact ⟨item, rfl, failed⟩

/-- The request for an item that is wanted, or none if no item is. -/
inductive SentFor (platform : Platform) (endpoint : ι → Endpoint α) (wanted : ι → Prop) :
    List Request → Prop
  | nothing (none : ∀ item, ¬wanted item) : SentFor platform endpoint wanted []
  | one {item : ι} {request : Request} (one : wanted item)
      (built : (endpoint item).request? platform.settings.backend = some request) :
      SentFor platform endpoint wanted [request]

theorem sentFor_lookUp {endpoint : ι → Endpoint α} {β : Type}
    {part : ι → Exchange Failure (Option β)}
    (asks : ∀ item, (part item).sent = (platform.ask (endpoint item)).sent)
    (built : ∀ item, ∃ request,
      (endpoint item).request? platform.settings.backend = some request) :
    SentFor platform endpoint (wanted = some ·) (lookUp wanted part).sent := by
  cases wanted with
  | none => exact .nothing nofun
  | some item =>
    obtain ⟨request, here⟩ := built item
    have sent : (part item).sent = [request] := by
      rw [asks, Platform.ask, sent_call_eq, here]
      rfl
    exact sent ▸ .one rfl here

end LookUp

/-! ### The commander and the doctrine -/

def Commands (fleet : Fleet) (user : UserId) : Prop :=
  fleet.commanderId = some user ∧ 0 < user.number

def profile (platform : Platform) (fleet : Fleet) : Exchange Failure (Option CharacterProfile) :=
  lookUp fleet.commander? (Character.primary? platform)

def doctrine (platform : Platform) (fleet : Fleet) : Exchange Failure (Option Doctrine) :=
  lookUp fleet.doctrineId fun id => some <$> platform.ask (Doctrine.Endpoints.byId id)

theorem commands_iff {user : UserId} : fleet.commander? = some user ↔ Commands fleet user :=
  commander?_eq_some_iff

theorem outcome_profile_eq_ok {found : Option CharacterProfile} :
    (fleet.profile platform).outcome = .ok found ↔
      (∃ user profile, Commands fleet user ∧
        Answers platform (Character.Endpoints.primary user) profile ∧ found = some profile) ∨
      (∀ user, Commands fleet user → FindsNone platform (Character.Endpoints.primary user)) ∧
        found = none := by
  simp only [profile, outcome_lookUp_eq_ok, ← commands_iff]
  cases commander : fleet.commander? with
  | none => simp
  | some user =>
    cases found with
    | some profile => simp [Character.outcome_primary?_eq_some]
    | none => simp [Character.outcome_primary?_eq_none]

theorem outcome_doctrine_eq_ok {found : Option Doctrine} :
    (fleet.doctrine platform).outcome = .ok found ↔
      (∃ id doctrine, fleet.doctrineId = some id ∧
        Answers platform (Doctrine.Endpoints.byId id) doctrine ∧ found = some doctrine) ∨
      fleet.doctrineId = none ∧ found = none := by
  simp only [doctrine, outcome_lookUp_eq_ok, Exchange.outcome_map_eq_ok, outcome_ask_eq_ok]
  refine or_congr_left ⟨?_, ?_⟩
  · rintro ⟨id, named, doctrine, answers, rfl⟩
    exact ⟨id, doctrine, named, answers, rfl⟩
  · rintro ⟨id, doctrine, named, answers, rfl⟩
    exact ⟨id, named, doctrine, answers, rfl⟩

/-- A commander who cannot be looked up: the failure is that of asking for the character. -/
theorem commands_of_outcome_profile (failed : (fleet.profile platform).outcome = .error failure) :
    ∃ user, Commands fleet user ∧
      (Character.primary? platform user).outcome = .error failure := by
  obtain ⟨user, commands, failed⟩ := wanted_of_outcome_lookUp failed
  exact ⟨user, commands_iff.mp commands, failed⟩

theorem named_of_outcome_doctrine (failed : (fleet.doctrine platform).outcome = .error failure) :
    ∃ id, fleet.doctrineId = some id ∧
      (platform.ask (Doctrine.Endpoints.byId id)).outcome = .error failure := by
  obtain ⟨id, named, failed⟩ := wanted_of_outcome_lookUp failed
  exact ⟨id, named, Exchange.outcome_map_eq_error.mp failed⟩

/-! ### The requests -/

section Requests

variable {token : String} {id : FleetId} {request : Request}

theorem isTail_identifier {kind : Kind} (path : String) (inPath : Url.IsTail path.toList)
    (id : Identifier kind) : Url.IsTail (path ++ id.text).toList := by
  intro c member
  rw [String.toList_append] at member
  rcases List.mem_append.mp member with member | member
  · exact inPath c member
  · exact Url.isTail_int64 id.number c member

variable (built : (Endpoints.byId token id).request? platform.settings.backend = some request)

include built

/-- If a fleet can be asked for, then whatever has a path of its own at the same interface. -/
theorem exists_request?_of_byId {α : Type} {kind : Kind} {endpoint : Endpoint α} (path : String)
    (item : Identifier kind) (inPath : Url.IsTail path.toList)
    (draft : endpoint.draft = .get ("/api/" ++ (path ++ item.text))) :
    ∃ request', endpoint.request? platform.settings.backend = some request' := by
  have address : (Endpoints.byId token id).draft.address = "/api/" ++ ("fleets/" ++ id.text) := by
    rw [← String.append_assoc]
    rfl
  exact exists_request?_of_interface built address
    (isTail_identifier _ (by decide) id) (congrArg Http.Draft.address draft)
    (isTail_identifier _ inPath item) (congrArg Http.Draft.token draft)

theorem sentFor_profile :
    SentFor platform Character.Endpoints.primary (Commands fleet)
      (fleet.profile platform).sent := by
  have commands : (fleet.commander? = some ·) = Commands fleet :=
    funext fun user => propext commands_iff
  rw [← commands]
  refine sentFor_lookUp (fun user => rfl) fun user => ?_
  refine exists_request?_of_byId built "eveonline/characters/primary/" user ?_ ?_
  · decide
  · rw [← String.append_assoc]
    rfl

theorem sentFor_doctrine :
    SentFor platform Doctrine.Endpoints.byId (fleet.doctrineId = some ·)
      (fleet.doctrine platform).sent := by
  refine sentFor_lookUp (fun id => Exchange.sent_map _ _) fun id => ?_
  refine exists_request?_of_byId built "doctrines/" id ?_ ?_
  · decide
  · rw [← String.append_assoc]
    rfl

end Requests

/-! ### The whole exchange -/

/-- A fleet as it is shown on its own, by what is answered about its commander and doctrine. -/
structure DetailOf (platform : Platform) (locale : Locale) (fleet : Fleet) (detail : Detail) :
    Prop where
  id : detail.id = fleet.id
  description : detail.description = fleet.description
  location : detail.location = fleet.location
  startTime : detail.startTime = fleet.startTime
  type : detail.type = fleet.type
  tracking : detail.tracking = fleet.tracking
  audience : detail.audience = fleet.audience
  disableMotd : detail.disableMotd = fleet.disableMotd
  status : detail.status = fleet.status
  doctrine : (∃ id doctrine, fleet.doctrineId = some id ∧
      Answers platform (Doctrine.Endpoints.byId id) doctrine ∧ detail.doctrine = some doctrine) ∨
    fleet.doctrineId = none ∧ detail.doctrine = none
  commander : (∃ user profile, Commands fleet user ∧
      Answers platform (Character.Endpoints.primary user) profile ∧
      detail.commanderId = profile.characterId ∧ detail.commanderName = profile.characterName) ∨
    (∀ user, Commands fleet user → FindsNone platform (Character.Endpoints.primary user)) ∧
      detail.commanderId = ⟨0⟩ ∧ detail.commanderName = Phrase.unknownCharacter.text locale

/-- What asking for one fleet comes to, by the responses to its requests. -/
structure DetailResolved (platform : Platform) (asked : Endpoint Fleet) (locale : Locale)
    (result : Exchange Failure Detail) : Prop where
  /-- There is a fleet to show if it is answered, and both lookups come to something. -/
  succeeds : (∃ detail, result.outcome = .ok detail) ↔
    ∃ fleet, Answers platform asked fleet ∧
      (∀ user, Commands fleet user →
        FindsNone platform (Character.Endpoints.primary user) ∨
          ∃ profile, Answers platform (Character.Endpoints.primary user) profile) ∧
      ∀ id, fleet.doctrineId = some id →
        ∃ doctrine, Answers platform (Doctrine.Endpoints.byId id) doctrine
  shows : ∀ detail, result.outcome = .ok detail ↔
    ∃ fleet, Answers platform asked fleet ∧ DetailOf platform locale fleet detail
  /-- A failure is that of the request for the fleet, or of one of the lookups. -/
  fails : ∀ failure, result.outcome = .error failure →
    (platform.ask asked).outcome = .error failure ∨
      ∃ fleet, Answers platform asked fleet ∧
        ((∃ user, Commands fleet user ∧
            (Character.primary? platform user).outcome = .error failure) ∨
          ∃ id, fleet.doctrineId = some id ∧
            (platform.ask (Doctrine.Endpoints.byId id)).outcome = .error failure)
  /-- Nothing is looked up for a fleet that is not answered. -/
  sends_alone : (∀ fleet, ¬Answers platform asked fleet) →
    result.sent = (asked.request? platform.settings.backend).toList
  /-- The character is asked for if there is a commander, the doctrine if the fleet has one. -/
  sends : ∀ fleet, Answers platform asked fleet →
    ∃ request forProfile forDoctrine,
      asked.request? platform.settings.backend = some request ∧
      SentFor platform Character.Endpoints.primary (Commands fleet) forProfile ∧
      SentFor platform Doctrine.Endpoints.byId (fleet.doctrineId = some ·) forDoctrine ∧
      result.sent = request :: (forProfile ++ forDoctrine)

/-- The fleet once it is known: its commander and its doctrine are looked up and shown with it. -/
def resolved (platform : Platform) (locale : Locale) (fleet : Fleet) : Exchange Failure Detail := do
  let (profile, doctrine) ← (fleet.profile platform).both (fleet.doctrine platform)
  return fleet.detail locale profile doctrine

theorem detailById_eq (platform : Platform) (token : String) (id : FleetId) (locale : Locale) :
    detailById platform token id locale =
      platform.ask (Endpoints.byId token id) >>= resolved platform locale := by
  refine congrArg (platform.ask _ >>= ·) (funext fun fleet => ?_)
  unfold resolved profile doctrine lookUp
  cases fleet.commander? <;> cases fleet.doctrineId <;> rfl

theorem DetailOf.eq_detail {detail : Detail} {found : Option CharacterProfile}
    (shown : DetailOf platform locale fleet detail)
    (id : detail.commanderId = (found.map (·.characterId)).getD nobody)
    (name : detail.commanderName =
      (found.map (·.characterName)).getD (Phrase.unknownCharacter.text locale)) :
    fleet.detail locale found detail.doctrine = detail := by
  rw [Fleet.detail, ← id, ← name, ← shown.id, ← shown.description, ← shown.location,
    ← shown.startTime, ← shown.type, ← shown.tracking, ← shown.audience, ← shown.disableMotd,
    ← shown.status]

theorem outcome_resolved_eq_ok {detail : Detail} :
    (fleet.resolved platform locale).outcome = .ok detail ↔
      DetailOf platform locale fleet detail := by
  rw [resolved, Exchange.outcome_bind_eq_ok]
  simp only [Exchange.outcome_both_eq_ok]
  constructor
  · rintro ⟨⟨found, foundDoctrine⟩, ⟨profiled, known⟩, same⟩
    obtain rfl := Except.ok.inj same
    refine ⟨rfl, rfl, rfl, rfl, rfl, rfl, rfl, rfl, rfl, outcome_doctrine_eq_ok.mp known, ?_⟩
    rcases outcome_profile_eq_ok.mp profiled with
      ⟨user, profile, commands, answers, rfl⟩ | ⟨unnamed, rfl⟩
    · exact .inl ⟨user, profile, commands, answers, rfl, rfl⟩
    · exact .inr ⟨unnamed, rfl, rfl⟩
  · intro shown
    have known := outcome_doctrine_eq_ok.mpr shown.doctrine
    rcases shown.commander with
      ⟨user, profile, commands, answers, id, name⟩ | ⟨unnamed, id, name⟩
    · have profiled := outcome_profile_eq_ok.mpr (.inl ⟨user, profile, commands, answers, rfl⟩)
      refine ⟨(some profile, detail.doctrine), ⟨profiled, known⟩, ?_⟩
      exact congrArg Except.ok (shown.eq_detail id name)
    · have profiled := outcome_profile_eq_ok.mpr (.inr ⟨unnamed, rfl⟩)
      refine ⟨(none, detail.doctrine), ⟨profiled, known⟩, ?_⟩
      exact congrArg Except.ok (shown.eq_detail id name)

theorem exists_outcome_profile_iff :
    (∃ found, (fleet.profile platform).outcome = .ok found) ↔
      ∀ user, Commands fleet user →
        FindsNone platform (Character.Endpoints.primary user) ∨
          ∃ profile, Answers platform (Character.Endpoints.primary user) profile := by
  have same {user user' : UserId} (commands : Commands fleet user)
      (commands' : Commands fleet user') : user = user' :=
    Option.some.inj (commands.1.symm.trans commands'.1)
  simp only [outcome_profile_eq_ok]
  constructor
  · rintro ⟨found, ⟨user', profile, commands', answers, -⟩ | ⟨none, -⟩⟩ user commands
    · exact .inr ⟨profile, same commands' commands ▸ answers⟩
    · exact .inl (none user commands)
  · intro each
    by_cases commanded : ∃ user, Commands fleet user
    · obtain ⟨user, commands⟩ := commanded
      rcases each user commands with none | ⟨profile, answers⟩
      · exact ⟨_, .inr ⟨fun user' commands' => same commands commands' ▸ none, rfl⟩⟩
      · exact ⟨_, .inl ⟨user, profile, commands, answers, rfl⟩⟩
    · exact ⟨_, .inr ⟨fun user commands => absurd ⟨user, commands⟩ commanded, rfl⟩⟩

theorem exists_outcome_doctrine_iff :
    (∃ found, (fleet.doctrine platform).outcome = .ok found) ↔
      ∀ id, fleet.doctrineId = some id →
        ∃ doctrine, Answers platform (Doctrine.Endpoints.byId id) doctrine := by
  simp only [outcome_doctrine_eq_ok]
  cases fleet.doctrineId with
  | none => simp
  | some id => simp

theorem exists_outcome_resolved_iff :
    (∃ detail, (fleet.resolved platform locale).outcome = .ok detail) ↔
      (∃ found, (fleet.profile platform).outcome = .ok found) ∧
        ∃ found, (fleet.doctrine platform).outcome = .ok found := by
  simp only [resolved, Exchange.outcome_bind_eq_ok, Exchange.outcome_both_eq_ok]
  constructor
  · rintro ⟨detail, found, ⟨profiled, known⟩, -⟩
    exact ⟨⟨_, profiled⟩, _, known⟩
  · rintro ⟨⟨found, profiled⟩, foundDoctrine, known⟩
    exact ⟨_, (found, foundDoctrine), ⟨profiled, known⟩, rfl⟩

theorem failed_of_outcome_resolved
    (failed : (fleet.resolved platform locale).outcome = .error failure) :
    (∃ user, Commands fleet user ∧
        (Character.primary? platform user).outcome = .error failure) ∨
      ∃ id, fleet.doctrineId = some id ∧
        (platform.ask (Doctrine.Endpoints.byId id)).outcome = .error failure := by
  rcases Exchange.outcome_bind_eq_error.mp failed with failed | ⟨found, -, failed⟩
  · rcases Exchange.failed_of_outcome_both failed with failed | failed
    · exact .inl (commands_of_outcome_profile failed)
    · exact .inr (named_of_outcome_doctrine failed)
  · cases failed

theorem sent_resolved :
    (fleet.resolved platform locale).sent =
      (fleet.profile platform).sent ++ (fleet.doctrine platform).sent := by
  have both : (fleet.resolved platform locale).sent =
      ((fleet.profile platform).both (fleet.doctrine platform)).sent := by
    cases found : ((fleet.profile platform).both (fleet.doctrine platform)).outcome with
    | error failure => exact (Exchange.bind_of_error found).2
    | ok found' => exact (Exchange.bind_of_ok found).2.trans (List.append_nil _)
  rw [both, Exchange.sent_both]

/-- Asking for one fleet comes to what the responses to its requests say. -/
theorem detailById_resolved (platform : Platform) (token : String) (id : FleetId)
    (locale : Locale) :
    DetailResolved platform (Endpoints.byId token id) locale
      (detailById platform token id locale) := by
  rw [detailById_eq]
  refine ⟨?_, fun detail => ?_, fun failure failed => ?_, fun unanswered => ?_,
    fun fleet answers => ?_⟩
  · simp only [Exchange.outcome_bind_eq_ok, outcome_ask_eq_ok]
    rw [exists_comm]
    refine exists_congr fun fleet => ?_
    rw [← exists_outcome_profile_iff, ← exists_outcome_doctrine_iff,
      ← exists_outcome_resolved_iff, exists_and_left]
  · simp only [Exchange.outcome_bind_eq_ok, outcome_ask_eq_ok, outcome_resolved_eq_ok]
  · rcases Exchange.outcome_bind_eq_error.mp failed with failed | ⟨fleet, answered, failed⟩
    · exact .inl failed
    · exact .inr ⟨fleet, outcome_ask_eq_ok.mp answered, failed_of_outcome_resolved failed⟩
  · cases found : (platform.ask (Endpoints.byId token id)).outcome with
    | ok fleet => exact absurd (outcome_ask_eq_ok.mp found) (unanswered fleet)
    | error failure =>
      rw [(Exchange.bind_of_error found).2, Platform.ask, sent_call_eq]
  · have answered := outcome_ask_eq_ok.mpr answers
    obtain ⟨request, built⟩ := exists_request?_of_call answered
    refine ⟨request, _, _, built, sentFor_profile built, sentFor_doctrine built, ?_⟩
    rw [(Exchange.bind_of_ok answered).2, sent_resolved, Platform.ask, sent_call_eq, built]
    rfl

/-- A platform that knows one fleet, and nobody. -/
def onlyFleet : Platform where
  settings :=
    ⟨"http://localhost", none, "", false, true, "", "", none, none, none, none, "", none⟩
  network :=
    { reply request :=
        if request.url.path = "/api/fleets/5" then
          .response ⟨299, by decide⟩ (Text.utf8 ("\x7b\"id\":5,\"audience\":\"all\"," ++
            "\"start_time\":\"2024-01-01T00:00:00Z\",\"type\":\"training\"," ++
            "\"fleet_commander\":4\x7d").toList)
        else .response .notFound []
      delay _ := 0 }

theorem isSome_detailById_onlyFleet :
    (detailById onlyFleet "token" ⟨5⟩ .english).outcome.toOption.isSome := by
  decide +kernel

/-- The fleet is shown although its commander is not found. -/
theorem detailById_resolved_onlyFleet :
    ∃ fleet detail, Answers onlyFleet (Endpoints.byId "token" ⟨5⟩) fleet ∧
      DetailOf onlyFleet .english fleet detail := by
  have found := isSome_detailById_onlyFleet
  cases outcome : (detailById onlyFleet "token" ⟨5⟩ .english).outcome with
  | error failure =>
    rw [outcome] at found
    cases found
  | ok detail =>
    obtain ⟨fleet, answers, shown⟩ :=
      ((detailById_resolved onlyFleet "token" ⟨5⟩ .english).shows detail).mp outcome
    exact ⟨fleet, detail, answers, shown⟩

end Fleet

end Quartermaster
