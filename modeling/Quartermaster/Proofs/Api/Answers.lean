import Quartermaster.Proofs.Api.Inquiries
import Quartermaster.Proofs.Url.Address

/-!
Which values an endpoint of the backend answers with: those that a response of success holds
(`outcome_ask_eq_ok`). Asking for the character of a user comes to none when the response says that
nothing was found (`outcome_primary?_eq_none`). All endpoints of the backend can be asked if one of
them can (`exists_request?_of_interface`).
-/

namespace Quartermaster

open Http (Request Status)

namespace Api

variable {α β : Type} {platform : Platform} {endpoint : Endpoint α}

/-- An endpoint of the backend is asked, and a response comes back. -/
def Responds (platform : Platform) (endpoint : Endpoint α) (status : Status) (body : Text.Bytes) :
    Prop :=
  ∃ request, endpoint.request? platform.settings.backend = some request ∧
    platform.network.reply request = .response status body

/-- An endpoint of the backend answers with success and a body that holds a value. -/
def Answers (platform : Platform) (endpoint : Endpoint α) (value : α) : Prop :=
  ∃ status body, Responds platform endpoint status body ∧
    (200 ≤ status.code ∧ status.code ≤ 299) ∧
    endpoint.answer.decode (Text.decodeBody body) = .ok value

/-- An endpoint of the backend answers that there is nothing. -/
def FindsNone (platform : Platform) (endpoint : Endpoint α) : Prop :=
  ∃ status body, Responds platform endpoint status body ∧ status.code = 404

theorem outcome_ask_eq_ok {value : α} :
    (platform.ask endpoint).outcome = .ok value ↔ Answers platform endpoint value := by
  constructor
  · intro succeeded
    obtain ⟨request, built⟩ := exists_request?_of_call succeeded
    cases replied : platform.network.reply request with
    | unreachable =>
      simp only [Platform.ask, Endpoint.call, built, Endpoint.receive, replied] at succeeded
      cases succeeded
    | response status body =>
      have judged := statusFirst_call built replied
      by_cases good : 200 ≤ status.code ∧ status.code ≤ 299
      · have decoded := (judged.accepted good value).mp succeeded
        exact ⟨status, body, ⟨request, built, replied⟩, good, decoded⟩
      · obtain ⟨-, none⟩ := (judged.refused good value).mp succeeded
        cases none
  · rintro ⟨status, body, ⟨request, built, replied⟩, good, decoded⟩
    exact ((statusFirst_call built replied).accepted good value).mpr decoded

theorem findsNone_of_status? {failure : Failure}
    (failed : (platform.ask endpoint).outcome = .error failure)
    (missing : failure.cause.status? = some .notFound) : FindsNone platform endpoint := by
  cases built : endpoint.request? platform.settings.backend with
  | none =>
    simp only [Platform.ask, Endpoint.call, built] at failed
    cases failed
    cases missing
  | some request =>
    cases replied : platform.network.reply request with
    | unreachable =>
      simp only [Platform.ask, Endpoint.call, built, Endpoint.receive, replied] at failed
      cases failed
      cases missing
    | response status body =>
      by_cases good : 200 ≤ status.code ∧ status.code ≤ 299
      · have accepted := (outcome_of_accepted built replied good).symm.trans failed
        cases decoded : endpoint.answer.decode (Text.decodeBody body) with
        | ok value =>
          rw [decoded] at accepted
          cases accepted
        | error flaw =>
          rw [decoded] at accepted
          cases accepted
          cases missing
      · have refused := (outcome_of_refused built replied good).symm.trans failed
        cases refused
        rw [status?_refusal] at missing
        have code := (Inquiry.eq_notFound_iff status).mp (Option.some.inj missing)
        exact ⟨status, body, ⟨request, built, replied⟩, code⟩

/-- If a request can be made to one endpoint of the interface, then to each without a token. -/
theorem exists_request?_of_interface {other : Endpoint β} {service : Service} {request : Request}
    {left right : String} (built : endpoint.request? service = some request)
    (here : endpoint.draft.address = "/api/" ++ left) (isLeft : Url.IsTail left.toList)
    (there : other.draft.address = "/api/" ++ right) (isRight : Url.IsTail right.toList)
    (free : other.draft.token = none) :
    ∃ request', other.request? service = some request' := by
  have readable := (Http.Draft.isSome_build?_iff _).mp (Option.isSome_of_eq_some built)
  refine Option.isSome_iff_exists.mp ((Http.Draft.isSome_build?_iff _).mpr ⟨?_, ?_⟩)
  · simp only [there]
    rw [Url.isSome_parse?_interface service.base isRight isLeft, ← here]
    exact readable.1
  · simp [free]

end Api

namespace Character

open Api

variable {platform : Platform} {user : UserId}

theorem outcome_primary?_eq_some {profile : CharacterProfile} :
    (primary? platform user).outcome = .ok (some profile) ↔
      Answers platform (Endpoints.primary user) profile := by
  rw [← outcome_ask_eq_ok, primary?]
  cases (platform.ask (Endpoints.primary user)).outcome with
  | ok found => simp
  | error failure =>
    simp only [reduceCtorEq, iff_false]
    split <;> simp

theorem outcome_primary?_eq_none :
    (primary? platform user).outcome = .ok none ↔
      FindsNone platform (Endpoints.primary user) := by
  constructor
  · intro none
    cases failed : (platform.ask (Endpoints.primary user)).outcome with
    | ok profile =>
      simp only [primary?, failed] at none
      cases none
    | error failure =>
      simp only [primary?, failed] at none
      by_cases missing : failure.cause.status? = some .notFound
      · exact findsNone_of_status? failed missing
      · rw [if_neg missing] at none
        cases none
  · rintro ⟨status, body, ⟨request, built, replied⟩, code⟩
    have refused := outcome_of_refused built replied (by omega)
    have missing := (Inquiry.eq_notFound_iff status).mpr code
    simp only [primary?, Platform.ask, refused, status?_refusal, missing, if_true]

end Character

end Quartermaster
