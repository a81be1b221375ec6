import Quartermaster.Proofs.Api.Inquiries

/-!
What is told of refusals in production. What a refused question says is a text of what it was for,
of the status and of the body of the response (`failureText?_run`). It does not tell where the
question was put, nor the numbers, the query and the token that it was asked with: questions of one
method that are refused alike say the same (`refusals_alike`).
-/

namespace Quartermaster

open Http (Request Status)

namespace Api

variable {α β : Type}

def Exchange.failureText? (exchange : Exchange Failure α) : Option String :=
  exchange.failure?.map fun ending => ending.2.message

/-- What those questions are for that ask an error response for its own explanation. -/
def explainedLabels : List String :=
  ["Error fetching market characters", "Error fetching market expectations",
    "Error fetching fleet"]

/-- What the question is for that is answered by a response that says that nothing was found. -/
def answeredLabel : String := "Error fetching character"

def explanation? (label body : String) : Option String :=
  if label ∈ explainedLabels then detailOfBody? body else none

/-- What is told of a refusal in production, if it is told at all. -/
def refusalText? (label : String) (status : Status) (body : String) : Option String :=
  if label = answeredLabel ∧ status.code = 404 then none
  else
    some (label ++ ": " ++
      (explanation? label body).getD ("Request failed because " ++ status.reason))

/-- A platform that tells failures as in production refuses a question with a response. -/
structure Refuses (platform : Platform) (inquiry : Inquiry α) (status : Status)
    (body : Text.Bytes) : Prop where
  production : platform.settings.prodErrorMessages = true
  responds : ∃ request, (inquiry.run platform).sent = [request] ∧
    platform.network.reply request = .response status body
  bad : ¬(200 ≤ status.code ∧ status.code ≤ 299)

/-! ### Failures -/

theorem failureText?_of_error {exchange : Exchange Failure α} {failure : Failure}
    (failed : exchange.outcome = .error failure) :
    exchange.failureText? = some failure.message := by
  simp only [Exchange.failureText?, Exchange.failure?, failed, Option.map_some]

theorem failureText?_of_ok {exchange : Exchange Failure α} {value : α}
    (succeeded : exchange.outcome = .ok value) : exchange.failureText? = none := by
  simp only [Exchange.failureText?, Exchange.failure?, succeeded, Option.map_none]

/-! ### Labels -/

/-- Questions of one method differ at most in what they are asked with. -/
def SameMethod (inquiry : Inquiry α) (other : Inquiry β) : Prop :=
  inquiry.ctorIdx = other.ctorIdx

theorem SameMethod.label_eq {inquiry : Inquiry α} {other : Inquiry β}
    (same : SameMethod inquiry other) : inquiry.label = other.label := by
  cases inquiry <;> cases other <;> first | rfl | cases same

theorem explains_iff (inquiry : Inquiry α) :
    inquiry.explains = true ↔ inquiry.label ∈ explainedLabels := by
  cases inquiry <;> simp [Inquiry.explains, Inquiry.label, explainedLabels]

theorem isSome_ifMissing_iff (inquiry : Inquiry α) :
    inquiry.ifMissing.isSome = true ↔ inquiry.label = answeredLabel := by
  cases inquiry <;> simp [Inquiry.ifMissing, Inquiry.label, answeredLabel]

/-! ### Refusals -/

theorem explanation?_eq_some_iff {label body explanation : String} :
    explanation? label body = some explanation ↔
      label ∈ explainedLabels ∧ Explains body explanation := by
  rw [explanation?]
  by_cases asked : label ∈ explainedLabels
  · rw [if_pos asked, detailOfBody?_eq_some_iff]
    exact (and_iff_right asked).symm
  · rw [if_neg asked]
    exact iff_of_false nofun fun explained => asked explained.1

section Texts

variable {label body : String} {status : Status}
  (told : ¬(label = answeredLabel ∧ status.code = 404))

include told

theorem refusalText?_of_explains {explanation : String} (asked : label ∈ explainedLabels)
    (explained : Explains body explanation) :
    refusalText? label status body = some (label ++ ": " ++ explanation) := by
  rw [refusalText?, if_neg told, explanation?_eq_some_iff.mpr ⟨asked, explained⟩, Option.getD_some]

theorem refusalText?_of_not_explains
    (unexplained : ¬(label ∈ explainedLabels ∧ ∃ explanation, Explains body explanation)) :
    refusalText? label status body =
      some (label ++ ": " ++ ("Request failed because " ++ status.reason)) := by
  have silent : explanation? label body = none := by
    refine Option.eq_none_iff_forall_ne_some.mpr fun explanation found => ?_
    obtain ⟨asked, explained⟩ := explanation?_eq_some_iff.mp found
    exact unexplained ⟨asked, explanation, explained⟩
  rw [refusalText?, if_neg told, silent, Option.getD_none]

end Texts

/-- What a refused question says is a text of its label, the status and the body. -/
theorem failureText?_run {platform : Platform} {inquiry : Inquiry α} {status : Status}
    {body : Text.Bytes} (refuses : Refuses platform inquiry status body) :
    (inquiry.run platform).failureText? =
      refusalText? inquiry.label status (Text.decodeBody body) := by
  obtain ⟨production, ⟨request, sent, replied⟩, bad⟩ := refuses
  have judged := Inquiry.statusFirst_run inquiry sent replied
  by_cases missing : status.code = 404 ∧ inquiry.ifMissing.isSome
  · obtain ⟨code, answered⟩ := missing
    obtain ⟨value, found⟩ := Option.isSome_iff_exists.mp answered
    have label := (isSome_ifMissing_iff inquiry).mp answered
    rw [failureText?_of_ok ((judged.refused bad value).mpr ⟨code, found⟩), refusalText?,
      if_pos ⟨label, code⟩]
  · have told : ¬(inquiry.label = answeredLabel ∧ status.code = 404) := by
      rw [← isSome_ifMissing_iff]
      exact fun both => missing both.symm
    obtain ⟨failure, failed, explained | unexplained⟩ := judged.told bad missing
    · obtain ⟨explanation, asked, explained, message⟩ := explained
      rw [failureText?_of_error failed, message]
      exact (refusalText?_of_explains told ((explains_iff inquiry).mp asked) explained).symm
    · obtain ⟨unexplained, message⟩ := unexplained
      have hidden : (inquiry.answered platform.settings request status body).production = true :=
        production
      have silent : ¬(inquiry.explains = true ∧
          ∃ explanation, Explains (Text.decodeBody body) explanation) := unexplained
      rw [explains_iff] at silent
      rw [failureText?_of_error failed, message, if_pos hidden,
        refusalText?_of_not_explains told silent]
      rfl

/--
Two questions of one method, each put to a platform that tells failures as in production, say the
same when they are refused with the same status and body, wherever the platforms are reached and
whatever numbers, query and token the questions are asked with. What they say is a text of the label
of the method, the status and the body.
-/
theorem refusals_alike {platform platform' : Platform} {inquiry : Inquiry α} {other : Inquiry β}
    {status : Status} {body : Text.Bytes} (same : SameMethod inquiry other)
    (refuses : Refuses platform inquiry status body)
    (refuses' : Refuses platform' other status body) :
    (inquiry.run platform).failureText? = (other.run platform').failureText? ∧
      inquiry.label = other.label ∧
      (inquiry.run platform).failureText? =
        refusalText? inquiry.label status (Text.decodeBody body) := by
  have label := same.label_eq
  have text := failureText?_run refuses
  have text' := failureText?_run refuses'
  refine ⟨?_, label, text⟩
  rw [text, text', label]

def productionAt (apiUrl : String) : Settings :=
  ⟨apiUrl, none, "", true, true, "", "", none, none, none, none, "", none⟩

-- the addresses are read letter by letter
set_option maxRecDepth 2000 in
theorem isSome_request?_productionAt :
    ((Market.Endpoints.characters "token").request?
        (productionAt "http://localhost").backend).isSome ∧
      ((Market.Endpoints.characters "secret").request?
        (productionAt "http://backend:8000").backend).isSome := ⟨by rfl, by rfl⟩

theorem refuses_marketCharacters {settings : Settings} {token : String} {status : Status}
    (body : Text.Bytes) (production : settings.prodErrorMessages = true)
    (built : ((Market.Endpoints.characters token).request? settings.backend).isSome)
    (bad : ¬(200 ≤ status.code ∧ status.code ≤ 299)) :
    Refuses ⟨settings, ⟨fun _ => .response status body, fun _ => 0⟩⟩
      (Inquiry.marketCharacters token) status body := by
  obtain ⟨request, built⟩ := Option.isSome_iff_exists.mp built
  refine ⟨production, ⟨request, ?_, rfl⟩, bad⟩
  refine (sent_call_eq ..).trans ?_
  exact congrArg Option.toList built

/-- A question with different tokens, put to backends at different addresses. -/
theorem refusals_alike_marketCharacters :
    let conflict : Status := ⟨409, by decide⟩
    let body := Text.utf8 "\x7b\"detail\": \" no access \"\x7d".toList
    let network : Network := ⟨fun _ => .response conflict body, fun _ => 0⟩
    let platform : Platform := ⟨productionAt "http://localhost", network⟩
    let platform' : Platform := ⟨productionAt "http://backend:8000", network⟩
    let inquiry := Inquiry.marketCharacters "token"
    let other := Inquiry.marketCharacters "secret"
    SameMethod inquiry other ∧ Refuses platform inquiry conflict body ∧
      Refuses platform' other conflict body ∧
      (inquiry.run platform).failureText? = (other.run platform').failureText? ∧
      inquiry.label = other.label ∧
      (inquiry.run platform).failureText? =
        refusalText? inquiry.label conflict (Text.decodeBody body) := by
  intro conflict body network platform platform' inquiry other
  obtain ⟨built, built'⟩ := isSome_request?_productionAt
  have bad : ¬(200 ≤ conflict.code ∧ conflict.code ≤ 299) := by decide
  have refuses := refuses_marketCharacters body rfl built bad
  have refuses' := refuses_marketCharacters body rfl built' bad
  exact ⟨rfl, refuses, refuses', refusals_alike rfl refuses refuses'⟩

end Api

end Quartermaster
