import Quartermaster.Api.Endpoint

/-!
What the steps of an exchange send and come to: calling an endpoint, and going on after a step.
-/

namespace Quartermaster.Api

variable {α β : Type}

/-- Calling an endpoint sends its request, if it can be made, and nothing else. -/
theorem sent_call_eq (endpoint : Endpoint α) (service : Service) (network : Network) :
    (endpoint.call service network).sent = (endpoint.request? service).toList := by
  unfold Endpoint.call
  split
  · rename_i unbuildable
    rw [unbuildable]
    rfl
  · rename_i built
    rw [built]
    rfl

theorem request?_of_sent {endpoint : Endpoint α} {service : Service} {network : Network}
    {request : Http.Request} (sent : (endpoint.call service network).sent = [request]) :
    endpoint.request? service = some request := by
  rw [sent_call_eq] at sent
  cases built : endpoint.request? service with
  | none => simp [built] at sent
  | some only => simpa [built] using sent

theorem label_of_call {endpoint : Endpoint α} {service : Service} {network : Network}
    {failure : Failure} (failed : (endpoint.call service network).outcome = .error failure) :
    failure.label = endpoint.label := by
  unfold Endpoint.call at failed
  split at failed
  · cases failed
    rfl
  · rename_i request built
    cases received : endpoint.receive service request (network.reply request) with
    | ok value =>
      rw [received] at failed
      cases failed
    | error cause =>
      rw [received] at failed
      cases failed
      rfl

theorem exists_request?_of_call {endpoint : Endpoint α} {service : Service} {network : Network}
    {value : α} (succeeded : (endpoint.call service network).outcome = .ok value) :
    ∃ request, endpoint.request? service = some request := by
  cases built : endpoint.request? service with
  | some request => exact ⟨request, rfl⟩
  | none => simp [Endpoint.call, built] at succeeded

namespace Exchange

variable {ε : Type} {exchange : Exchange ε α} {next : α → Exchange ε β}

theorem bind_of_error {failure : ε} (failed : exchange.outcome = .error failure) :
    (exchange >>= next).outcome = .error failure ∧ (exchange >>= next).sent = exchange.sent := by
  change (exchange.andThen next).outcome = _ ∧ (exchange.andThen next).sent = _
  simp [andThen, failed]

theorem bind_of_ok {value : α} (succeeded : exchange.outcome = .ok value) :
    (exchange >>= next).outcome = (next value).outcome ∧
      (exchange >>= next).sent = exchange.sent ++ (next value).sent := by
  change (exchange.andThen next).outcome = _ ∧ (exchange.andThen next).sent = _
  simp [andThen, succeeded]

theorem outcome_bind_eq_ok {value : β} :
    (exchange >>= next).outcome = .ok value ↔
      ∃ middle, exchange.outcome = .ok middle ∧ (next middle).outcome = .ok value := by
  cases found : exchange.outcome with
  | error failure =>
    have stopped : (exchange >>= next).outcome = .error failure := (bind_of_error found).1
    simp [stopped]
  | ok middle =>
    have continued : (exchange >>= next).outcome = (next middle).outcome := (bind_of_ok found).1
    simp [continued]

theorem outcome_bind_eq_error {failure : ε} :
    (exchange >>= next).outcome = .error failure ↔
      exchange.outcome = .error failure ∨
        ∃ middle, exchange.outcome = .ok middle ∧ (next middle).outcome = .error failure := by
  cases found : exchange.outcome with
  | error failure' =>
    have stopped : (exchange >>= next).outcome = .error failure' := (bind_of_error found).1
    simp [stopped]
  | ok middle =>
    have continued : (exchange >>= next).outcome = (next middle).outcome := (bind_of_ok found).1
    simp [continued]

theorem outcome_map_eq_ok {f : α → β} {value : β} :
    (f <$> exchange).outcome = .ok value ↔
      ∃ middle, exchange.outcome = .ok middle ∧ f middle = value := by
  have asBind : f <$> exchange = exchange >>= fun middle => pure (f middle) := rfl
  rw [asBind, outcome_bind_eq_ok]
  exact exists_congr fun middle => and_congr_right fun _ => ⟨Except.ok.inj, congrArg Except.ok⟩

theorem outcome_map_eq_error {f : α → β} {failure : ε} :
    (f <$> exchange).outcome = .error failure ↔ exchange.outcome = .error failure := by
  have asBind : f <$> exchange = exchange >>= fun middle => pure (f middle) := rfl
  rw [asBind, outcome_bind_eq_error]
  refine or_iff_left ?_
  rintro ⟨middle, -, failed⟩
  cases failed

theorem sent_map (f : α → β) (exchange : Exchange ε α) : (f <$> exchange).sent = exchange.sent := by
  change (exchange.andThen (yields ∘ f)).sent = _
  unfold andThen
  split
  · rfl
  · exact List.append_nil _

end Exchange

end Quartermaster.Api
