import Quartermaster.Http.Request

/-!
Exchanges with a network: what is sent, how long it takes and what it comes to. An exchange stops
at the first failure of its steps. Exchanges that run together are all started before any of them
ends, and the failure that ends first is the one that counts.

Time decides only between failures. What an exchange yields when nothing fails depends on the
values of its parts alone.
-/

namespace Quartermaster.Api

structure Exchange (ε α : Type) where
  sent : List Http.Request
  elapsed : Nat
  outcome : Except ε α

namespace Exchange

def yields (value : α) : Exchange ε α := ⟨[], 0, .ok value⟩

def fails (failure : ε) : Exchange ε α := ⟨[], 0, .error failure⟩

/-- One exchange after another, unless the first fails. -/
def andThen (exchange : Exchange ε α) (next : α → Exchange ε β) : Exchange ε β :=
  match exchange.outcome with
  | .error failure => ⟨exchange.sent, exchange.elapsed, .error failure⟩
  | .ok value =>
    let rest := next value
    ⟨exchange.sent ++ rest.sent, exchange.elapsed + rest.elapsed, rest.outcome⟩

instance : Monad (Exchange ε) where
  pure := yields
  bind := andThen

@[simp] theorem outcome_yields (value : α) : (yields value : Exchange ε α).outcome = .ok value := rfl

@[simp] theorem outcome_fails (failure : ε) :
    (fails failure : Exchange ε α).outcome = .error failure := rfl

/-- What a sequence comes to depends on what its steps come to, and not on when. -/
@[simp] theorem outcome_andThen (exchange : Exchange ε α) (next : α → Exchange ε β) :
    (exchange.andThen next).outcome = exchange.outcome.bind fun value => (next value).outcome := by
  cases found : exchange.outcome <;> simp [andThen, found, Except.bind]

/-- The exchange with its outcome as the value, so that it does not fail. -/
def settled (exchange : Exchange ε α) : Exchange ε' (Except ε α) :=
  ⟨exchange.sent, exchange.elapsed, .ok exchange.outcome⟩

def failure? (exchange : Exchange ε α) : Option (Nat × ε) :=
  match exchange.outcome with
  | .error failure => some (exchange.elapsed, failure)
  | .ok _ => none

/-- The earliest of some failures, the first in order of those that happen at the same time. -/
def earliest : List (Nat × ε) → Option (Nat × ε)
  | [] => none
  | (time, failure) :: rest =>
    match earliest rest with
    | some (time', failure') =>
      if time' < time then some (time', failure') else some (time, failure)
    | none => some (time, failure)

/-- How many exchanges are watched one by one; of more only the first one in order is. -/
def watchedAtMost : Nat := 30

/--
The failure that counts of exchanges that run together: the earliest, or the first in order if
there are too many to watch. That the first in order counts among failures at the same time is the
observed order, as is the time at which exchanges fail that are too many to watch; neither is
documented.
-/
def countingFailure? (exchanges : List (Exchange ε α)) : Option (Nat × ε) :=
  let failures := exchanges.filterMap failure?
  if exchanges.length ≤ watchedAtMost then earliest failures else failures.head?

def longest (exchanges : List (Exchange ε α)) : Nat :=
  (exchanges.map elapsed).foldl max 0

/-- Runs exchanges together. Values are in the order of the exchanges. -/
def together (exchanges : List (Exchange ε α)) : Exchange ε (List α) :=
  let sent := exchanges.flatMap Exchange.sent
  match countingFailure? exchanges with
  | some (time, failure) => ⟨sent, time, .error failure⟩
  | none => ⟨sent, longest exchanges, exchanges.mapM outcome⟩

/-- Runs exchanges together without minding failures. Outcomes are in the order of the exchanges. -/
def settleAll (exchanges : List (Exchange ε α)) : Exchange ε' (List (Except ε α)) :=
  ⟨exchanges.flatMap sent, longest exchanges, .ok (exchanges.map outcome)⟩

@[simp] theorem outcome_settleAll (exchanges : List (Exchange ε α)) :
    (settleAll exchanges : Exchange ε' _).outcome = .ok (exchanges.map outcome) := rfl

/--
Runs two exchanges together. Of two failures at the same time that of the second counts, which is
the observed order and not a documented one.
-/
def both (first : Exchange ε α) (second : Exchange ε β) : Exchange ε (α × β) :=
  let sent := first.sent ++ second.sent
  match first.outcome, second.outcome with
  | .ok value, .ok value' => ⟨sent, max first.elapsed second.elapsed, .ok (value, value')⟩
  | .error failure, .ok _ => ⟨sent, first.elapsed, .error failure⟩
  | .ok _, .error failure => ⟨sent, second.elapsed, .error failure⟩
  | .error failure, .error failure' =>
    if first.elapsed < second.elapsed then ⟨sent, first.elapsed, .error failure⟩
    else ⟨sent, second.elapsed, .error failure'⟩

end Exchange

end Quartermaster.Api
