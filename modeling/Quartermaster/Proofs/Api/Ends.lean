import Quartermaster.Proofs.Api.Together

/-!
Which failure counts when exchanges run together, and that settling them loses none. As long as
each exchange is watched, the failure is that of the one that ends first (`FailsFirst`), and what
the exchanges come to is what they come to when their ends are taken one by one in the order of
time (`joined_ends`). Everything together is `collected`.
-/

namespace Quartermaster.Api.Exchange

variable {ε α : Type} {exchanges : List (Exchange ε α)} {failure : ε}

def Fails (exchange : Exchange ε α) : Prop := ∃ failure, exchange.outcome = .error failure

/-- An exchange fails with nothing failing before it; of those at the same time it is the first. -/
structure FirstFailure (before : List (Exchange ε α)) (exchange : Exchange ε α)
    (after : List (Exchange ε α)) (failure : ε) : Prop where
  failed : exchange.outcome = .error failure
  earlier : ∀ other ∈ before, other.Fails → exchange.elapsed < other.elapsed
  not_later : ∀ other ∈ after, other.Fails → exchange.elapsed ≤ other.elapsed

/-- The failure is that of the exchange that fails first. -/
def FailsFirst (exchanges : List (Exchange ε α)) (failure : ε) : Prop :=
  ∃ before exchange after,
    exchanges = before ++ exchange :: after ∧ FirstFailure before exchange after failure

theorem not_fails_iff {exchange : Exchange ε α} :
    ¬exchange.Fails ↔ ∃ value, exchange.outcome = .ok value := by
  unfold Fails
  cases exchange.outcome <;> simp

/-! ### The earliest failure -/

/-- The earliest failure is earlier than all before it and not later than any after it. -/
theorem exists_split_of_earliest {failures : List (Nat × ε)} {first : Nat × ε}
    (found : earliest failures = some first) :
    ∃ before after, failures = before ++ first :: after ∧
      (∀ other ∈ before, first.1 < other.1) ∧ ∀ other ∈ after, first.1 ≤ other.1 := by
  -- the head counts unless the earliest of the rest is sooner, so ties go to the front
  induction failures generalizing first with
  | nil => simp [earliest] at found
  | cons head rest ih =>
    rw [earliest] at found
    cases later : earliest rest with
    | none =>
      rw [later] at found
      obtain rfl := earliest_eq_none.mp later
      exact ⟨[], [], by simp [← Option.some.inj found], by simp, by simp⟩
    | some next =>
      obtain ⟨before, after, rfl, earlier, notLater⟩ := ih later
      rw [later] at found
      by_cases sooner : next.1 < head.1
      · obtain rfl := Option.some.inj ((if_pos sooner).symm.trans found)
        refine ⟨head :: before, after, rfl, fun other member => ?_, notLater⟩
        rcases List.mem_cons.mp member with rfl | member
        · exact sooner
        · exact earlier other member
      · obtain rfl := Option.some.inj ((if_neg sooner).symm.trans found)
        refine ⟨[], _, rfl, by simp, fun other member => ?_⟩
        have least : next.1 ≤ other.1 := by
          rcases List.mem_append.mp member with member | member
          · exact Nat.le_of_lt (earlier other member)
          · rcases List.mem_cons.mp member with rfl | member
            · exact Nat.le_refl _
            · exact notLater other member
        exact Nat.le_trans (Nat.not_lt.mp sooner) least

theorem earliest_of_split {before after : List (Nat × ε)} {first : Nat × ε}
    (earlier : ∀ other ∈ before, first.1 < other.1)
    (notLater : ∀ other ∈ after, first.1 ≤ other.1) :
    earliest (before ++ first :: after) = some first := by
  induction before with
  | nil =>
    rw [List.nil_append, earliest]
    cases later : earliest after with
    | none => rfl
    | some next => exact if_neg (Nat.not_lt.mpr (notLater next (mem_of_earliest later)))
  | cons head before ih =>
    rw [List.cons_append, earliest, ih fun other member => earlier other (.tail _ member)]
    exact if_pos (earlier head List.mem_cons_self)

theorem mem_failures {event : Nat × ε} :
    event ∈ exchanges.filterMap failure? ↔
      ∃ exchange ∈ exchanges, exchange.elapsed = event.1 ∧ exchange.outcome = .error event.2 := by
  obtain ⟨time, failure⟩ := event
  simp only [List.mem_filterMap, failure?_eq_some]

theorem FirstFailure.earliest_eq {before after : List (Exchange ε α)} {exchange : Exchange ε α}
    (first : FirstFailure before exchange after failure) :
    earliest ((before ++ exchange :: after).filterMap failure?) =
      some (exchange.elapsed, failure) := by
  have here : exchange.failure? = some (exchange.elapsed, failure) :=
    failure?_eq_some.mpr ⟨rfl, first.failed⟩
  rw [List.filterMap_append, List.filterMap_cons_some here]
  refine earliest_of_split (fun event member => ?_) (fun event member => ?_)
  · obtain ⟨other, among, time, failed⟩ := mem_failures.mp member
    exact time ▸ first.earlier other among ⟨_, failed⟩
  · obtain ⟨other, among, time, failed⟩ := mem_failures.mp member
    exact time ▸ first.not_later other among ⟨_, failed⟩

theorem failsFirst_of_earliest {time : Nat}
    (found : earliest (exchanges.filterMap failure?) = some (time, failure)) :
    FailsFirst exchanges failure := by
  obtain ⟨before, after, split, earlier, notLater⟩ := exists_split_of_earliest found
  obtain ⟨left, right, rfl, rfl, failures⟩ := List.filterMap_eq_append_iff.mp split
  obtain ⟨calm, exchange, rest, rfl, succeed, here, rfl⟩ := List.filterMap_eq_cons_iff.mp failures
  obtain ⟨rfl, failed⟩ := failure?_eq_some.mp here
  refine ⟨left ++ calm, exchange, rest, (List.append_assoc ..).symm, failed, ?_, ?_⟩
  · rintro other member ⟨failure', failed'⟩
    rcases List.mem_append.mp member with member | member
    · exact earlier (_, failure') (mem_failures.mpr ⟨other, member, rfl, failed'⟩)
    · obtain ⟨value, succeeded⟩ := failure?_eq_none.mp (succeed other member)
      rw [failed'] at succeeded
      cases succeeded
  · rintro other member ⟨failure', failed'⟩
    exact notLater (_, failure') (mem_failures.mpr ⟨other, member, rfl, failed'⟩)

theorem failsFirst_iff_earliest :
    FailsFirst exchanges failure ↔
      ∃ time, earliest (exchanges.filterMap failure?) = some (time, failure) := by
  constructor
  · rintro ⟨before, exchange, after, rfl, first⟩
    exact ⟨exchange.elapsed, first.earliest_eq⟩
  · rintro ⟨time, found⟩
    exact failsFirst_of_earliest found

/-- Of exchanges that are all watched, the one that fails first decides what they fail with. -/
theorem outcome_together_eq_error (few : exchanges.length ≤ watchedAtMost) :
    (together exchanges).outcome = .error failure ↔ FailsFirst exchanges failure := by
  have counted : countingFailure? exchanges = earliest (exchanges.filterMap failure?) := if_pos few
  rw [failsFirst_iff_earliest, ← counted]
  unfold together
  split
  · rename_i time failure' counts
    simp [counts]
  · rename_i none
    obtain ⟨values, yields⟩ := exists_values (countingFailure?_eq_none.mp none)
    simp [none, mapM_outcome_eq_ok.mpr yields]

/-! ### Ends in the order of time -/

/-- One exchange ends before another: in time or, at the same time, by its place. -/
def endsBefore (first second : Exchange ε α × Nat) : Bool :=
  first.1.elapsed < second.1.elapsed ||
    (first.1.elapsed == second.1.elapsed && first.2 ≤ second.2)

/-- The exchanges with their places, in the order in which they end. -/
def byTime (exchanges : List (Exchange ε α)) : List (Exchange ε α × Nat) :=
  exchanges.zipIdx.mergeSort endsBefore

/-- The ends of exchanges, one by one in the order of time. -/
def ends (exchanges : List (Exchange ε α)) : List (Except ε α × Nat) :=
  (byTime exchanges).map fun (exchange, place) => (exchange.outcome, place)

theorem endsBefore_iff {first second : Exchange ε α × Nat} :
    endsBefore first second = true ↔
      first.1.elapsed < second.1.elapsed ∨
        (first.1.elapsed = second.1.elapsed ∧ first.2 ≤ second.2) := by
  simp [endsBefore]

theorem pairwise_byTime : (byTime exchanges).Pairwise fun first second => endsBefore first second :=
  List.pairwise_mergeSort
    (fun first second third => by simp only [endsBefore_iff]; omega)
    (fun first second => by simp only [Bool.or_eq_true, endsBefore_iff]; omega)
    exchanges.zipIdx

theorem mem_byTime {exchange : Exchange ε α} {place : Nat} :
    (exchange, place) ∈ byTime exchanges ↔ exchanges[place]? = some exchange :=
  List.mem_mergeSort.trans List.mk_mem_zipIdx_iff_getElem?

theorem ends_perm : (ends exchanges).Perm (exchanges.map outcome).zipIdx := by
  rw [List.zipIdx_map]
  exact (List.mergeSort_perm exchanges.zipIdx endsBefore).map _

theorem exists_split_of_slotsAfter {count : Nat} {ends : List (Except ε α × Nat)}
    (failed : slotsAfter count ends = .error failure) :
    ∃ earlier place later, ends = earlier ++ (.error failure, place) :: later ∧
      ∀ ended ∈ earlier, ∃ value, ended.1 = .ok value := by
  induction ends using List.reverseRecOn with
  | nil => cases failed
  | append_singleton before last ih =>
    rw [slotsAfter_concat] at failed
    cases sofar : slotsAfter count before with
    | error failure' =>
      rw [sofar] at failed
      obtain rfl : failure' = failure := Except.error.inj failed
      obtain ⟨earlier, place, later, rfl, succeed⟩ := ih sofar
      exact ⟨earlier, place, later ++ [last], by simp, succeed⟩
    | ok slots =>
      obtain ⟨outcome, place⟩ := last
      rw [sofar] at failed
      cases outcome with
      | ok value => cases failed
      | error failure' =>
        obtain rfl : failure' = failure := Except.error.inj failed
        exact ⟨before, place, [], rfl, succeed_of_slotsAfter sofar⟩

theorem failsFirst_of_byTime {earlier later : List (Exchange ε α × Nat)} {exchange : Exchange ε α}
    {place : Nat} (order : byTime exchanges = earlier ++ (exchange, place) :: later)
    (succeed : ∀ ended ∈ earlier, ¬ended.1.Fails) (failed : exchange.outcome = .error failure) :
    FailsFirst exchanges failure := by
  have here : exchanges[place]? = some exchange := mem_byTime.mp (by simp [order])
  obtain ⟨within, rfl⟩ := List.getElem?_eq_some_iff.mp here
  -- an exchange that fails elsewhere ends later, by time or by place
  have ends_later {other : Nat} (inside : other < exchanges.length) (elsewhere : other ≠ place)
      (fails : exchanges[other].Fails) :
      endsBefore (exchanges[place], place) (exchanges[other], other) = true := by
    have among : (exchanges[other], other) ∈ byTime exchanges :=
      mem_byTime.mpr (List.getElem?_eq_getElem inside)
    have sorted : (earlier ++ (exchanges[place], place) :: later).Pairwise
        fun first second => endsBefore first second := order ▸ pairwise_byTime
    rw [order, List.mem_append, List.mem_cons] at among
    rcases among with among | same | among
    · exact absurd fails (succeed _ among)
    · exact absurd (congrArg Prod.snd same) elsewhere
    · exact List.rel_of_pairwise_cons (List.pairwise_append.mp sorted).2.1 among
  refine ⟨exchanges.take place, exchanges[place], exchanges.drop (place + 1), ?_, failed, ?_, ?_⟩
  · rw [← List.drop_eq_getElem_cons within, List.take_append_drop]
  · intro other member fails
    obtain ⟨index, bound, rfl⟩ := List.mem_take_iff_getElem.mp member
    have ordered := endsBefore_iff.mp (ends_later (by omega) (by omega) fails)
    simp only at ordered
    omega
  · intro other member fails
    obtain ⟨index, bound, rfl⟩ := List.mem_drop_iff_getElem.mp member
    have ordered := endsBefore_iff.mp (ends_later (by omega) (by omega) fails)
    simp only at ordered
    omega

/-- Exchanges that are all watched come to what their ends in the order of time come to. -/
theorem joined_ends (few : exchanges.length ≤ watchedAtMost) :
    joined exchanges.length (ends exchanges) = (together exchanges).outcome := by
  cases found : slotsAfter exchanges.length (ends exchanges) with
  | ok slots =>
    have accepted : joined exchanges.length (ends exchanges) = .ok (slots.filterMap id) := by
      rw [joined, found]
      rfl
    rw [accepted, (outcome_joined ends_perm _).mp accepted]
  | error failure =>
    have failed : joined exchanges.length (ends exchanges) = .error failure := by
      rw [joined, found]
      rfl
    obtain ⟨earlier, place, later, split, succeed⟩ := exists_split_of_slotsAfter found
    obtain ⟨sooner, rest, order, rfl, restEnds⟩ := List.map_eq_append_iff.mp split
    obtain ⟨⟨exchange, place'⟩, later', rfl, here, -⟩ := List.map_eq_cons_iff.mp restEnds
    obtain ⟨outcome, rfl⟩ := Prod.mk.inj here
    have calm : ∀ ended ∈ sooner, ¬ended.1.Fails := fun ended member =>
      not_fails_iff.mpr (succeed _ (List.mem_map_of_mem member))
    rw [failed, (outcome_together_eq_error few).mpr (failsFirst_of_byTime order calm outcome)]

/-! ### Everything together -/

/-- What exchanges come to that run together, and what they come to when they are settled. -/
structure Collected (exchanges : List (Exchange ε α)) : Prop where
  /-- Settled exchanges have their outcomes, each at its place. -/
  settled : ∀ {ε' : Type}, (settleAll exchanges : Exchange ε' _).outcome =
    .ok (exchanges.map outcome)
  /-- The places do not depend on the order in which the exchanges end. -/
  settled_in_any_order : ∀ {ε' : Type} (ends : List (Except ε' (Except ε α) × Nat)),
    ends.Perm ((exchanges.map Exchange.settled).map outcome).zipIdx →
      joined exchanges.length ends = (settleAll exchanges).outcome
  /-- There are values if no exchange fails, -/
  succeeds : (∃ values, (together exchanges).outcome = .ok values) ↔
    ∀ exchange ∈ exchanges, ¬exchange.Fails
  /-- and these are the settled outcomes, -/
  values : ∀ values, (together exchanges).outcome = .ok values ↔
    (settleAll exchanges : Exchange ε _).outcome = .ok (values.map .ok)
  /-- in whatever order the exchanges end. -/
  values_in_any_order : ∀ ends : List (Except ε α × Nat),
    ends.Perm (exchanges.map outcome).zipIdx →
      ∀ values, joined exchanges.length ends = .ok values ↔
        (together exchanges).outcome = .ok values
  /-- Otherwise one of the failures counts; -/
  fails : ∀ failure, (together exchanges).outcome = .error failure →
    ∃ exchange ∈ exchanges, exchange.outcome = .error failure
  /-- as long as all exchanges are watched, it is the first one, -/
  fails_first : exchanges.length ≤ 30 →
    ∀ failure, (together exchanges).outcome = .error failure ↔ FailsFirst exchanges failure
  /-- the one that is met when the ends come in by time. -/
  by_time : exchanges.length ≤ 30 →
    joined exchanges.length (ends exchanges) = (together exchanges).outcome

theorem exists_outcome_together_iff :
    (∃ values, (together exchanges).outcome = .ok values) ↔
      ∀ exchange ∈ exchanges, ¬exchange.Fails := by
  constructor
  · rintro ⟨values, yields⟩ exchange member ⟨failure, failed⟩
    exact failure_not_mem (outcome_together_eq_ok.mp yields) member failed
  · intro succeed
    obtain ⟨values, yields⟩ :=
      exists_values fun exchange member => not_fails_iff.mp (succeed exchange member)
    exact ⟨values, outcome_together_eq_ok.mpr yields⟩

/-- Exchanges together have all values in order or one failure, settled all outcomes in order. -/
theorem collected (exchanges : List (Exchange ε α)) : Collected exchanges where
  settled := rfl
  settled_in_any_order _ order := joined_settled order
  succeeds := exists_outcome_together_iff
  values values := by
    rw [outcome_together_eq_ok, outcome_settleAll, Except.ok.injEq]
  values_in_any_order _ order values := outcome_joined order values
  fails _ failed := exists_of_outcome_together failed
  fails_first few _ := outcome_together_eq_error few
  by_time few := joined_ends few

/-- Of two failures at the same time that of the earlier place counts. -/
theorem collected_tie :
    let exchanges : List (Exchange String Nat) :=
      [⟨[], 20, .error "first"⟩, ⟨[], 10, .ok 2⟩, ⟨[], 20, .error "third"⟩]
    exchanges.length ≤ 30 ∧ FailsFirst exchanges "first" := by
  intro exchanges
  have few : exchanges.length ≤ 30 := by decide
  exact ⟨few, ((collected exchanges).fails_first few "first").mp rfl⟩

end Quartermaster.Api.Exchange
