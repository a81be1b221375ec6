import Mathlib.Data.List.Induction
import Mathlib.Data.List.Nodup
import Quartermaster.Api.Exchange
import Quartermaster.Proofs.Each

/-!
Exchanges that run together yield their values at their places, in whatever order they end
(`outcome_joined`); when some of them fail, the failure of one of them counts.
-/

namespace Quartermaster.Api.Exchange

variable {ε α β : Type} {exchanges : List (Exchange ε α)} {failure : ε}

/-! ### Which failure counts -/

theorem earliest_eq_none {failures : List (Nat × ε)} : earliest failures = none ↔ failures = [] := by
  cases failures with
  | nil => simp [earliest]
  | cons head rest =>
    simp only [earliest]
    split
    · split <;> simp
    · simp

theorem mem_of_earliest {failures : List (Nat × ε)} {first : Nat × ε}
    (found : earliest failures = some first) : first ∈ failures := by
  induction failures with
  | nil => simp [earliest] at found
  | cons head rest ih =>
    simp only [earliest] at found
    split at found
    · rename_i time' failure' later
      split at found
      · exact List.mem_cons_of_mem _ (ih (later.trans found))
      · exact List.mem_cons.mpr (.inl (Option.some.inj found).symm)
    · exact List.mem_cons.mpr (.inl (Option.some.inj found).symm)

theorem failure?_eq_some {exchange : Exchange ε α} {time : Nat} :
    exchange.failure? = some (time, failure) ↔
      exchange.elapsed = time ∧ exchange.outcome = .error failure := by
  unfold failure?
  cases exchange.outcome <;> simp

theorem failure?_eq_none {exchange : Exchange ε α} :
    exchange.failure? = none ↔ ∃ value, exchange.outcome = .ok value := by
  unfold failure?
  cases exchange.outcome <;> simp

theorem countingFailure?_eq_none :
    countingFailure? exchanges = none ↔
      ∀ exchange ∈ exchanges, ∃ value, exchange.outcome = .ok value := by
  have noFailure : exchanges.filterMap failure? = [] ↔
      ∀ exchange ∈ exchanges, ∃ value, exchange.outcome = .ok value := by
    simp [List.filterMap_eq_nil_iff, failure?_eq_none]
  unfold countingFailure?
  split
  · exact earliest_eq_none.trans noFailure
  · exact List.head?_eq_none_iff.trans noFailure

theorem exists_of_countingFailure? {time : Nat}
    (counts : countingFailure? exchanges = some (time, failure)) :
    ∃ exchange ∈ exchanges, exchange.outcome = .error failure := by
  have present : (time, failure) ∈ exchanges.filterMap failure? := by
    unfold countingFailure? at counts
    split at counts
    · exact mem_of_earliest counts
    · exact List.mem_of_head? counts
  obtain ⟨exchange, member, failed⟩ := List.mem_filterMap.mp present
  exact ⟨exchange, member, (failure?_eq_some.mp failed).2⟩

/-! ### What exchanges come to together -/

theorem mapM_outcome_eq_ok {values : List α} :
    exchanges.mapM outcome = .ok values ↔ exchanges.map outcome = values.map .ok := by
  rw [mapM_eq_ok_iff, ← List.forall₂_eq_eq_eq, List.forall₂_map_left_iff,
    List.forall₂_map_right_iff]

theorem exists_forall₂ {ι β : Type} {fits : ι → β → Prop} {items : List ι}
    (each : ∀ item ∈ items, ∃ value, fits item value) :
    ∃ values, List.Forall₂ fits items values := by
  induction items with
  | nil => exact ⟨[], .nil⟩
  | cons item rest ih =>
    obtain ⟨value, here⟩ := each item List.mem_cons_self
    obtain ⟨values, later⟩ := ih fun other member => each other (.tail _ member)
    exact ⟨value :: values, .cons here later⟩

theorem exists_values (succeed : ∀ exchange ∈ exchanges, ∃ value, exchange.outcome = .ok value) :
    ∃ values : List α, exchanges.map outcome = values.map .ok := by
  obtain ⟨values, each⟩ := exists_forall₂ succeed
  refine ⟨values, ?_⟩
  rw [← List.forall₂_eq_eq_eq, List.forall₂_map_left_iff, List.forall₂_map_right_iff]
  exact each

theorem failure_not_mem {exchange : Exchange ε α} {values : List α}
    (succeed : exchanges.map outcome = values.map .ok) (member : exchange ∈ exchanges) :
    exchange.outcome ≠ .error failure := by
  intro failed
  have among : exchange.outcome ∈ values.map .ok := succeed ▸ List.mem_map_of_mem member
  obtain ⟨value, -, same⟩ := List.mem_map.mp among
  rw [failed] at same
  cases same

theorem outcome_together_eq_ok {values : List α} :
    (together exchanges).outcome = .ok values ↔ exchanges.map outcome = values.map .ok := by
  rw [← mapM_outcome_eq_ok]
  unfold together
  split
  · rename_i time failure counts
    obtain ⟨exchange, member, failed⟩ := exists_of_countingFailure? counts
    refine ⟨by simp, fun yields => ?_⟩
    exact absurd failed (failure_not_mem (mapM_outcome_eq_ok.mp yields) member)
  · rfl

/-- Exchanges together yield, item by item, the values of those of the items. -/
theorem outcome_together_map_eq_ok {ι : Type} {items : List ι} {part : ι → Exchange ε α}
    {values : List α} :
    (together (items.map part)).outcome = .ok values ↔
      List.Forall₂ (fun item value => (part item).outcome = .ok value) items values := by
  rw [outcome_together_eq_ok, ← List.forall₂_eq_eq_eq, List.forall₂_map_left_iff,
    List.forall₂_map_left_iff, List.forall₂_map_right_iff]

theorem exists_failure_of_mem {exchange : Exchange ε α} (member : exchange ∈ exchanges)
    (failed : exchange.outcome = .error failure) :
    ∃ failure', (together exchanges).outcome = .error failure' := by
  cases found : (together exchanges).outcome with
  | error failure' => exact ⟨failure', rfl⟩
  | ok values => exact absurd failed (failure_not_mem (outcome_together_eq_ok.mp found) member)

theorem exists_of_outcome_together (failed : (together exchanges).outcome = .error failure) :
    ∃ exchange ∈ exchanges, exchange.outcome = .error failure := by
  unfold together at failed
  split at failed
  · rename_i time failure' counts
    exact Except.error.inj failed ▸ exists_of_countingFailure? counts
  · rename_i none
    obtain ⟨values, yields⟩ := exists_values (countingFailure?_eq_none.mp none)
    simp [mapM_outcome_eq_ok.mpr yields] at failed

theorem sent_together (exchanges : List (Exchange ε α)) :
    (together exchanges).sent = exchanges.flatMap sent := by
  unfold together
  split <;> rfl

/-! ### Two exchanges together -/

variable {first : Exchange ε α} {second : Exchange ε β}

theorem sent_both (first : Exchange ε α) (second : Exchange ε β) :
    (first.both second).sent = first.sent ++ second.sent := by
  unfold both
  split <;> try rfl
  split <;> rfl

theorem outcome_both_eq_ok {values : α × β} :
    (first.both second).outcome = .ok values ↔
      first.outcome = .ok values.1 ∧ second.outcome = .ok values.2 := by
  unfold both
  cases first.outcome <;> cases second.outcome <;> simp [Prod.ext_iff]
  split <;> simp

theorem failed_of_outcome_both (failed : (first.both second).outcome = .error failure) :
    first.outcome = .error failure ∨ second.outcome = .error failure := by
  unfold both at failed
  split at failed
  · cases failed
  · rename_i here _
    exact .inl (here.trans (congrArg _ (Except.error.inj failed)))
  · rename_i there
    exact .inr (there.trans (congrArg _ (Except.error.inj failed)))
  · rename_i here there
    split at failed
    · exact .inl (here.trans (congrArg _ (Except.error.inj failed)))
    · exact .inr (there.trans (congrArg _ (Except.error.inj failed)))

/-! ### Ends as they come in -/

/-- An exchange ends: its value goes to its place, but the first failure ends them all. -/
def arrive (slots : Except ε (List (Option α))) (ended : Except ε α × Nat) :
    Except ε (List (Option α)) :=
  slots.bind fun slots => ended.1.bind fun value => .ok (slots.set ended.2 (some value))

def slotsAfter (count : Nat) (ends : List (Except ε α × Nat)) : Except ε (List (Option α)) :=
  ends.foldl arrive (.ok (List.replicate count none))

/-- What exchanges come to when they end one by one. -/
def joined (count : Nat) (ends : List (Except ε α × Nat)) : Except ε (List α) :=
  (slotsAfter count ends).map (·.filterMap id)

/-- The places hold the values of the exchanges that have ended, and no others. -/
structure Filled (count : Nat) (ends : List (Except ε α × Nat)) (slots : List (Option α)) :
    Prop where
  length : slots.length = count
  holds : ∀ place value, slots[place]? = some (some value) ↔ (.ok value, place) ∈ ends

variable {count place : Nat} {value : α} {ends : List (Except ε α × Nat)}

theorem Filled.nil : Filled count ([] : List (Except ε α × Nat)) (List.replicate count none) :=
  ⟨List.length_replicate, by simp [List.getElem?_replicate]⟩

theorem Filled.concat {slots : List (Option α)} (filled : Filled count ends slots)
    (fresh : place ∉ ends.map (·.2)) (within : place < count) :
    Filled count (ends ++ [(.ok value, place)]) (slots.set place (some value)) where
  length := by rw [List.length_set, filled.length]
  holds other held := by
    rw [List.mem_append, ← filled.holds, List.getElem?_set]
    by_cases same : place = other
    · subst same
      have vacant : slots[place]? ≠ some (some held) := fun found =>
        fresh (List.mem_map.mpr ⟨_, (filled.holds place held).mp found, rfl⟩)
      simp only [filled.length, within, if_true, vacant, false_or, List.mem_singleton, Prod.mk.injEq,
        Except.ok.injEq, Option.some.injEq, and_true]
      exact eq_comm
    · simp [same, Ne.symm same]

theorem slotsAfter_concat (ended : Except ε α × Nat) :
    slotsAfter count (ends ++ [ended]) = arrive (slotsAfter count ends) ended := by
  simp [slotsAfter]

/-- If no exchange fails, the places hold the values of all that have ended. -/
theorem exists_filled (distinct : (ends.map (·.2)).Nodup) (within : ∀ ended ∈ ends, ended.2 < count)
    (succeed : ∀ ended ∈ ends, ∃ value, ended.1 = .ok value) :
    ∃ slots, slotsAfter count ends = .ok slots ∧ Filled count ends slots := by
  induction ends using List.reverseRecOn with
  | nil => exact ⟨_, rfl, .nil⟩
  | append_singleton earlier last ih =>
    rw [List.map_append, List.nodup_append] at distinct
    obtain ⟨slots, sofar, filled⟩ := ih distinct.1
      (fun ended member => within ended (List.mem_append_left _ member))
      (fun ended member => succeed ended (List.mem_append_left _ member))
    obtain ⟨outcome, place⟩ := last
    obtain ⟨value, rfl⟩ := succeed _ List.mem_concat_self
    have fresh : place ∉ earlier.map (·.2) := fun seen =>
      distinct.2.2 place seen place (by simp) rfl
    refine ⟨slots.set place (some value), ?_, filled.concat fresh (within _ List.mem_concat_self)⟩
    rw [slotsAfter_concat, sofar]
    rfl

theorem succeed_of_slotsAfter {slots : List (Option α)}
    (accepted : slotsAfter count ends = .ok slots) :
    ∀ ended ∈ ends, ∃ value, ended.1 = .ok value := by
  induction ends using List.reverseRecOn generalizing slots with
  | nil => simp
  | append_singleton earlier last ih =>
    rw [slotsAfter_concat] at accepted
    cases sofar : slotsAfter count earlier with
    | error failure => simp [arrive, sofar, Except.bind] at accepted
    | ok before =>
      intro ended member
      rcases List.mem_append.mp member with seen | atEnd
      · exact ih sofar ended seen
      · rw [List.mem_singleton.mp atEnd]
        cases found : last.1 with
        | error failure => simp [arrive, sofar, found, Except.bind] at accepted
        | ok value => exact ⟨value, rfl⟩

theorem joined_eq_ok {values : List α} (yields : exchanges.map outcome = values.map .ok)
    (order : ends.Perm (exchanges.map outcome).zipIdx) :
    joined exchanges.length ends = .ok values := by
  have distinct : (ends.map (·.2)).Nodup := by
    rw [(order.map _).nodup_iff, List.zipIdx_map_snd]
    exact List.nodup_range'
  have within : ∀ ended ∈ ends, ended.2 < exchanges.length := fun ended member => by
    simpa using List.snd_lt_of_mem_zipIdx (order.mem_iff.mp member)
  have succeed : ∀ ended ∈ ends, ∃ value, ended.1 = .ok value := fun ended member => by
    have among := List.fst_mem_of_mem_zipIdx (order.mem_iff.mp member)
    rw [yields] at among
    obtain ⟨value, _, same⟩ := List.mem_map.mp among
    exact ⟨value, same.symm⟩
  obtain ⟨slots, accepted, filled⟩ := exists_filled distinct within succeed
  have full : slots = values.map some := by
    have counted : exchanges.length = values.length := by simpa using congrArg List.length yields
    refine List.ext_getElem (by rw [filled.length, counted, List.length_map]) fun place _ here => ?_
    rw [List.length_map] at here
    have came : (.ok values[place], place) ∈ ends := by
      rw [order.mem_iff, List.mk_mem_zipIdx_iff_getElem?, yields]
      simp [here]
    rw [List.getElem_map]
    exact List.getElem_eq_iff _ |>.mpr ((filled.holds place _).mpr came)
  rw [joined, accepted, full]
  simp [Except.map]

/-- In whatever order exchanges end, they yield what they come to together. -/
theorem outcome_joined (order : ends.Perm (exchanges.map outcome).zipIdx) (values : List α) :
    joined exchanges.length ends = .ok values ↔ (together exchanges).outcome = .ok values := by
  rw [outcome_together_eq_ok]
  refine ⟨fun accepted => ?_, fun yields => joined_eq_ok yields order⟩
  have succeed : ∀ exchange ∈ exchanges, ∃ value, exchange.outcome = .ok value := by
    intro exchange member
    obtain ⟨place, here⟩ := List.mem_iff_getElem?.mp (List.mem_map_of_mem (f := outcome) member)
    have came := order.mem_iff.mpr (List.mk_mem_zipIdx_iff_getElem?.mpr here)
    cases sofar : slotsAfter exchanges.length ends with
    | error failure => simp [joined, sofar, Except.map] at accepted
    | ok slots => exact succeed_of_slotsAfter sofar _ came
  obtain ⟨values', yields⟩ := exists_values succeed
  have same := (joined_eq_ok yields order).symm.trans accepted
  rw [yields, Except.ok.inj same]

/-- In whatever order exchanges end, they are settled at their places. -/
theorem joined_settled {ends : List (Except β (Except ε α) × Nat)}
    (order : ends.Perm ((exchanges.map settled).map outcome).zipIdx) :
    joined exchanges.length ends = (settleAll exchanges).outcome := by
  have yields : ((exchanges.map settled).map outcome : List (Except β (Except ε α))) =
      (exchanges.map outcome).map .ok := by
    simp [settled, Function.comp_def]
  simpa using joined_eq_ok yields order

end Quartermaster.Api.Exchange
