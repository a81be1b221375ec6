import Mathlib.Data.List.Forall2
import Quartermaster.Fleet.Queries
import Quartermaster.Proofs.Api.Exchange
import Quartermaster.Proofs.Grouping

/-!
The fleets that a user may see, with their commanders by name. All commanders are asked for in one
request, and each fleet still gets the profile that asking for its commander alone would give
(`listings_by_commander`): what joins the two is the identifier of the user, of which the first
profile in the answer counts.
-/

namespace Quartermaster

open Api (Exchange Failure Platform)

namespace Fleet

variable {upcoming : Bool} {now : Calendar.Instant} {locale : Locale} {fleet : Fleet}
  {profiles : List CharacterProfile} {user : UserId}

/-! ### The fleets that are listed -/

/-- Has a commander, and is to come, tracked or has started. -/
def IsKept (upcoming : Bool) (now : Calendar.Instant) (fleet : Fleet) : Prop :=
  (∃ user, fleet.commanderId = some user ∧ 0 < user.number) ∧
    (upcoming = true ∨ fleet.tracking.isSome = true ∨ fleet.startTime.isBefore now = true)

theorem commander?_eq_some_iff :
    fleet.commander? = some user ↔ fleet.commanderId = some user ∧ 0 < user.number := by
  simp [commander?, Option.filter_eq_some_iff]

theorem isListed_iff : isListed upcoming now fleet = true ↔ IsKept upcoming now fleet := by
  have named : fleet.commander?.isSome = true ↔
      ∃ user, fleet.commanderId = some user ∧ 0 < user.number := by
    simp only [Option.isSome_iff_exists, commander?_eq_some_iff]
  simp only [isListed, IsKept, Bool.and_eq_true, Bool.or_eq_true, named, or_assoc]

instance : DecidablePred (IsKept upcoming now) := fun _ => decidable_of_iff _ isListed_iff

theorem filter_isListed (fleets : List Fleet) :
    fleets.filter (isListed upcoming now) = fleets.filter fun fleet => IsKept upcoming now fleet :=
  List.filter_congr fun fleet _ => by simp [← isListed_iff]

theorem filterMap_commander? {kept : List Fleet}
    (listed : ∀ fleet ∈ kept, IsKept upcoming now fleet) :
    kept.filterMap commander? = kept.filterMap (·.commanderId) := by
  refine List.filterMap_congr fun fleet member => ?_
  obtain ⟨⟨user, known, positive⟩, -⟩ := listed fleet member
  rw [known, commander?_eq_some_iff.mpr ⟨known, positive⟩]

/-! ### Their commanders -/

/-- A profile is the first of a list that is of a user. -/
def FirstProfile (user : UserId) (profiles : List CharacterProfile) (profile : CharacterProfile) :
    Prop :=
  profile.userId = some user ∧
    ∃ before after, profiles = before ++ profile :: after ∧
      ∀ other ∈ before, other.userId ≠ some user

/-- A fleet as it is listed, its commander by the profiles in the answer. -/
structure Shown (locale : Locale) (profiles : List CharacterProfile) (fleet : Fleet)
    (item : Listing) : Prop where
  id : item.id = fleet.id
  description : item.description = fleet.description
  audience : item.audience = fleet.audience
  doctrineId : item.doctrineId = fleet.doctrineId
  location : item.location = fleet.location
  startTime : item.startTime = fleet.startTime
  type : item.type = fleet.type
  tracking : item.tracking = fleet.tracking
  status : item.status = fleet.status
  commander : ∃ user, fleet.commanderId = some user ∧
    ((∃ profile, FirstProfile user profiles profile ∧
        item.commanderId = profile.characterId ∧ item.commanderName = profile.characterName) ∨
      (∀ profile ∈ profiles, profile.userId ≠ some user) ∧
        item.commanderId = ⟨0⟩ ∧ item.commanderName = Phrase.notAvailable.text locale)

theorem firstProfile_of_profileOf? {profile : CharacterProfile}
    (known : fleet.commanderId = some user) (found : profileOf? profiles fleet = some profile) :
    FirstProfile user profiles profile := by
  obtain ⟨own, before, after, split, others⟩ := List.find?_eq_some_iff_append.mp found
  rw [known] at own others
  refine ⟨by simpa using (Bool.and_eq_true_iff.mp own).2, before, after, split, ?_⟩
  intro other member same
  have apart := others other member
  simp [same] at apart

theorem ne_of_profileOf?_eq_none (known : fleet.commanderId = some user)
    (none : profileOf? profiles fleet = none) :
    ∀ profile ∈ profiles, profile.userId ≠ some user := by
  intro profile member same
  have other := List.find?_eq_none.mp none profile member
  simp [known, same] at other

theorem shown_listing (kept : IsKept upcoming now fleet) (profiles : List CharacterProfile) :
    Shown locale profiles fleet (fleet.listing locale (profileOf? profiles fleet)) := by
  obtain ⟨⟨user, known, -⟩, -⟩ := kept
  refine ⟨rfl, rfl, rfl, rfl, rfl, rfl, rfl, rfl, rfl, user, known, ?_⟩
  cases found : profileOf? profiles fleet with
  | some profile => exact .inl ⟨profile, firstProfile_of_profileOf? known found, rfl, rfl⟩
  | none => exact .inr ⟨ne_of_profileOf?_eq_none known found, rfl, rfl⟩

/-! ### The whole exchange -/

/-- The fleets kept, once they are known: their commanders are asked for and shown with them. -/
def shownFleets (platform : Platform) (locale : Locale) (kept : List Fleet) :
    Exchange Failure (List Listing) := do
  let profiles ← Character.primaries platform (commanders kept)
  return kept.map fun fleet => fleet.listing locale (profileOf? profiles fleet)

section Kept

variable {platform : Platform} {kept : List Fleet}
  (listed : ∀ fleet ∈ kept, IsKept upcoming now fleet)

include listed

/-- The commanders asked for are those of the fleets kept, each once. -/
theorem firstSeen_commanders : FirstSeen (commanders kept) (kept.filterMap (·.commanderId)) := by
  rw [commanders, filterMap_commander? listed]
  exact firstSeen_eraseDups _

theorem commanders_ne_nil (some : kept ≠ []) : commanders kept ≠ [] := by
  obtain ⟨fleet, rest, rfl⟩ := List.exists_cons_of_ne_nil some
  obtain ⟨⟨user, known, -⟩, -⟩ := listed fleet (by simp)
  have present : user ∈ commanders (fleet :: rest) :=
    ((firstSeen_commanders listed).mem user).mpr (by simp [known])
  exact List.ne_nil_of_mem present

theorem forall₂_shown (profiles : List CharacterProfile) :
    List.Forall₂ (Shown locale profiles) kept
      (kept.map fun fleet => fleet.listing locale (profileOf? profiles fleet)) := by
  induction kept with
  | nil => exact .nil
  | cons fleet rest ih =>
    exact .cons (shown_listing (listed fleet (by simp)) profiles)
      (ih fun other member => listed other (List.mem_cons_of_mem _ member))

/-- Commanders are asked for in one request, whose failure is that of the whole. -/
theorem shownFleets_of_ne_nil (some : kept ≠ []) :
    let endpoint := Character.Endpoints.primaries (commanders kept)
    let answered := platform.ask endpoint
    (shownFleets platform locale kept).sent =
      (endpoint.request? platform.settings.backend).toList ∧
    (∀ failure, answered.outcome = .error failure →
      (shownFleets platform locale kept).outcome = .error failure) ∧
    ∀ profiles, answered.outcome = .ok profiles →
      ∃ items, (shownFleets platform locale kept).outcome = .ok items ∧
        List.Forall₂ (Shown locale profiles) kept items := by
  intro endpoint answered
  have asked : Character.primaries platform (commanders kept) = answered := by
    have users := commanders_ne_nil listed some
    rw [Character.primaries, if_neg (by simpa using users)]
  have sent := Api.sent_call_eq endpoint platform.settings.backend platform.network
  simp only [shownFleets, asked]
  cases outcome : answered.outcome with
  | error failure =>
    obtain ⟨failed, stopped⟩ := Exchange.bind_of_error outcome
    refine ⟨stopped.trans sent, ?_, fun profiles other => by contradiction⟩
    rintro _ ⟨⟩
    exact failed
  | ok profiles =>
    obtain ⟨succeeded, nothingMore⟩ := Exchange.bind_of_ok outcome
    refine ⟨?_, fun failure other => by contradiction, ?_⟩
    · rw [nothingMore]
      exact (List.append_nil _).trans sent
    · rintro _ ⟨⟩
      exact ⟨_, succeeded, forall₂_shown listed _⟩

end Kept

end Fleet

end Quartermaster
