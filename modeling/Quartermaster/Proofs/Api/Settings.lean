import Mathlib.Data.List.Count
import Mathlib.Data.List.Nodup
import Quartermaster.Api.Settings

/-!
What the settings depend on: the values that each known name is given (`valuesOf`). As long as no
known name is given two of them, nothing else counts (`ofVariables_congr`): not the order of the
assignments, nor the case of names, nor names that are not known (`Equivalent`).
-/

namespace Quartermaster.Api

open Quartermaster.Text (lower)

variable {name : SettingName} {assignments other : List (String × String)}

/-- A text names a setting, in any case. -/
def Names (text : String) (name : SettingName) : Prop := lower text.toList = name.text.toList

instance (text : String) (name : SettingName) : Decidable (Names text name) :=
  inferInstanceAs (Decidable (lower text.toList = name.text.toList))

def valuesOf (name : SettingName) (assignments : List (String × String)) : List String :=
  (assignments.filter fun assignment => Names assignment.1 name).map Prod.snd

/-- No setting is assigned twice. -/
def NoneRepeated (assignments : List (String × String)) : Prop :=
  ∀ name, (valuesOf name assignments).length ≤ 1

/-- Assignments that differ in their order, in the case of names and in names of no setting. -/
inductive Equivalent : List (String × String) → List (String × String) → Prop
  | reordered {assignments other : List (String × String)} (perm : assignments.Perm other) :
    Equivalent assignments other
  | recased {text text' : String} (same : lower text.toList = lower text'.toList) (value : String)
    (rest : List (String × String)) : Equivalent ((text, value) :: rest) ((text', value) :: rest)
  | unknown {text : String} (stranger : ∀ name, ¬Names text name) (value : String)
    (rest : List (String × String)) : Equivalent ((text, value) :: rest) rest
  | symm {assignments other : List (String × String)}
    (equivalent : Equivalent assignments other) : Equivalent other assignments
  | trans {assignments between other : List (String × String)}
    (first : Equivalent assignments between) (second : Equivalent between other) :
    Equivalent assignments other

def firstMissing? (assignments : List (String × String)) : Option SettingName :=
  [SettingName.apiUrl, .appUrl].find? fun name => valuesOf name assignments = []

/-! ### Names -/

namespace SettingName

theorem lower_text (name : SettingName) : lower name.text.toList = name.text.toList := by
  cases name <;> decide

theorem ofText?_text (name : SettingName) : ofText? name.text = some name := by
  cases name <;> decide

theorem ofText?_eq_some_iff {text : String} : ofText? text = some name ↔ Names text name := by
  constructor
  · intro found
    have same := List.find?_some found
    rw [decide_eq_true_eq] at same
    rw [Names, same, String.toList_ofList]
  · intro named
    have same : lower text.toList = lower name.text.toList := named.trans (lower_text name).symm
    rw [← ofText?_text name, ofText?, ofText?, same]

end SettingName

/-! ### Values -/

theorem valuesOf_cons (name : SettingName) (text value : String)
    (rest : List (String × String)) : valuesOf name ((text, value) :: rest) =
      if Names text name then value :: valuesOf name rest else valuesOf name rest := by
  unfold valuesOf
  by_cases named : Names text name
  · rw [List.filter_cons_of_pos (by simpa using named), if_pos named, List.map_cons]
  · rw [List.filter_cons_of_neg (by simpa using named), if_neg named]

theorem Equivalent.valuesOf_perm (equivalent : Equivalent assignments other) (name : SettingName) :
    (valuesOf name assignments).Perm (valuesOf name other) := by
  induction equivalent with
  | reordered perm => exact (perm.filter _).map Prod.snd
  | @recased text text' same value rest =>
    have named : Names text name ↔ Names text' name := by rw [Names, Names, same]
    rw [valuesOf_cons, valuesOf_cons, if_congr named rfl rfl]
  | unknown stranger value rest => rw [valuesOf_cons, if_neg (stranger name)]
  | symm _ ih => exact ih.symm
  | trans _ _ ih ih' => exact ih.trans ih'

theorem Equivalent.valuesOf_eq (equivalent : Equivalent assignments other)
    (once : NoneRepeated assignments) (name : SettingName) :
    valuesOf name assignments = valuesOf name other := by
  have perm := equivalent.valuesOf_perm name
  have few := once name
  match values : valuesOf name assignments with
  | [] =>
    rw [values] at perm
    exact (List.nil_perm.mp perm).symm
  | [value] =>
    rw [values] at perm
    exact (List.perm_singleton.mp perm.symm).symm
  | _ :: _ :: _ =>
    rw [values] at few
    simp at few

/-! ### Reading the settings -/

namespace Settings

theorem known_cons (text value : String) (rest : List (String × String)) :
    known ((text, value) :: rest) =
      match SettingName.ofText? text with
      | some name => (name, value) :: known rest
      | none => known rest := by
  simp only [known, List.filterMap_cons]
  cases SettingName.ofText? text <;> rfl

theorem map_known (name : SettingName) (assignments : List (String × String)) :
    ((known assignments).filter (·.1 = name)).map Prod.snd = valuesOf name assignments := by
  induction assignments with
  | nil => rfl
  | cons assignment rest ih =>
    obtain ⟨text, value⟩ := assignment
    rw [known_cons, valuesOf_cons, ← ih]
    cases found : SettingName.ofText? text with
    | none =>
      have stranger : ¬Names text name := by
        rw [← SettingName.ofText?_eq_some_iff, found]
        nofun
      rw [if_neg stranger]
    | some other =>
      have named : Names text name ↔ other = name := by
        rw [← SettingName.ofText?_eq_some_iff, found, Option.some.injEq]
      by_cases same : other = name
      · rw [List.filter_cons_of_pos (by simpa using same), if_pos (named.mpr same), List.map_cons]
      · rw [List.filter_cons_of_neg (by simpa using same), if_neg (mt named.mp same)]

theorem lookup_eq_head? (name : SettingName) (values : List (SettingName × String)) :
    values.lookup name = ((values.filter (·.1 = name)).map Prod.snd).head? := by
  induction values with
  | nil => rfl
  | cons entry rest ih =>
    by_cases same : entry.1 = name
    · subst same
      rw [List.filter_cons_of_pos (by simp), List.lookup_cons_self]
      rfl
    · rw [List.filter_cons_of_neg (by simpa using same), List.lookup_cons, ih]
      have differs : (name == entry.1) = false := by simpa using Ne.symm same
      rw [differs]

theorem lookup_known (name : SettingName) (assignments : List (String × String)) :
    (known assignments).lookup name = (valuesOf name assignments).head? := by
  rw [lookup_eq_head?, map_known]

theorem firstRepeated?_eq_none_iff {values : List (SettingName × String)}
    {seen : List SettingName} : firstRepeated? values seen = none ↔
      (values.map Prod.fst).Nodup ∧ ∀ name ∈ values.map Prod.fst, name ∉ seen := by
  induction values generalizing seen with
  | nil => simp [firstRepeated?]
  | cons entry rest ih =>
    obtain ⟨name, value⟩ := entry
    rw [firstRepeated?]
    by_cases again : name ∈ seen
    · rw [if_pos again]
      refine iff_of_false nofun ?_
      rintro ⟨-, fresh⟩
      exact fresh name (by simp) again
    · rw [if_neg again, ih, List.map_cons, List.nodup_cons, List.forall_mem_cons]
      constructor
      · rintro ⟨distinct, fresh⟩
        have absent : name ∉ rest.map Prod.fst := fun member => fresh name member List.mem_cons_self
        exact ⟨⟨absent, distinct⟩, again,
          fun other member earlier => fresh other member (.tail _ earlier)⟩
      · rintro ⟨⟨absent, distinct⟩, -, fresh⟩
        refine ⟨distinct, ?_⟩
        intro other member
        rw [List.mem_cons, not_or]
        exact ⟨fun same => absent (same ▸ member), fresh other member⟩

theorem count_known (name : SettingName) (assignments : List (String × String)) :
    ((known assignments).map Prod.fst).count name = (valuesOf name assignments).length := by
  rw [← map_known, List.length_map, ← List.countP_eq_length_filter, List.count_eq_countP,
    List.countP_map]
  rfl

theorem firstRepeated?_known_iff :
    firstRepeated? (known assignments) [] = none ↔ NoneRepeated assignments := by
  rw [firstRepeated?_eq_none_iff, List.nodup_iff_count_le_one]
  simp only [count_known, List.not_mem_nil, not_false_eq_true, implies_true, and_true]
  rfl

/-- Without a repeated name the settings are made of the values of the known names. -/
theorem ofVariables_of_once (once : NoneRepeated assignments) :
    ofVariables assignments =
      match (valuesOf .apiUrl assignments).head?, (valuesOf .appUrl assignments).head? with
      | none, _ => .error (.missing .apiUrl)
      | some _, none => .error (.missing .appUrl)
      | some apiUrl, some appUrl =>
        .ok (ofValues apiUrl appUrl fun name => (valuesOf name assignments).head?) := by
  have fresh := firstRepeated?_known_iff.mpr once
  unfold ofVariables
  simp only [fresh, lookup_known]
  cases (valuesOf .apiUrl assignments).head? with
  | none => rfl
  | some apiUrl => cases (valuesOf .appUrl assignments).head? <;> rfl

/-- A repeated name comes before everything else. -/
theorem ofVariables_of_again (again : firstRepeated? (known assignments) [] = some name) :
    ofVariables assignments = .error (.duplicate name) := by
  unfold ofVariables
  simp only [again]
  rfl

theorem ofVariables_of_repeated (repeated : ¬NoneRepeated assignments) :
    ∃ name, ofVariables assignments = .error (.duplicate name) := by
  rw [← firstRepeated?_known_iff] at repeated
  obtain ⟨name, again⟩ := Option.ne_none_iff_exists'.mp repeated
  exact ⟨name, ofVariables_of_again again⟩

theorem ofVariables_congr (once : NoneRepeated assignments)
    (same : ∀ name, valuesOf name assignments = valuesOf name other) :
    ofVariables other = ofVariables assignments := by
  have once' : NoneRepeated other := by
    intro name
    rw [← same name]
    exact once name
  rw [ofVariables_of_once once, ofVariables_of_once once']
  simp only [same]

theorem ofVariables_of_equivalent (equivalent : Equivalent assignments other)
    (once : NoneRepeated assignments) :
    ofVariables other = ofVariables assignments :=
  ofVariables_congr once (equivalent.valuesOf_eq once)

theorem valuesOf_eq_singleton (once : NoneRepeated assignments) {name : SettingName}
    (present : valuesOf name assignments ≠ []) : ∃ value, valuesOf name assignments = [value] := by
  have few := once name
  cases values : valuesOf name assignments with
  | nil => exact absurd values present
  | cons value rest =>
    rw [values, List.length_cons] at few
    exact ⟨value, congrArg (value :: ·) (List.length_eq_zero_iff.mp (by omega))⟩

/-- Without a repeated name only a missing one keeps the settings from being read. -/
theorem ofVariables_cases (once : NoneRepeated assignments) :
    (∃ name, firstMissing? assignments = some name ∧
      ofVariables assignments = .error (.missing name)) ∨
    ∃ apiUrl appUrl, valuesOf .apiUrl assignments = [apiUrl] ∧
      valuesOf .appUrl assignments = [appUrl] ∧
      ofVariables assignments =
        .ok (ofValues apiUrl appUrl fun name => (valuesOf name assignments).head?) := by
  rw [ofVariables_of_once once]
  -- the address of the backend is asked for first
  by_cases noApi : valuesOf .apiUrl assignments = []
  · left
    refine ⟨.apiUrl, List.find?_cons_of_pos (by simpa using noApi), ?_⟩
    rw [noApi]
    rfl
  · obtain ⟨apiUrl, hasApi⟩ := valuesOf_eq_singleton once noApi
    by_cases noApp : valuesOf .appUrl assignments = []
    · left
      refine ⟨.appUrl, ?_, ?_⟩
      · rw [firstMissing?, List.find?_cons_of_neg (by simpa using noApi)]
        exact List.find?_cons_of_pos (by simpa using noApp)
      · rw [hasApi, noApp]
        rfl
    · obtain ⟨appUrl, hasApp⟩ := valuesOf_eq_singleton once noApp
      right
      refine ⟨apiUrl, appUrl, hasApi, hasApp, ?_⟩
      rw [hasApi, hasApp]
      rfl

theorem exists_ofVariables_iff : (∃ settings, ofVariables assignments = .ok settings) ↔
    (valuesOf .apiUrl assignments).length = 1 ∧ (valuesOf .appUrl assignments).length = 1 ∧
      NoneRepeated assignments := by
  constructor
  · rintro ⟨settings, read⟩
    by_cases once : NoneRepeated assignments
    · rcases ofVariables_cases once with ⟨name, -, failed⟩ | ⟨apiUrl, appUrl, hasApi, hasApp, -⟩
      · rw [failed] at read
        cases read
      · rw [hasApi, hasApp]
        exact ⟨rfl, rfl, once⟩
    · obtain ⟨name, failed⟩ := ofVariables_of_repeated once
      rw [failed] at read
      cases read
  · rintro ⟨oneApi, oneApp, once⟩
    rcases ofVariables_cases once with ⟨name, missing, -⟩ | ⟨apiUrl, appUrl, -, -, read⟩
    · have absent := List.find?_some missing
      have member := List.mem_of_find?_eq_some missing
      rw [decide_eq_true_eq] at absent
      simp only [List.mem_cons, List.not_mem_nil, or_false] at member
      rcases member with rfl | rfl
      · rw [absent] at oneApi
        cases oneApi
      · rw [absent] at oneApp
        cases oneApp
    · exact ⟨_, read⟩

/-- A flag that is assigned one value at most is on for the word true, or as it is unless set. -/
theorem flag_head?_iff {values : List String} (few : values.length ≤ 1) (unset : Bool) :
    flag values.head? unset = true ↔ values = ["true"] ∨ values = [] ∧ unset = true := by
  match values with
  | [] => simp [flag]
  | [value] => simp [flag]
  | _ :: _ :: _ => simp at few

/--
The settings are read just when each required name is given one value and no known name is given
two. Then neither order nor case nor unknown names change them, and a flag is on for the word true
alone or, where nothing is said, as it is by itself. If none is repeated the error names the first
required name without a value, again whatever the order.
-/
theorem ofVariables_by_values (assignments : List (String × String)) :
    ((∃ settings, ofVariables assignments = .ok settings) ↔
      (valuesOf .apiUrl assignments).length = 1 ∧ (valuesOf .appUrl assignments).length = 1 ∧
        NoneRepeated assignments) ∧
    (∀ settings, ofVariables assignments = .ok settings →
      (∀ other, Equivalent assignments other → ofVariables other = .ok settings) ∧
      (settings.prodErrorMessages = true ↔
        valuesOf .prodErrorMessages assignments = ["true"]) ∧
      (settings.disabledCcpwgl = true ↔
        valuesOf .disabledCcpwgl assignments = ["true"] ∨
          valuesOf .disabledCcpwgl assignments = [])) ∧
    ∀ error, ofVariables assignments = .error error → NoneRepeated assignments →
      ∃ name, firstMissing? assignments = some name ∧ error = .missing name ∧
        ∀ other, Equivalent assignments other → ofVariables other = .error (.missing name) := by
  refine ⟨exists_ofVariables_iff, ?_, ?_⟩
  · intro settings read
    obtain ⟨-, -, once⟩ := exists_ofVariables_iff.mp ⟨settings, read⟩
    refine ⟨fun other equivalent => (ofVariables_of_equivalent equivalent once).trans read, ?_⟩
    rcases ofVariables_cases once with ⟨name, -, failed⟩ | ⟨apiUrl, appUrl, -, -, made⟩
    · rw [failed] at read
      cases read
    · rw [made] at read
      cases read
      have production := flag_head?_iff (once .prodErrorMessages) false
      have disabled := flag_head?_iff (once .disabledCcpwgl) true
      simp only [Bool.false_eq_true, and_false, or_false] at production
      simp only [and_true] at disabled
      exact ⟨production, disabled⟩
  · intro error failed once
    rcases ofVariables_cases once with ⟨name, missing, failed'⟩ | ⟨apiUrl, appUrl, -, -, made⟩
    · rw [failed'] at failed
      cases failed
      exact ⟨name, missing, rfl,
        fun other equivalent => (ofVariables_of_equivalent equivalent once).trans failed'⟩
    · rw [made] at failed
      cases failed

/-- Names in any case, a repeated name of no setting, and one flag that is set. -/
def mixedCase : List (String × String) :=
  [("API_url", "http://api/"), ("x", "1"), ("App_Url", "http://app"),
    ("PROD_ERROR_MESSAGES", "true"), ("X", "2")]

theorem ofVariables_by_values_mixedCase :
    ∃ settings, ofVariables mixedCase = .ok settings ∧
      settings.prodErrorMessages = true ∧ settings.disabledCcpwgl = true ∧
      ofVariables mixedCase.reverse = .ok settings := by
  have once : NoneRepeated mixedCase := by
    intro name
    cases name <;> decide
  obtain ⟨readable, told, -⟩ := ofVariables_by_values mixedCase
  obtain ⟨settings, read⟩ := readable.mpr ⟨by decide, by decide, once⟩
  obtain ⟨same, production, disabled⟩ := told settings read
  refine ⟨settings, read, production.mpr (by decide), disabled.mpr (.inr (by decide)), ?_⟩
  exact same _ (.reordered mixedCase.reverse_perm.symm)

end Settings

end Quartermaster.Api
