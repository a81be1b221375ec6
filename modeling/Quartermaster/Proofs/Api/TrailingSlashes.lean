import Quartermaster.Proofs.Api.Inquiries
import Quartermaster.Proofs.Api.Settings
import Quartermaster.Proofs.Each
import Quartermaster.Proofs.Text.Blank

/-!
Slashes at the end of addresses. Settings read from assignments whose addresses end in more slashes
are the same (`ofVariables_of_moreSlashes`), as every address is trimmed on its own, the public one
before it falls back to that of the backend. So nothing that is read from the settings and no
request tells how many slashes there were (`trailing_slashes_irrelevant`).
-/

namespace Quartermaster.Api

open Quartermaster.Text

variable {assignments other : List (String × String)} {name : SettingName}

/-- The settings that are addresses of the program's own services and pages. -/
def addresses : List SettingName := [.apiUrl, .apiPublicUrl, .appUrl, .esiUrl]

def slashes (count : Nat) : String := String.ofList (List.replicate count '/')

/-- Assignments whose addresses end in more slashes, each in as many more as there may be. -/
inductive MoreSlashes : List (String × String) → List (String × String) → Prop
  | nil : MoreSlashes [] []
  | kept {rest rest' : List (String × String)} (text value : String)
    (more : MoreSlashes rest rest') : MoreSlashes ((text, value) :: rest) ((text, value) :: rest')
  | longer {rest rest' : List (String × String)} {text : String} {name : SettingName}
    (named : Names text name) (address : name ∈ addresses) (value : String) (count : Nat)
    (more : MoreSlashes rest rest') :
    MoreSlashes ((text, value) :: rest) ((text, value ++ slashes count) :: rest')

/-- Nothing that is read from the settings, and no request, tells two of them apart. -/
structure Indistinguishable (settings settings' : Settings) : Prop where
  apiUrl : settings'.apiUrl = settings.apiUrl
  publicUrl : settings'.publicUrl = settings.publicUrl
  loginUrl : settings'.loginUrl = settings.loginUrl
  friendLoginUrl : settings'.friendLoginUrl = settings.friendLoginUrl
  pageUrl : ∀ path, settings'.pageUrl path = settings.pageUrl path
  prodErrorMessages : settings'.prodErrorMessages = settings.prodErrorMessages
  disabledCcpwgl : settings'.disabledCcpwgl = settings.disabledCcpwgl
  prodUrl : settings'.prodUrl = settings.prodUrl
  datetimeFormat : settings'.datetimeFormat = settings.datetimeFormat
  vapidPublicKey : settings'.vapidPublicKey = settings.vapidPublicKey
  vapidPrivateKey : settings'.vapidPrivateKey = settings.vapidPrivateKey
  vapidContact : settings'.vapidContact = settings.vapidContact
  sharedSecret : settings'.sharedSecret = settings.sharedSecret
  esiUrl : settings'.esiUrl = settings.esiUrl
  sunTypesFile : settings'.sunTypesFile = settings.sunTypesFile
  /-- Whatever is asked, the same requests are sent, on any network. -/
  sent : ∀ {α : Type} (inquiry : Inquiry α) (network network' : Network),
    (inquiry.run ⟨settings', network'⟩).sent = (inquiry.run ⟨settings, network⟩).sent

/-! ### Trimming -/

namespace Settings

theorem trimSlashes_append (address : String) (count : Nat) :
    trimSlashes (address ++ slashes count) = trimSlashes address := by
  have all : ∀ c ∈ List.replicate count '/', decide (c = '/') = true := by
    intro c member
    exact decide_eq_true (List.eq_of_mem_replicate member)
  rw [trimSlashes, trimSlashes, String.toList_append, slashes, String.toList_ofList,
    dropEndWhile_append _ all]

theorem getLast?_trimSlashes (address : String) :
    (trimSlashes address).toList.getLast? ≠ some '/' := by
  rw [trimSlashes, String.toList_ofList, dropEndWhile, List.getLast?_reverse]
  intro slash
  have stops := List.head?_dropWhile_not (fun c => decide (c = '/')) address.toList.reverse
  rw [slash] at stops
  simp at stops

end Settings

/-! ### Values -/

/-- A value and the same value with more slashes, if it is an address. -/
def MoreSlashed (name : SettingName) (value value' : String) : Prop :=
  value' = value ∨ name ∈ addresses ∧ ∃ count, value' = value ++ slashes count

theorem MoreSlashed.trim {value value' : String} (more : MoreSlashed name value value') :
    Settings.trimSlashes value' = Settings.trimSlashes value := by
  rcases more with rfl | ⟨-, count, rfl⟩
  · rfl
  · exact Settings.trimSlashes_append value count

theorem MoreSlashed.eq {value value' : String} (more : MoreSlashed name value value')
    (plain : name ∉ addresses) : value' = value :=
  more.resolve_right fun longer => plain longer.1

theorem map_trimSlashes_eq {value value' : Option String}
    (more : Option.Rel (MoreSlashed name) value value') :
    value'.map Settings.trimSlashes = value.map Settings.trimSlashes := by
  cases more with
  | none => rfl
  | some more => exact congrArg some more.trim

theorem eq_of_plain {value value' : Option String}
    (more : Option.Rel (MoreSlashed name) value value') (plain : name ∉ addresses) :
    value' = value := by
  cases more with
  | none => rfl
  | some more => exact congrArg some (more.eq plain)

theorem Names.unique {text : String} {name' : SettingName} (named : Names text name)
    (named' : Names text name') : name = name' := by
  rw [← SettingName.ofText?_eq_some_iff] at named named'
  exact Option.some.inj (named.symm.trans named')

/-- Each setting has the same values but for slashes. -/
theorem MoreSlashes.forall₂_valuesOf (more : MoreSlashes assignments other) (name : SettingName) :
    List.Forall₂ (MoreSlashed name) (valuesOf name assignments) (valuesOf name other) := by
  induction more with
  | nil => exact .nil
  | kept text value more ih =>
    rw [valuesOf_cons, valuesOf_cons]
    split
    · exact .cons (.inl rfl) ih
    · exact ih
  | @longer _ _ text name' named address value count more ih =>
    rw [valuesOf_cons, valuesOf_cons]
    split
    · rename_i same
      exact .cons (.inr ⟨named.unique same ▸ address, count, rfl⟩) ih
    · exact ih

theorem MoreSlashes.names_known (more : MoreSlashes assignments other) :
    (Settings.known other).map Prod.fst = (Settings.known assignments).map Prod.fst := by
  induction more with
  | nil => rfl
  | kept text value more ih =>
    rw [Settings.known_cons, Settings.known_cons]
    cases SettingName.ofText? text with
    | none => exact ih
    | some name => exact congrArg (name :: ·) ih
  | @longer _ _ text name named address value count more ih =>
    rw [Settings.known_cons, Settings.known_cons, SettingName.ofText?_eq_some_iff.mpr named]
    exact congrArg (name :: ·) ih

/-! ### Settings -/

namespace Settings

theorem firstRepeated?_congr {values values' : List (SettingName × String)}
    (same : values'.map Prod.fst = values.map Prod.fst) (seen : List SettingName) :
    firstRepeated? values' seen = firstRepeated? values seen := by
  induction values generalizing values' seen with
  | nil => rw [List.map_eq_nil_iff.mp same]
  | cons entry rest ih =>
    obtain ⟨entry', rest', rfl, first, others⟩ := List.map_eq_cons_iff.mp same
    rw [firstRepeated?, firstRepeated?, first, ih others]

/-- Settings are made of their values without the slashes at the end of addresses. -/
theorem ofValues_congr {apiUrl apiUrl' appUrl appUrl' : String}
    {optional optional' : SettingName → Option String}
    (api : MoreSlashed .apiUrl apiUrl apiUrl') (app : MoreSlashed .appUrl appUrl appUrl')
    (more : ∀ name, Option.Rel (MoreSlashed name) (optional name) (optional' name)) :
    ofValues apiUrl' appUrl' optional' = ofValues apiUrl appUrl optional := by
  have plain (name : SettingName) (other : name ∉ addresses) : optional' name = optional name :=
    eq_of_plain (more name) other
  have routing : trimSlashes ((optional' .esiUrl).getD defaultEsiUrl) =
      trimSlashes ((optional .esiUrl).getD defaultEsiUrl) := by
    rw [← Option.getD_map trimSlashes, ← Option.getD_map trimSlashes,
      map_trimSlashes_eq (more .esiUrl)]
  unfold ofValues
  rw [api.trim, app.trim, map_trimSlashes_eq (more .apiPublicUrl), routing,
    plain .prodErrorMessages (by decide), plain .disabledCcpwgl (by decide),
    plain .prodUrl (by decide), plain .datetimeFormat (by decide),
    plain .vapidPublicKey (by decide), plain .vapidPrivateKey (by decide),
    plain .vapidContact (by decide), plain .sharedSecret (by decide),
    plain .sunTypesFile (by decide)]

/-- Settings, and errors, are the same however many slashes the addresses end in. -/
theorem ofVariables_of_moreSlashes (more : MoreSlashes assignments other) :
    ofVariables other = ofVariables assignments := by
  have names := firstRepeated?_congr more.names_known []
  cases again : firstRepeated? (known assignments) [] with
  | some name => rw [ofVariables_of_again again, ofVariables_of_again (names.trans again)]
  | none =>
    have once := firstRepeated?_known_iff.mp again
    have once' := firstRepeated?_known_iff.mp (names.trans again)
    have heads (name : SettingName) := head?_of_forall₂ (more.forall₂_valuesOf name)
    have api := heads .apiUrl
    have app := heads .appUrl
    rw [ofVariables_of_once once, ofVariables_of_once once']
    generalize (valuesOf .apiUrl assignments).head? = apiUrl at api ⊢
    generalize (valuesOf .apiUrl other).head? = apiUrl' at api ⊢
    generalize (valuesOf .appUrl assignments).head? = appUrl at app ⊢
    generalize (valuesOf .appUrl other).head? = appUrl' at app ⊢
    cases api with
    | none => rfl
    | some api =>
      cases app with
      | none => rfl
      | some app => exact congrArg Except.ok (ofValues_congr api app heads)

theorem exists_trimSlashes {settings : Settings} (read : ofVariables assignments = .ok settings)
    {address : String}
    (member : address ∈ [settings.apiUrl, settings.publicUrl, settings.appUrl, settings.esiUrl]) :
    ∃ value, address = trimSlashes value := by
  obtain ⟨-, -, once⟩ := exists_ofVariables_iff.mp ⟨settings, read⟩
  rcases ofVariables_cases once with ⟨name, -, failed⟩ | ⟨apiUrl, appUrl, -, -, made⟩
  · rw [failed] at read
    cases read
  · rw [made] at read
    cases read
    simp only [List.mem_cons, List.not_mem_nil, or_false] at member
    rcases member with rfl | rfl | rfl | rfl
    · exact ⟨apiUrl, rfl⟩
    · exact ⟨((valuesOf .apiPublicUrl assignments).head?).getD apiUrl, Option.getD_map ..⟩
    · exact ⟨appUrl, rfl⟩
    · exact ⟨_, rfl⟩

end Settings

/-! ### Requests -/

section Sent

variable {α : Type} (settings : Settings) (network network' : Network)

theorem sent_ask_eq (endpoint : Endpoint α) :
    (Platform.ask ⟨settings, network'⟩ endpoint).sent =
      (Platform.ask ⟨settings, network⟩ endpoint).sent := by
  rw [Platform.ask, Platform.ask, sent_call_eq, sent_call_eq]

theorem sent_askRouting_eq (endpoint : Endpoint α) :
    (Platform.askRouting ⟨settings, network'⟩ endpoint).sent =
      (Platform.askRouting ⟨settings, network⟩ endpoint).sent := by
  rw [Platform.askRouting, Platform.askRouting, sent_call_eq, sent_call_eq]

theorem sent_run_eq (inquiry : Inquiry α) :
    (inquiry.run ⟨settings, network'⟩).sent = (inquiry.run ⟨settings, network⟩).sent := by
  cases inquiry with
  | characters users =>
    cases users with
    | nil => rfl
    | cons user others =>
      exact sent_ask_eq settings network network' (Character.Endpoints.primaries (user :: others))
  | character user =>
    exact sent_ask_eq settings network network' (Character.Endpoints.primary user)
  | route origin destination => exact sent_askRouting_eq ..
  | _ => exact sent_ask_eq ..

end Sent

/--
However many slashes are put at the end of the addresses, settings are read, the same is read from
them, and the same requests are sent with them. No address that is read from them ends in a slash.
-/
theorem trailing_slashes_irrelevant {settings : Settings} (more : MoreSlashes assignments other)
    (read : Settings.ofVariables assignments = .ok settings) :
    (∃ settings', Settings.ofVariables other = .ok settings') ∧
    (∀ settings', Settings.ofVariables other = .ok settings' →
      Indistinguishable settings settings') ∧
    ∀ address ∈ [settings.apiUrl, settings.publicUrl, settings.appUrl, settings.esiUrl],
      address.toList.getLast? ≠ some '/' := by
  have same := Settings.ofVariables_of_moreSlashes more
  refine ⟨⟨settings, same.trans read⟩, ?_, ?_⟩
  · intro settings' read'
    have equal : settings' = settings := Except.ok.inj (read'.symm.trans (same.trans read))
    subst equal
    constructor
    case sent =>
      intro α inquiry network network'
      exact sent_run_eq settings' network network' inquiry
    all_goals intros; rfl
  · intro address member
    obtain ⟨value, rfl⟩ := Settings.exists_trimSlashes read member
    exact Settings.getLast?_trimSlashes value

/-- Addresses under names in any case, and a page that is no address of the program. -/
def mixedAddresses : List (String × String) :=
  [("API_url", "http://api/"), ("Api_Public_Url", "http://public"), ("APP_URL", "http://app"),
    ("PROD_URL", "http://pages/"), ("esi_url", "http://esi")]

def mixedAddressesWithSlashes : List (String × String) :=
  [("API_url", "http://api/" ++ slashes 2), ("Api_Public_Url", "http://public" ++ slashes 1),
    ("APP_URL", "http://app" ++ slashes 3), ("PROD_URL", "http://pages/"),
    ("esi_url", "http://esi" ++ slashes 0)]

theorem trailing_slashes_irrelevant_mixedAddresses :
    ∃ settings, MoreSlashes mixedAddresses mixedAddressesWithSlashes ∧
      Settings.ofVariables mixedAddresses = .ok settings ∧
      (∃ settings', Settings.ofVariables mixedAddressesWithSlashes = .ok settings') ∧
      (∀ settings', Settings.ofVariables mixedAddressesWithSlashes = .ok settings' →
        Indistinguishable settings settings') ∧
      ∀ address ∈ [settings.apiUrl, settings.publicUrl, settings.appUrl, settings.esiUrl],
        address.toList.getLast? ≠ some '/' := by
  have more : MoreSlashes mixedAddresses mixedAddressesWithSlashes := by
    refine .longer (show Names _ .apiUrl by decide) (by decide) _ 2 ?_
    refine .longer (show Names _ .apiPublicUrl by decide) (by decide) _ 1 ?_
    refine .longer (show Names _ .appUrl by decide) (by decide) _ 3 (.kept _ _ ?_)
    exact .longer (show Names _ .esiUrl by decide) (by decide) _ 0 .nil
  have once : NoneRepeated mixedAddresses := by
    intro name
    cases name <;> decide
  obtain ⟨settings, read⟩ :=
    Settings.exists_ofVariables_iff.mpr ⟨by decide, by decide, once⟩
  exact ⟨settings, more, read, trailing_slashes_irrelevant more read⟩

end Quartermaster.Api
