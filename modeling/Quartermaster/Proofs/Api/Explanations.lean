import Quartermaster.Proofs.Api.Inquiries
import Quartermaster.Proofs.Text.Blank

/-!
What the explanation of an error response tells. A detail that is a text is told only if something
is left of it without the blanks around it, and several messages have marks between them. So an
explanation is blank only if it is a single message of a validation report that is blank and has no
place (`blank_detailText?_iff`), and only then a call fails without a word about why
(`blank_explanation_iff`).
-/

namespace Quartermaster.Api

open Json (Value)
open Http (Request Status)

variable {α : Type} {detail entry : Value} {text left right : String}

def IsReadable (text : String) : Prop := ∃ c ∈ text.toList, Text.isBlank c = false

def HasMessage (entry : Value) : Prop := ∃ message, entry.member? "msg" = some (.string message)

/-- An entry of a validation report has a blank message and no place. -/
structure TellsNothing (entry : Value) : Prop where
  blank : ∃ message, entry.member? "msg" = some (.string message) ∧ ¬IsReadable message
  placeless : ∀ places, entry.member? "loc" = some (.array places) → places = []

/-- A validation report whose only message tells nothing. -/
def IsBlankReport (detail : Value) : Prop :=
  ∃ before entry after, detail = .array (before ++ entry :: after) ∧ TellsNothing entry ∧
    ∀ other ∈ before ++ after, ¬HasMessage other

/-! ### Readable texts -/

theorem isReadable_append : IsReadable (left ++ right) ↔ IsReadable left ∨ IsReadable right := by
  simp only [IsReadable, String.toList_append, List.mem_append, or_and_right, exists_or]

theorem isReadable_of_mem {c : Char} (visible : Text.isBlank c = false) (member : c ∈ text.toList) :
    IsReadable text := ⟨c, member, visible⟩

theorem isReadable_trim {text : List Char} (some : Text.trim text ≠ []) :
    IsReadable (String.ofList (Text.trim text)) := by
  by_contra blank
  apply some
  obtain ⟨before, after, cut, blankBefore, blankAfter⟩ := Text.exists_trim text
  have all : ∀ c ∈ text, Text.isBlank c = true := by
    intro c member
    rw [cut, List.mem_append, List.mem_append] at member
    rcases member with (front | kept) | behind
    · exact blankBefore c front
    · by_contra visible
      rw [Bool.not_eq_true] at visible
      exact blank (isReadable_of_mem visible (by rwa [String.toList_ofList]))
    · exact blankAfter c behind
  have dropped : Text.trimStart text = [] := List.dropWhile_eq_nil_iff.mpr all
  rw [Text.trim, dropped]
  rfl

/-! ### Messages -/

theorem placeOf?_eq_none_iff : placeOf? entry = none ↔
    ∀ places, entry.member? "loc" = some (.array places) → places = [] := by
  unfold placeOf?
  cases found : entry.member? "loc" with
  | none => exact iff_of_true rfl nofun
  | some value =>
    cases value with
    | array places =>
      cases last : places.getLast? with
      | none =>
        refine iff_of_true (by simp [Value.items?, last]) ?_
        rintro _ ⟨⟩
        exact List.getLast?_eq_none_iff.mp last
      | some place =>
        refine iff_of_false (by simp [Value.items?, last]) ?_
        intro empty
        rw [empty places rfl] at last
        cases last
    | _ => exact iff_of_true rfl nofun

theorem entryMessage?_of_message {message : String}
    (found : entry.member? "msg" = some (.string message)) :
    entryMessage? entry =
      some (match placeOf? entry with
        | some place => place ++ ": " ++ message
        | none => message) := by
  unfold entryMessage?
  rw [found]
  cases placeOf? entry <;> rfl

theorem entryMessage?_eq_none_iff : entryMessage? entry = none ↔ ¬HasMessage entry := by
  constructor
  · rintro none ⟨message, found⟩
    rw [entryMessage?_of_message found] at none
    cases none
  · intro absent
    unfold entryMessage?
    cases found : entry.member? "msg" with
    | none => rfl
    | some value =>
      cases value with
      | string message => exact absurd ⟨message, found⟩ absent
      | _ => rfl

/-- A place makes a message readable, as a mark stands behind it. -/
theorem tellsNothing_iff : TellsNothing entry ↔
    ∃ told, entryMessage? entry = some told ∧ ¬IsReadable told := by
  constructor
  · rintro ⟨⟨message, found, blank⟩, placeless⟩
    refine ⟨message, ?_, blank⟩
    rw [entryMessage?_of_message found, placeOf?_eq_none_iff.mpr placeless]
  · rintro ⟨told, given, blank⟩
    by_cases has : HasMessage entry
    · obtain ⟨message, found⟩ := has
      rw [entryMessage?_of_message found] at given
      cases placed : placeOf? entry with
      | some place =>
        rw [placed, Option.some.injEq] at given
        apply absurd _ blank
        rw [← given, isReadable_append, isReadable_append]
        exact .inl (.inr ⟨':', by decide, by decide⟩)
      | none =>
        rw [placed, Option.some.injEq] at given
        subst given
        exact ⟨⟨message, found, blank⟩, placeOf?_eq_none_iff.mp placed⟩
    · rw [entryMessage?_eq_none_iff.mpr has] at given
      cases given

/-- Several messages have a mark between them. -/
theorem isReadable_intercalate (first second : String) (others : List String) :
    IsReadable ("; ".intercalate (first :: second :: others)) := by
  rw [String.intercalate_cons_cons, isReadable_append, isReadable_append]
  exact .inl (.inr ⟨';', by decide, by decide⟩)

/-! ### Details -/

theorem detailText?_array (entries : List Value) : detailText? (.array entries) =
    if entries.filterMap entryMessage? = [] then none
    else some ("; ".intercalate (entries.filterMap entryMessage?)) := by
  simp only [detailText?]
  cases entries.filterMap entryMessage? with
  | nil => rw [if_pos rfl]
  | cons first others => rw [if_neg (List.cons_ne_nil first others)]

/-- What a report tells is blank just when it has one message, which tells nothing. -/
theorem blank_report_iff {entries : List Value} :
    (∃ told, detailText? (.array entries) = some told ∧ ¬IsReadable told) ↔
      ∃ told, entries.filterMap entryMessage? = [told] ∧ ¬IsReadable told := by
  rw [detailText?_array]
  cases entries.filterMap entryMessage? with
  | nil => simp
  | cons first others =>
    cases others with
    | nil => simp
    | cons second others =>
      have readable := isReadable_intercalate first second others
      refine iff_of_false ?_ (by rintro ⟨_, ⟨⟩, _⟩)
      rintro ⟨_, told, blank⟩
      rw [if_neg (by simp), Option.some.injEq] at told
      exact blank (told ▸ readable)

theorem isReadable_of_string {told : String} (given : detailText? (.string text) = some told) :
    IsReadable told := by
  have trimmed : detailText? (.string text) =
      if (Text.trim text.toList).isEmpty then none
      else some (String.ofList (Text.trim text.toList)) := rfl
  rw [trimmed] at given
  split at given
  · cases given
  · rename_i left
    cases given
    exact isReadable_trim (fun empty => left (List.isEmpty_iff.mpr empty))

theorem blank_detailText?_iff :
    (∃ told, detailText? detail = some told ∧ ¬IsReadable told) ↔ IsBlankReport detail := by
  cases detail with
  | array entries =>
    rw [blank_report_iff]
    constructor
    · rintro ⟨told, only, blank⟩
      obtain ⟨before, entry, after, rfl, silentBefore, given, silentAfter⟩ :=
        List.filterMap_eq_cons_iff.mp only
      refine ⟨before, entry, after, rfl, tellsNothing_iff.mpr ⟨told, given, blank⟩, ?_⟩
      intro other member
      rw [← entryMessage?_eq_none_iff]
      rcases List.mem_append.mp member with front | behind
      · exact silentBefore other front
      · exact List.filterMap_eq_nil_iff.mp silentAfter other behind
    · rintro ⟨before, entry, after, ⟨⟩, nothing, silent⟩
      obtain ⟨told, given, blank⟩ := tellsNothing_iff.mp nothing
      refine ⟨told, ?_, blank⟩
      have none : ∀ other ∈ before ++ after, entryMessage? other = .none := by
        intro other member
        exact entryMessage?_eq_none_iff.mpr (silent other member)
      refine List.filterMap_eq_cons_iff.mpr ⟨before, entry, after, rfl, ?_, given, ?_⟩
      · intro other front
        exact none other (List.mem_append_left _ front)
      · rw [List.filterMap_eq_nil_iff]
        intro other behind
        exact none other (List.mem_append_right _ behind)
  | string text =>
    refine iff_of_false ?_ (by rintro ⟨_, _, _, ⟨⟩, _⟩)
    rintro ⟨told, given, blank⟩
    exact blank (isReadable_of_string given)
  | _ => exact iff_of_false (by rintro ⟨_, ⟨⟩, _⟩) (by rintro ⟨_, _, _, ⟨⟩, _⟩)

/-! ### Calls that ask for an explanation -/

/-- The body of an error response has a detail that is a blank report. -/
def ExplainsBlankly (body : String) : Prop :=
  ∃ document detail, Value.parse? body = some document ∧
    document.member? "detail" = some detail ∧ IsBlankReport detail

theorem explainsBlankly_iff {body : String} : ExplainsBlankly body ↔
    ∃ told, Explains body told ∧ ¬IsReadable told := by
  constructor
  · rintro ⟨document, detail, read, member, blank⟩
    obtain ⟨told, given, unreadable⟩ := blank_detailText?_iff.mpr blank
    exact ⟨told, ⟨document, detail, read, member, given⟩, unreadable⟩
  · rintro ⟨told, ⟨document, detail, read, member, given⟩, unreadable⟩
    exact ⟨document, detail, read, member, blank_detailText?_iff.mp ⟨told, given, unreadable⟩⟩

theorem explains_unique {body told told' : String} (first : Explains body told)
    (second : Explains body told') : told = told' := by
  rw [← detailOfBody?_eq_some_iff] at first second
  exact Option.some.inj (first.symm.trans second)

def statusText (service : Service) (request : Request) (status : Status) : String :=
  (if service.production then "Request"
    else request.method.text ++ " " ++ request.url.text) ++ " failed because " ++ status.reason

theorem isReadable_statusText (service : Service) (request : Request) (status : Status) :
    IsReadable (statusText service request status) := by
  rw [statusText, isReadable_append, isReadable_append]
  exact .inl (.inr ⟨'f', by decide, by decide⟩)

section Refusal

variable (service : Service) (request : Request) (status : Status) {body : String}

theorem message_refusal_of_told {told : String} (given : Explains body told) :
    (refusal service true request status body).message = told := by
  rw [refusal_of_explains _ _ _ _ given]
  rfl

theorem message_refusal_of_silent (silent : ¬∃ told, Explains body told) :
    (refusal service true request status body).message = statusText service request status := by
  rw [refusal_of_not_explains _ _ _ _ (fun explained => silent explained.2), statusText]
  cases service.production <;> rfl

end Refusal

/--
A detail that is told is blank just when it is a blank report. A refused call that asks for an
explanation fails without a word just when its response has such a report; else it fails with a
readable explanation or, without any, with the words for its status.
-/
theorem blank_explanation_iff {endpoint : Endpoint α} {service : Service} {network : Network}
    {request : Request} {status : Status} {body : Text.Bytes} (explains : endpoint.explains = true)
    (built : endpoint.request? service = some request)
    (replied : network.reply request = .response status body)
    (bad : ¬(200 ≤ status.code ∧ status.code ≤ 299)) :
    (∀ detail : Value,
      (∃ told, detailText? detail = some told ∧ ¬IsReadable told) ↔ IsBlankReport detail) ∧
    ∃ failure, (endpoint.call service network).outcome = .error failure ∧
      failure.label = endpoint.label ∧
      (¬IsReadable failure.cause.message ↔ ExplainsBlankly (Text.decodeBody body)) ∧
      (Explains (Text.decodeBody body) failure.cause.message ∨
        (¬∃ told, Explains (Text.decodeBody body) told) ∧
          failure.cause.message = statusText service request status) := by
  refine ⟨fun detail => blank_detailText?_iff, _, outcome_of_refused built replied bad, rfl, ?_⟩
  rw [explains, explainsBlankly_iff]
  by_cases explained : ∃ told, Explains (Text.decodeBody body) told
  · obtain ⟨told, given⟩ := explained
    rw [message_refusal_of_told service request status given]
    refine ⟨⟨fun blank => ⟨told, given, blank⟩, ?_⟩, .inl given⟩
    rintro ⟨told', given', blank⟩
    rwa [explains_unique given given']
  · rw [message_refusal_of_silent service request status explained]
    have readable := isReadable_statusText service request status
    refine ⟨iff_of_false (not_not_intro readable) ?_, .inr ⟨explained, rfl⟩⟩
    rintro ⟨told, given, -⟩
    exact explained ⟨told, given⟩

/-- A refusal whose report has an empty message and no place. -/
theorem blank_explanation_iff_marketCharacters :
    let endpoint := Market.Endpoints.characters "token"
    let service : Service := ⟨"http://localhost", false⟩
    let unprocessable : Status := ⟨422, by decide⟩
    let body := Text.utf8 "\x7b\"detail\": [\x7b\"msg\": \"\"\x7d]\x7d".toList
    let network : Network := ⟨fun _ => .response unprocessable body, fun _ => 0⟩
    ∃ request, endpoint.explains = true ∧ endpoint.request? service = some request ∧
      network.reply request = .response unprocessable body ∧
      ¬(200 ≤ unprocessable.code ∧ unprocessable.code ≤ 299) ∧
      (∀ detail : Value,
        (∃ told, detailText? detail = some told ∧ ¬IsReadable told) ↔ IsBlankReport detail) ∧
      ∃ failure, (endpoint.call service network).outcome = .error failure ∧
        failure.label = endpoint.label ∧
        (¬IsReadable failure.cause.message ↔ ExplainsBlankly (Text.decodeBody body)) ∧
        (Explains (Text.decodeBody body) failure.cause.message ∨
          (¬∃ told, Explains (Text.decodeBody body) told) ∧
            failure.cause.message = statusText service request unprocessable) := by
  intro endpoint service unprocessable body network
  obtain ⟨request, built⟩ :=
    Option.isSome_iff_exists.mp Inquiry.isSome_request?_marketCharacters
  have bad : ¬(200 ≤ unprocessable.code ∧ unprocessable.code ≤ 299) := by decide
  have replied : network.reply request = .response unprocessable body := rfl
  exact ⟨request, rfl, built, replied, bad, blank_explanation_iff rfl built replied bad⟩

/-- A report with an empty message and no place is told, as an empty text. -/
theorem empty_message_is_told : ¬ ∀ (detail : Value) (told : String),
    detailText? detail = some told → IsReadable told := by
  intro readable
  let report : Value := .array [.object [("msg", .string "")]]
  have given : detailText? report = some "" := rfl
  obtain ⟨c, member, -⟩ := readable report "" given
  cases member

end Quartermaster.Api
