import Quartermaster.Proofs.Json.Token

/-!
The text of a document is read back as the document (`parse?_compact`), however deep it nests. The
text is read twice: into tokens (`lexes_tokens`), and from the tokens into the document (`builds`),
both by induction on the document.
-/

namespace Quartermaster.Json

/-! ### Documents -/

/-- Induction on documents: over the items of an array and the values of an object. -/
theorem induction {motive : Json → Prop} (null : motive .null)
    (bool : ∀ value, motive (.bool value))
    (number : ∀ literal, motive (.number literal)) (string : ∀ text, motive (.string text))
    (array : ∀ items, (∀ item ∈ items, motive item) → motive (.array items))
    (object : ∀ members, (∀ member ∈ members, motive member.2) → motive (.object members)) :
    ∀ document, motive document
  | .null => null
  | .bool value => bool value
  | .number literal => number literal
  | .string text => string text
  | .array items => array items fun item _ =>
      induction null bool number string array object item
  | .object members => object members fun member _ =>
      induction null bool number string array object member.2
termination_by document => sizeOf document
decreasing_by
  · simp_wf
    have := List.sizeOf_lt_of_mem ‹item ∈ items›
    omega
  · simp_wf
    have := List.sizeOf_lt_of_mem ‹member ∈ members›
    obtain ⟨name, value⟩ := member
    simp at this ⊢
    omega

theorem endsNumber_mark (c : Char) (rest : List Char) (mark : c = ',' ∨ c = ']' ∨ c = '\x7d') :
    EndsNumber (c :: rest) := by
  rintro d ⟨⟩
  rcases mark with rfl | rfl | rfl <;> exact ⟨rfl, by decide, by decide, by decide⟩

theorem EndsNumber.nil : EndsNumber [] := nofun

/-- A document is read as its tokens, whatever follows that does not lengthen a number. -/
def LexesInFront (tokens : List Token) : Prop :=
  ∀ text more, Lexes text more → EndsNumber text →
    Lexes (tokens.flatMap Token.text ++ text) (tokens ++ more)

theorem LexesInFront.single (token : Token) : LexesInFront [token] := by
  intro text more lexes ends
  have first := lexes.cons token fun _ _ => ends
  simpa using first

theorem lexes_items {items : List Json} (each : ∀ item ∈ items, LexesInFront item.tokens) :
    LexesInFront (tokens.tokensOfItems items) := by
  intro text more lexes ends
  induction items with
  | nil => simpa [tokens.tokensOfItems] using lexes
  | cons item rest ih =>
    have here := each item (by simp)
    cases rest with
    | nil => exact here text more lexes ends
    | cons next others =>
      have there := ih fun item member => each item (List.mem_cons_of_mem _ member)
      have comma := there.cons .comma nofun
      have all := here _ _ comma (endsNumber_mark ',' _ (.inl rfl))
      simpa [tokens.tokensOfItems, Token.text] using all

theorem lexes_members {members : List Member}
    (each : ∀ member ∈ members, LexesInFront member.2.tokens) :
    LexesInFront (tokens.tokensOfMembers members) := by
  intro text more lexes ends
  induction members with
  | nil => simpa [tokens.tokensOfMembers] using lexes
  | cons member rest ih =>
    obtain ⟨name, value⟩ := member
    have here : LexesInFront value.tokens := each (name, value) (by simp)
    have named {text more} (lexes : Lexes text more) (ends : EndsNumber text) :
        Lexes ((Token.string name :: .colon :: value.tokens).flatMap Token.text ++ text)
          (Token.string name :: .colon :: value.tokens ++ more) := by
      have all := ((here _ _ lexes ends).cons .colon (by simp)).cons (.string name) (by simp)
      simpa using all
    cases rest with
    | nil => exact named lexes ends
    | cons next others =>
      have there := ih fun item member => each item (List.mem_cons_of_mem _ member)
      have all := named (there.cons .comma (by simp)) (endsNumber_mark ',' _ (.inl rfl))
      simpa [tokens.tokensOfMembers, Token.text] using all

theorem lexes_tokens (document : Json) : LexesInFront document.tokens := by
  induction document using Json.induction with
  | null => exact .single .null
  | bool value => exact .single (.bool value)
  | number literal => exact .single (.number literal)
  | string text => exact .single (.string text)
  | array items ih =>
    intro text more lexes _
    have close := lexes.cons .closeArray (by simp)
    have inside := lexes_items ih _ _ close (endsNumber_mark ']' _ (.inr (.inl rfl)))
    simpa [tokens, Token.text] using inside.cons .openArray (by simp)
  | object members ih =>
    intro text more lexes _
    have close := lexes.cons .closeObject (by simp)
    have inside := lexes_members ih _ _ close (endsNumber_mark '\x7d' _ (.inr (.inr rfl)))
    simpa [tokens, Token.text] using inside.cons .openObject (by simp)

/-! ### Building -/

def Builds (document : Json) : Prop :=
  ∀ stack rest, build? .value stack (document.tokens ++ rest) = build? (.after document) stack rest

theorem build?_firstItem (stack : List Open) {token : Token} (rest : List Token)
    (item : token ≠ .closeArray) :
    build? .firstItem stack (token :: rest) =
      build? .value (.array [] :: stack) (token :: rest) := by
  cases token <;> first | contradiction | rfl

theorem exists_head_items (item : Json) (others : List Json) :
    ∃ token rest, tokens.tokensOfItems (item :: others) = token :: rest ∧ token ≠ .closeArray := by
  cases others <;> cases item <;> simp [tokens.tokensOfItems, tokens]

theorem build?_items {items : List Json} (each : ∀ item ∈ items, Builds item) (some : items ≠ [])
    (before : List Json) (stack : List Open) (rest : List Token) :
    build? .value (.array before :: stack) (tokens.tokensOfItems items ++ .closeArray :: rest) =
      build? (.after (.array (before.reverse ++ items))) stack rest := by
  induction items generalizing before with
  | nil => contradiction
  | cons item others ih =>
    have here := each item (by simp)
    cases others with
    | nil =>
      rw [tokens.tokensOfItems, here, build?]
      simp
    | cons next others =>
      have there := ih (fun item member => each item (List.mem_cons_of_mem _ member)) nofun
        (item :: before)
      rw [tokens.tokensOfItems, List.append_assoc, here, List.cons_append, build?, there]
      · simp
      · nofun

theorem build?_members {members : List Member} (each : ∀ member ∈ members, Builds member.2)
    (some : members ≠ []) (before : List Member) (stack : List Open) (rest : List Token) :
    build? (.name before) stack (tokens.tokensOfMembers members ++ .closeObject :: rest) =
      build? (.after (.object (before.reverse ++ members))) stack rest := by
  induction members generalizing before with
  | nil => contradiction
  | cons member others ih =>
    obtain ⟨name, value⟩ := member
    have here : Builds value := each (name, value) (by simp)
    cases others with
    | nil =>
      rw [tokens.tokensOfMembers, List.cons_append, build?, List.cons_append, build?, here, build?]
      simp
    | cons next others =>
      have there := ih (fun item member => each item (List.mem_cons_of_mem _ member)) nofun
        ((name, value) :: before)
      simp only [tokens.tokensOfMembers, List.cons_append, List.append_assoc]
      rw [build?, build?, here, build?, there]
      simp

theorem builds (document : Json) : Builds document := by
  induction document using Json.induction with
  | null => exact fun _ _ => rfl
  | bool value => exact fun _ _ => rfl
  | number literal => exact fun _ _ => rfl
  | string text => exact fun _ _ => rfl
  | array items ih =>
    intro stack rest
    cases items with
    | nil => simp [tokens, tokens.tokensOfItems, build?]
    | cons item others =>
      obtain ⟨token, more, head, isItem⟩ := exists_head_items item others
      have inside := build?_items ih nofun [] stack rest
      rw [head, List.cons_append] at inside
      rw [tokens, head, List.cons_append, List.cons_append, List.append_assoc, build?,
        List.cons_append, build?_firstItem _ _ isItem]
      exact inside
  | object members ih =>
    intro stack rest
    cases members with
    | nil => simp [tokens, tokens.tokensOfMembers, build?]
    | cons member others =>
      have inside := build?_members ih nofun [] stack rest
      cases others <;> simpa [tokens, tokens.tokensOfMembers, build?] using inside

/-- The text of a document is read back as the document. -/
theorem parse?_compact (document : Json) : parse? document.compact = some document := by
  have lexed := (lexes_tokens document [] [] .nil .nil).tokens?
  have built := builds document [] []
  simp only [List.append_nil] at lexed built
  rw [parse?, compact, String.toList_ofList, lexed, Option.bind_some, built]
  rfl

end Quartermaster.Json
