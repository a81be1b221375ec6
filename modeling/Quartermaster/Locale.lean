import Quartermaster.Json.Codec
import Quartermaster.Text.Case

/-!
The languages of generated texts.
-/

namespace Quartermaster

inductive Locale
  | english
  | spanish
  deriving DecidableEq, Repr

namespace Locale

instance : Inhabited Locale := ⟨.english⟩

def code : Locale → String
  | .english => "en"
  | .spanish => "es"

def ofCode? : String → Option Locale
  | "en" => some .english
  | "es" => some .spanish
  | _ => none

/-- The language part of a code, which ends before the first hyphen or underscore. -/
def languagePart (code : List Char) : List Char :=
  code.takeWhile fun c => c ≠ '-' ∧ c ≠ '_'

/-- The language of a code in any case with any region; an unknown one is taken as English. -/
def ofCode (code : String) : Locale :=
  (ofCode? (String.ofList (Text.lower (languagePart code.toList)))).getD .english

def region : Locale → String
  | .english => "en_US"
  | .spanish => "es_ES"

def decimalMark : Locale → Char
  | .english => '.'
  | .spanish => ','

def groupMark : Locale → Char
  | .english => ','
  | .spanish => '.'

/-- Reading gives back the language that a code was written for. -/
theorem ofCode?_code (locale : Locale) : ofCode? locale.code = some locale := by
  cases locale <;> rfl

/--
Languages in documents: the code, or an object whose only member is the code with null.
-/
def codec : Json.Codec Locale where
  read depth document :=
    match document, depth with
    | .string (some code), _ => named code
    | .object ((some code, content) :: others), _ + 1 => do
      let locale ← named code
      match content with
      | .null => if others.isEmpty then return locale else .error .malformed
      | content => .error (Json.unexpected content)
    | _, _ => .error .malformed
  write locale := .ofString locale.code
where
  named (code : String) : Except Json.Flaw Locale :=
    match ofCode? code with
    | some locale => .ok locale
    | none => .error .mismatch

end Locale

end Quartermaster
