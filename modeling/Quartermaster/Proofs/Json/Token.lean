import Mathlib.Data.Option.Basic
import Quartermaster.Json.Text
import Quartermaster.Proofs.Text.Numeral

/-!
Tokens read back from their texts (`readToken?_text`): every string, whatever has to be escaped in
it, and every number literal. A number ends where nothing follows that it could go on with, which
is why it needs to know what comes next.
-/

namespace Quartermaster.Json

open Text

/-! ### Strings -/

theorem hexValue?_hexDigit {n : Nat} (small : n < 16) :
    hexValue? (escapeChar.hexDigit n) = some n := by
  revert n
  decide

theorem unit?_controlChar {n : Nat} (control : n < 0x20) :
    unit? '0' '0' (escapeChar.hexDigit (n / 16)) (escapeChar.hexDigit (n % 16)) = some n := by
  have zero : hexValue? '0' = some 0 := by decide
  simp only [unit?, zero, hexValue?_hexDigit (show n / 16 < 16 by omega),
    hexValue?_hexDigit (show n % 16 < 16 by omega)]
  simp
  omega

def StandsFor (piece : Piece) (c : Char) : Prop :=
  ∀ pieces, joinPieces? (piece :: pieces) = (joinPieces? pieces).map (c :: ·)

theorem standsFor_char (c : Char) : StandsFor (.char c) c := fun pieces => by
  rw [joinPieces?]

theorem standsFor_unit {c : Char} (low : c.toNat < 0xD800) : StandsFor (.unit c.toNat) c := by
  intro pieces
  cases pieces with
  | nil => simp [joinPieces?, show ¬55296 ≤ c.toNat by omega]
  | cons next rest =>
    cases next with
    | char d => simp [joinPieces?, show ¬55296 ≤ c.toNat by omega]
    | unit code =>
      simp [joinPieces?, show ¬55296 ≤ c.toNat by omega, show ¬56320 ≤ c.toNat by omega]

abbrev afterPiece (piece : Piece) (rest : List Char) : Option (List Piece × List Char) :=
  (readPieces? rest).map fun (pieces, rest) => (piece :: pieces, rest)

theorem readPieces?_letter {letter c : Char} (escapes : escaped? letter = some c)
    (rest : List Char) : readPieces? ('\\' :: letter :: rest) = afterPiece (.char c) rest := by
  have noUnit : letter ≠ 'u' := by
    rintro rfl
    simp [escaped?] at escapes
  rw [readPieces?, escapes]
  · cases h : readPieces? rest <;> simp [afterPiece, h]
  · exact fun _ _ _ _ _ unit _ => noUnit unit

theorem readPieces?_unit {a b c d : Char} {code : Nat} (read : unit? a b c d = some code)
    (rest : List Char) :
    readPieces? ('\\' :: 'u' :: a :: b :: c :: d :: rest) = afterPiece (.unit code) rest := by
  rw [readPieces?, read]
  cases h : readPieces? rest <;> simp [afterPiece, h]

theorem readPieces?_plain {c : Char} (visible : 0x20 ≤ c.toNat) (noQuote : c ≠ '"')
    (noEscape : c ≠ '\\') (rest : List Char) :
    readPieces? (c :: rest) = afterPiece (.char c) rest := by
  have plain : (guard (0x20 ≤ c.toNat ∧ c ≠ '\\') : Option Unit) = some () :=
    if_pos ⟨visible, noEscape⟩
  rw [readPieces?, plain]
  · cases h : readPieces? rest <;> simp [afterPiece, h]
  · exact noQuote
  · exact fun _ _ _ _ _ escape _ => noEscape escape
  · exact fun _ _ escape _ => noEscape escape

theorem exists_piece (c : Char) : ∃ piece, StandsFor piece c ∧
    ∀ rest, readPieces? (escapeChar c ++ rest) = afterPiece piece rest := by
  unfold escapeChar
  split
  case h_8 other _ _ _ _ _ _ _ =>
    split
    · rename_i control
      exact ⟨.unit c.toNat, standsFor_unit (by omega), readPieces?_unit (unit?_controlChar control)⟩
    · rename_i visible
      exact ⟨.char c, standsFor_char c,
        readPieces?_plain (by omega) (by assumption) (by assumption)⟩
  all_goals exact ⟨.char _, standsFor_char _, readPieces?_letter rfl⟩

theorem readPieces?_text (text : List Char) (rest : List Char) :
    ∃ pieces, joinPieces? pieces = some text ∧
      readPieces? (text.flatMap escapeChar ++ '"' :: rest) = some (pieces, rest) := by
  induction text with
  | nil => exact ⟨[], by simp [joinPieces?], by simp [readPieces?]⟩
  | cons c text ih =>
    obtain ⟨pieces, joined, read⟩ := ih
    obtain ⟨piece, stands, step⟩ := exists_piece c
    refine ⟨piece :: pieces, by simp [stands pieces, joined], ?_⟩
    rw [List.flatMap_cons, List.append_assoc, step, afterPiece, read]
    rfl

theorem readToken?_quote (text : Option String) (rest : List Char) :
    readToken? (quote text ++ rest) = some (.string text, rest) := by
  cases text with
  | none => simp [quote, readToken?, readPieces?, unit?, hexValue?, textOfPieces, joinPieces?]
  | some text =>
    obtain ⟨pieces, joined, read⟩ := readPieces?_text text.toList rest
    simp [quote, readToken?, read, textOfPieces, joined]

/-! ### Numbers -/

/-- Starts with nothing that a number could go on with. -/
def EndsNumber (text : List Char) : Prop :=
  ∀ c ∈ text.head?, charDigit? c = none ∧ c ≠ '.' ∧ c ≠ 'e' ∧ c ≠ 'E'

theorem EndsNumber.noDigit {text : List Char} (ends : EndsNumber text) : NoDigit text :=
  fun c first => (ends c first).1

theorem readWhole?_natural (n : Nat) {rest : List Char} (stops : NoDigit rest) :
    readWhole? (natural n ++ rest) = some (n, rest) := by
  have value := ofDigits_digits n
  rw [readWhole?, spanDigits_natural n stops]
  by_cases small : n < 10
  · rw [digits, dif_pos small]
  · obtain ⟨d, e, others, same, positive⟩ := head_digits (Nat.le_of_not_lt small)
    rw [same] at value ⊢
    simp [positive, value]

def fractionText (ds : List Digit) : List Char :=
  if ds = [] then [] else '.' :: ds.map digitChar

theorem readFraction?_fractionText (ds : List Digit) {rest : List Char} (stops : NoDigit rest)
    (noPoint : ∀ c ∈ rest.head?, c ≠ '.') :
    readFraction? (fractionText ds ++ rest) = some (ds, rest) := by
  unfold fractionText
  cases ds with
  | nil =>
    rw [if_pos rfl, List.nil_append, readFraction?]
    rintro tail rfl
    exact noPoint '.' rfl rfl
  | cons d ds =>
    rw [if_neg (List.cons_ne_nil d ds), List.cons_append, readFraction?,
      spanDigits_append _ stops]

theorem noDigit_fractionText (ds : List Digit) {rest : List Char} (stops : NoDigit rest) :
    NoDigit (fractionText ds ++ rest) := by
  unfold fractionText
  split
  · exact stops
  · exact .cons rfl

def powerText : Option Int → List Char
  | none => []
  | some e => 'e' :: (if e < 0 then '-' else '+') :: natural e.natAbs

theorem readExponent?_sign (e : Int) {rest : List Char} (stops : NoDigit rest) :
    Double.readExponent? ((if e < 0 then '-' else '+') :: natural e.natAbs ++ rest) =
      some (e, rest) := by
  generalize absolute : e.natAbs = size
  have run : Double.readExponent?.unsigned (natural size ++ rest) = some (size, rest) := by
    rw [Double.readExponent?.unsigned, spanDigits_natural _ stops]
    cases found : digits size with
    | nil => exact absurd found (digits_ne_nil _)
    | cons d ds => simp [← found, ofDigits_digits]
  split
  · simp [Double.readExponent?, run]; omega
  · simp [Double.readExponent?, run]; omega

theorem readPower?_powerText (power : Option Int) {rest : List Char} (ends : EndsNumber rest) :
    readPower? (powerText power ++ rest) = some (power, rest) := by
  cases power with
  | none =>
    cases rest with
    | nil => rfl
    | cons c rest =>
      obtain ⟨-, -, small, capital⟩ := ends c rfl
      simp [powerText, readPower?, small, capital]
  | some e =>
    have read := readExponent?_sign e ends.noDigit
    simp only [List.cons_append] at read
    simp [powerText, readPower?, read]

/-- What ends a number also ends its fraction, and so does an exponent. -/
theorem head_powerText (power : Option Int) {rest : List Char} (ends : EndsNumber rest) :
    ∀ c ∈ (powerText power ++ rest).head?, charDigit? c = none ∧ c ≠ '.' := by
  cases power with
  | none => exact fun c first => ⟨(ends c first).1, (ends c first).2.1⟩
  | some e =>
    rintro c ⟨⟩
    exact ⟨rfl, by decide⟩

theorem readToken?_digitChar (d : Digit) (rest : List Char) :
    readToken? (digitChar d :: rest) =
      (readSize? false (digitChar d :: rest)).map fun (n, rest) => (.number n, rest) := by
  match d with
  | 0 | 1 | 2 | 3 | 4 | 5 | 6 | 7 | 8 | 9 => rfl

def sizeText (n : Numeral) : List Char :=
  natural n.whole ++ (fractionText n.fraction ++ powerText n.exponent)

theorem text_eq (n : Numeral) : n.text = (if n.negative then ['-'] else []) ++ sizeText n := by
  simp only [Numeral.text, sizeText, fractionText, List.append_assoc]
  cases n.exponent <;> rfl

theorem exists_head_sizeText (n : Numeral) : ∃ d more, sizeText n = digitChar d :: more := by
  cases found : digits n.whole with
  | nil => exact absurd found (digits_ne_nil _)
  | cons d ds => exact ⟨d, _, by rw [sizeText, natural, found]; rfl⟩

theorem readSize?_sizeText (n : Numeral) {rest : List Char} (ends : EndsNumber rest) :
    readSize? n.negative (sizeText n ++ rest) = some (n, rest) := by
  have power := readPower?_powerText n.exponent ends
  have head := head_powerText n.exponent ends
  have noDigit : NoDigit (powerText n.exponent ++ rest) := fun c first => (head c first).1
  have fraction := readFraction?_fractionText n.fraction noDigit fun c first => (head c first).2
  have whole := readWhole?_natural n.whole (noDigit_fractionText n.fraction noDigit)
  simp [readSize?, sizeText, whole, fraction, power]

theorem readToken?_number (n : Numeral) {rest : List Char} (ends : EndsNumber rest) :
    readToken? (n.text ++ rest) = some (.number n, rest) := by
  have read := readSize?_sizeText n ends
  rw [text_eq]
  cases negative : n.negative with
  | true =>
    rw [negative] at read
    simp [readToken?, read]
  | false =>
    rw [negative] at read
    obtain ⟨d, more, same⟩ := exists_head_sizeText n
    rw [same] at read ⊢
    simp only [Bool.false_eq_true, if_false, List.nil_append, List.cons_append] at read ⊢
    rw [readToken?_digitChar, read]
    rfl

/-! ### Tokens -/

/-- A token is read back from its text, where nothing follows that would lengthen a number. -/
theorem readToken?_text (token : Token) {rest : List Char}
    (ends : ∀ n, token = .number n → EndsNumber rest) :
    readToken? (token.text ++ rest) = some (token, rest) := by
  cases token with
  | number n => exact readToken?_number n (ends n rfl)
  | string text => exact readToken?_quote text rest
  | bool value => cases value <;> rfl
  | _ => rfl

theorem isGap_digitChar (d : Digit) : isGap (digitChar d) = false := by
  revert d
  decide

theorem exists_head_text (token : Token) :
    ∃ c more, token.text = c :: more ∧ isGap c = false := by
  cases token with
  | number n =>
    obtain ⟨d, more, same⟩ := exists_head_sizeText n
    rw [Token.text, text_eq, same]
    split
    · exact ⟨'-', _, rfl, rfl⟩
    · exact ⟨digitChar d, more, rfl, isGap_digitChar d⟩
  | string text => cases text <;> exact ⟨_, _, rfl, rfl⟩
  | bool value => cases value <;> exact ⟨_, _, rfl, rfl⟩
  | _ => exact ⟨_, _, rfl, rfl⟩

/-- The tokens of a text, whatever the number of steps as long as it is enough. -/
def Lexes (text : List Char) (tokens : List Token) : Prop :=
  ∀ steps, text.length < steps → tokens?.go steps text = some tokens

theorem Lexes.nil : Lexes [] [] := by
  intro steps enough
  cases steps with
  | zero => contradiction
  | succ steps => rfl

theorem Lexes.cons {text : List Char} {tokens : List Token} (lexes : Lexes text tokens)
    (token : Token) (ends : ∀ n, token = .number n → EndsNumber text) :
    Lexes (token.text ++ text) (token :: tokens) := by
  intro steps enough
  obtain ⟨c, more, same, noGap⟩ := exists_head_text token
  have read := readToken?_text token ends
  rw [same, List.cons_append] at enough read ⊢
  cases steps with
  | zero => contradiction
  | succ steps =>
    have left := lexes steps (by simp at enough; omega)
    simp [tokens?.go, noGap, read, left]

theorem Lexes.tokens? {text : List Char} {tokens : List Token} (lexes : Lexes text tokens) :
    tokens? text = some tokens := lexes _ (Nat.lt_succ_self _)

end Quartermaster.Json
