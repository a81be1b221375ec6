/-!
Decimal numerals. A natural number is the list of its digits, the most significant first and
without leading zeros; reading the digits gives the number back (`ofDigits_digits`).
-/

namespace Quartermaster.Text

abbrev Digit := Fin 10

def Digit.zero : Digit := ⟨0, by decide⟩

/-- The digits of `n`, the most significant first; zero has the one digit zero. -/
def digits (n : Nat) : List Digit :=
  if h : n < 10 then [⟨n, h⟩]
  else digits (n / 10) ++ [⟨n % 10, Nat.mod_lt n (by decide)⟩]

def ofDigits (ds : List Digit) : Nat :=
  ds.foldl (fun value d => 10 * value + d.val) 0

def digitChar (d : Digit) : Char :=
  Char.ofNat (48 + d.val)

/-- The digit that a character stands for; ASCII digits only. -/
def charDigit? (c : Char) : Option Digit :=
  if h : 48 ≤ c.toNat ∧ c.toNat < 58 then some ⟨c.toNat - 48, by omega⟩ else none

def natural (n : Nat) : List Char :=
  (digits n).map digitChar

def integer (i : Int) : List Char :=
  if i < 0 then '-' :: natural i.natAbs else natural i.natAbs

def spanDigits : List Char → List Digit × List Char
  | [] => ([], [])
  | c :: rest =>
    match charDigit? c with
    | some d => (d :: (spanDigits rest).1, (spanDigits rest).2)
    | none => ([], c :: rest)

/-- The digits of a text that holds nothing but digits, at least one. -/
def allDigits? (text : List Char) : Option (List Digit) :=
  match spanDigits text with
  | (d :: ds, []) => some (d :: ds)
  | _ => none

/-- Reads a numeral with an optional sign of either kind; leading zeros are allowed. -/
def readInteger? : List Char → Option Int
  | '-' :: rest => (allDigits? rest).map fun ds => -(ofDigits ds : Int)
  | '+' :: rest => (allDigits? rest).map fun ds => (ofDigits ds : Int)
  | text => (allDigits? text).map fun ds => (ofDigits ds : Int)

def int64? (i : Int) : Option Int64 :=
  if Int64.minValue.toInt ≤ i ∧ i ≤ Int64.maxValue.toInt then some (Int64.ofInt i) else none

def readInt64? (text : List Char) : Option Int64 :=
  (readInteger? text).bind int64?

def int64 (i : Int64) : String :=
  String.ofList (integer i.toInt)

/-- Spreads digits over a fixed width: the last `width` digits of `n`, zeros in front. -/
def fixedWidth : Nat → Nat → List Char
  | 0, _ => []
  | width + 1, n =>
    fixedWidth width (n / 10) ++ [digitChar ⟨n % 10, Nat.mod_lt n (by decide)⟩]

theorem ofDigits_concat (front : List Digit) (last : Digit) :
    ofDigits (front ++ [last]) = 10 * ofDigits front + last.val := by
  simp [ofDigits]

theorem ofDigits_digits (n : Nat) : ofDigits (digits n) = n := by
  induction n using Nat.strongRecOn with
  | ind n ih =>
    rw [digits]
    split
    · simp [ofDigits]
    · rw [ofDigits_concat, ih (n / 10) (by omega)]
      exact Nat.div_add_mod n 10

theorem charDigit?_digitChar (d : Digit) : charDigit? (digitChar d) = some d := by
  revert d
  decide

theorem int64?_toInt (i : Int64) : int64? i.toInt = some i := by
  rw [int64?, if_pos ⟨i.minValue_le_toInt, i.toInt_le⟩, Int64.ofInt_toInt]

end Quartermaster.Text
