import Quartermaster.Text.Decimal

/-!
Punycode: a label of a domain name in the characters of ASCII alone. The ASCII characters of the
label stand first; behind a hyphen the others follow in increasing order, each as the number of
steps from the one before in a count through all characters and places.

Reading refuses numbers that leave the count or name no character.
-/

namespace Quartermaster.Url.Punycode

def digit (d : Nat) : Char := Char.ofNat (if d < 26 then 97 + d else 22 + d)

/-- The lowest digit that may stand last at a place, which is `k` from the left times 36. -/
def threshold (k bias : Nat) : Nat :=
  if k ≤ bias then 1 else if bias + 26 ≤ k then 26 else k - bias

theorem threshold_pos (k bias : Nat) : 1 ≤ threshold k bias := by
  unfold threshold
  split
  · omega
  · split <;> omega

theorem threshold_le (k bias : Nat) : threshold k bias ≤ 26 := by
  unfold threshold
  split
  · omega
  · split <;> omega

/-- Divides by 35 until at most 455 is left, counting 36 for every division. -/
def settle (delta k : Nat) : Nat × Nat :=
  if 455 < delta then settle (delta / 35) (k + 36) else (delta, k)
termination_by delta
decreasing_by omega

/-- The bias after a number of steps, with so many characters written. -/
def adapt (delta written : Nat) (isFirst : Bool) : Nat :=
  let damped := if isFirst then delta / 700 else delta / 2
  let (rest, k) := settle (damped + damped / written) 0
  k + 36 * rest / (rest + 38)

def steps (q k bias : Nat) : List Char :=
  let t := threshold k bias
  if q < t then [digit q]
  else digit (t + (q - t) % (36 - t)) :: steps ((q - t) / (36 - t)) (k + 36) bias
termination_by q
decreasing_by
  rename_i notBelow
  have positive := threshold_pos k bias
  have bounded := threshold_le k bias
  have smaller : (q - threshold k bias) / (36 - threshold k bias) ≤ q - threshold k bias :=
    Nat.div_le_self _ _
  omega

structure State where
  delta : Nat
  bias : Nat
  written : Nat
  isFirst : Bool
  output : List Char

/-- Counts over the places of a label up to one character, writing it wherever it stands. -/
def pass (code : Nat) (label : List Nat) (state : State) : State :=
  label.foldl (fun state c =>
    if c < code then { state with delta := state.delta + 1 }
    else if c = code then
      { delta := 0
        bias := adapt state.delta (state.written + 1) state.isFirst
        written := state.written + 1
        isFirst := false
        output := state.output ++ steps state.delta 36 state.bias }
    else state) state

/-- Writes the characters that are not ASCII, in increasing order. -/
def encodeCodes (label : List Nat) : List Nat → Nat → State → State
  | [], _, state => state
  | code :: codes, from_, state =>
    let counted := { state with delta := state.delta + (code - from_) * (state.written + 1) }
    let passed := pass code label counted
    encodeCodes label codes (code + 1) { passed with delta := passed.delta + 1 }

def encode (label : List Char) : List Char :=
  let codes := label.map Char.toNat
  let ascii := label.filter fun c => c.toNat < 128
  let others := (codes.filter (128 ≤ ·)).mergeSort.eraseDups
  let state := encodeCodes codes others 128 ⟨0, 72, ascii.length, true, []⟩
  (if ascii.isEmpty then [] else ascii ++ ['-']) ++ state.output

/-! ### Reading -/

def digitValue? (c : Char) : Option Nat :=
  let code := c.toNat
  if 97 ≤ code ∧ code ≤ 122 then some (code - 97)
  else if 65 ≤ code ∧ code ≤ 90 then some (code - 65)
  else if 48 ≤ code ∧ code ≤ 57 then some (code - 22)
  else none

def countLimit : Nat := UInt32.size

/--
Reads a number of steps and adds it to a count: the digits weigh more and more, up to the first
one below the threshold of its place. Yields the count and what follows.
-/
def readSteps? (bias : Nat) : List Char → Nat → Nat → Nat → Option (Nat × List Char)
  | [], _, _, _ => none
  | c :: rest, k, weight, count => do
    let d ← digitValue? c
    let count := count + d * weight
    guard (count < countLimit)
    let t := threshold k bias
    if d < t then return (count, rest)
    guard (weight * (36 - t) < countLimit)
    readSteps? bias rest (k + 36) (weight * (36 - t)) count

theorem length_of_readSteps? {bias : Nat} {input : List Char} {k weight count : Nat}
    {result : Nat × List Char} (read : readSteps? bias input k weight count = some result) :
    result.2.length < input.length := by
  induction input generalizing k weight count with
  | nil => cases (rfl : none = readSteps? bias [] k weight count).trans read
  | cons c rest ih =>
    obtain ⟨d, _, read⟩ := Option.bind_eq_some_iff.mp read
    obtain ⟨_, _, read⟩ := Option.bind_eq_some_iff.mp read
    by_cases last : d < threshold k bias
    · cases (if_pos last).symm.trans read
      exact Nat.lt_succ_self _
    · replace read := (if_neg last).symm.trans read
      obtain ⟨_, _, read⟩ := Option.bind_eq_some_iff.mp read
      exact Nat.lt_succ_of_lt (ih read)

def insertCodes? (bias code place : Nat) (label input : List Char) : Option (List Char) :=
  match input with
  | [] => some label
  | c :: rest =>
    match found : readSteps? bias (c :: rest) 36 1 place with
    | none => none
    | some (count, remaining) =>
      have := length_of_readSteps? found
      let room := label.length + 1
      let code := code + count / room
      if code.isValidChar then
        insertCodes? (adapt (count - place) room (place = 0)) code (count % room + 1)
          (label.insertIdx (count % room) (Char.ofNat code)) remaining
      else none
termination_by input.length
decreasing_by assumption

def splitLastHyphen (input : List Char) : List Char × List Char :=
  match input.reverse.dropWhile (· ≠ '-') with
  | _ :: c :: front => ((c :: front).reverse, (input.reverse.takeWhile (· ≠ '-')).reverse)
  | _ => ([], input)

/-- The label that an encoded one stands for. Capitals count as small letters. -/
def decode? (input : List Char) : Option (List Char) :=
  let (ascii, others) := splitLastHyphen input
  insertCodes? 72 128 0 (ascii.map Char.toLower) others

end Quartermaster.Url.Punycode
