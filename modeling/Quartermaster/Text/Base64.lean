import Quartermaster.Text.Unicode

/-!
Base64: three bytes as four characters, a shorter rest filled up with equals signs.
-/

namespace Quartermaster.Text

def base64Char (n : Nat) : Char :=
  Char.ofNat <|
    if n < 26 then 65 + n
    else if n < 52 then 71 + n
    else if n < 62 then n - 4
    else if n = 62 then 43 else 47

/-- The first so many characters of 24 bits, filled up to four. -/
def base64Group (count bits : Nat) : List Char :=
  let chars := [bits / 262144, bits / 4096 % 64, bits / 64 % 64, bits % 64].map base64Char
  chars.take count ++ List.replicate (4 - count) '='

def base64 : Bytes → List Char
  | a :: b :: c :: rest =>
    base64Group 4 (65536 * a.toNat + 256 * b.toNat + c.toNat) ++ base64 rest
  | [a, b] => base64Group 3 (65536 * a.toNat + 256 * b.toNat)
  | [a] => base64Group 2 (65536 * a.toNat)
  | [] => []

end Quartermaster.Text
