/-!
Lower case, as far as it decides a comparison with ASCII text.
-/

namespace Quartermaster.Text

/--
The lower-case form of a character. Besides the ASCII capitals only the Kelvin sign and the
dotted capital I have a form with an ASCII letter in it; all others are left alone, since no
comparison with ASCII text can tell their forms apart.
-/
def lowerChar (c : Char) : List Char :=
  if c = '\u212A' then ['k']
  else if c = '\u0130' then ['i', '\u0307']
  else [c.toLower]

def lower (text : List Char) : List Char :=
  text.flatMap lowerChar

@[simp] theorem lower_append (front back : List Char) :
    lower (front ++ back) = lower front ++ lower back := by
  simp [lower]

end Quartermaster.Text
