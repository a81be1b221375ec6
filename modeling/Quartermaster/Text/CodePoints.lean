import Quartermaster.Text.Hexadecimal

/-!
Tables of characters by their code points, written in hexadecimal. A table of ranges lists single
code points and ranges with a hyphen between their ends, as in `AD 34F 115F-1160`. A table of runs
gives texts for code points that follow each other, as in `BC=31.2044.34,31.2044.32`: the first has
its text behind the equals sign, and a comma leads to the text of the next.

All tables hold the data of version 17 of the Unicode standard.
-/

namespace Quartermaster.Text

structure CodeRange where
  first : Nat
  last : Nat
  deriving DecidableEq, Repr

structure CodeRun where
  first : Nat
  texts : List (List Char)
  deriving DecidableEq, Repr

def tableEntries (table : String) : List (List Char) :=
  let blanked := table.toList.map fun c => if c = '\n' then ' ' else c
  (blanked.splitOn ' ').filter (· ≠ [])

def readCode? (text : List Char) : Option Char := (readBase? 16 text).map Char.ofNat

def CodeRange.read? (entry : List Char) : Option CodeRange := do
  match ← (entry.splitOn '-').mapM (readBase? 16) with
  | [code] => return ⟨code, code⟩
  | [first, last] => return ⟨first, last⟩
  | _ => none

def CodeRun.read? (entry : List Char) : Option CodeRun := do
  match entry.splitOn '=' with
  | [first, texts] =>
    let texts ← (texts.splitOn ',').mapM fun text => (text.splitOn '.').mapM readCode?
    return ⟨← readBase? 16 first, texts⟩
  | _ => none

def codeRanges (table : String) : List CodeRange := (tableEntries table).filterMap CodeRange.read?

def codeRuns (table : String) : List CodeRun := (tableEntries table).filterMap CodeRun.read?

def isAmong (ranges : List CodeRange) (c : Char) : Bool :=
  ranges.any fun range => range.first ≤ c.toNat && c.toNat ≤ range.last

def textAmong? (runs : List CodeRun) (c : Char) : Option (List Char) :=
  runs.findSome? fun run =>
    if run.first ≤ c.toNat then run.texts[c.toNat - run.first]? else none

end Quartermaster.Text
