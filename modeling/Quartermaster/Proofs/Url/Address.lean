import Mathlib.Data.Option.Basic
import Quartermaster.Http.Request
import Quartermaster.Proofs.Text.Blank

/-!
Addresses of one interface. Whether an address can be read depends on its scheme and on what stands
between the slashes in front of the host and the path (`isSome_parse?_iff`). The path of the
interface keeps all that follows it out of there, so either all addresses behind one base can be
read or none (`isSome_parse?_interface`).
-/

namespace Quartermaster

open Quartermaster.Text

namespace Url

variable {p : Char → Bool} {stop : Char} {front tail : List Char}

/-! ### Where scanning stops -/

theorem takeWhile_append_cons (stops : p stop = false) :
    (front ++ stop :: tail).takeWhile p = front.takeWhile p := by
  induction front with
  | nil => simp [stops]
  | cons c rest ih =>
    rw [List.cons_append, List.takeWhile_cons, List.takeWhile_cons, ih]

theorem dropWhile_append_cons (stops : p stop = false) :
    (front ++ stop :: tail).dropWhile p = front.dropWhile p ++ stop :: tail := by
  induction front with
  | nil => simp [stops]
  | cons c rest ih =>
    rw [List.cons_append, List.dropWhile_cons, List.dropWhile_cons, ih]
    split <;> rfl

/-! ### What an address is judged by -/

def beforePath (scheme : String) (rest : List Char) : String × List Char :=
  (scheme, rest.takeWhile fun c => !isSlash (isSpecial scheme) c)

/-- The scheme of an address, and what stands between the slashes behind it and the path. -/
def site? (text : List Char) : Option (String × List Char) := do
  let (scheme, rest) ← readScheme? text
  (readSlashes? scheme (splitFirst '?' (splitFirst '#' rest).1).1).map (beforePath scheme)

/-- Names a host and, if any, a number behind it. -/
def NamesHost (site : String × List Char) : Prop :=
  let parts := splitPortNumber (splitUser site.2).2
  (∃ host, readHost? (isSpecial site.1) parts.1 = some host ∧ host ≠ []) ∧
    ∃ number, readPortNumber? site.1 parts.2 = some number

theorem isSome_parse?_iff (text : String) :
    (parse? text).isSome ↔ ∃ site, site? (clean text.toList) = some site ∧ NamesHost site := by
  unfold parse? site? beforePath NamesHost
  cases readScheme? (clean text.toList) with
  | none => simp
  | some found =>
    obtain ⟨scheme, rest⟩ := found
    simp only [Option.bind_eq_bind, Option.bind_some]
    cases readSlashes? scheme (splitFirst '?' (splitFirst '#' rest).1).1 with
    | none => simp
    | some rest =>
      simp only [Option.bind_some, pure, Option.map_some, Option.some.injEq, exists_eq_left']
      generalize splitUser (rest.takeWhile fun c => !isSlash (isSpecial scheme) c) = authority
      generalize splitPortNumber authority.2 = parts
      cases readHost? (isSpecial scheme) parts.1 with
      | none => simp
      | some host =>
        simp only [Option.bind_some]
        by_cases empty : host = []
        · have fails : (guard (host ≠ []) : Option Unit) = none := if_neg (not_not_intro empty)
          rw [fails]
          simp [empty]
        · have passes : (guard (host ≠ []) : Option Unit) = some () := if_pos empty
          rw [passes]
          cases readPortNumber? scheme parts.2 <;> simp [empty]

/-! ### What follows the path of the interface -/

/-- Stays in the path of an address, at whose end it is. -/
def IsTail (tail : List Char) : Prop := ∀ c ∈ tail, 0x20 < c.toNat ∧ c ≠ '#' ∧ c ≠ '?'

instance : DecidablePred IsTail := fun tail => List.decidableBAll _ tail

theorem clean_append (front : List Char) :
    ∃ cleaned, ∀ tail, IsTail tail → clean (front ++ '/' :: tail) = cleaned ++ '/' :: tail := by
  refine ⟨(front.dropWhile fun c => c.toNat ≤ 0x20).filter
    fun c => c ≠ '\t' ∧ c ≠ '\n' ∧ c ≠ '\r', fun tail isTail => ?_⟩
  have visible : ∀ c ∈ '/' :: tail, 0x20 < c.toNat := by
    intro c member
    rcases List.mem_cons.mp member with rfl | member
    · decide
    · exact (isTail c member).1
  have kept : ('/' :: tail).filter (fun c => c ≠ '\t' ∧ c ≠ '\n' ∧ c ≠ '\r') = '/' :: tail := by
    refine List.filter_eq_self.mpr fun c member => ?_
    have high := visible c member
    simp only [decide_eq_true_eq]
    refine ⟨?_, ?_, ?_⟩ <;> (rintro rfl; revert high; decide)
  unfold clean
  simp only
  rw [dropWhile_append_cons (by decide), dropEndWhile_append_of_neg _ (List.cons_ne_nil _ _),
    List.filter_append, kept]
  intro c member
  simpa using visible c member

theorem readScheme?_append (front tail : List Char) :
    readScheme? (front ++ '/' :: tail) =
      (readScheme? front).map fun (scheme, rest) => (scheme, rest ++ '/' :: tail) := by
  cases front with
  | nil => rfl
  | cons c more =>
    have scanned : (c :: more ++ '/' :: tail).dropWhile isSchemeChar =
      (c :: more).dropWhile isSchemeChar ++ '/' :: tail := dropWhile_append_cons (by decide)
    have scheme : (c :: more ++ '/' :: tail).takeWhile isSchemeChar =
      (c :: more).takeWhile isSchemeChar := takeWhile_append_cons (by decide)
    simp only [List.cons_append] at scanned scheme
    simp only [List.cons_append, readScheme?, scanned, scheme]
    split
    · cases (c :: more).dropWhile isSchemeChar with
      | nil => rfl
      | cons d rest =>
        by_cases colon : d = ':'
        · subst colon
          rfl
        · simp [colon]
    · rfl

theorem splitFirst_fst (mark : Char) (text : List Char) :
    (splitFirst mark text).1 = text.takeWhile (· ≠ mark) := by
  unfold splitFirst
  split
  · rename_i nothing
    exact (List.takeWhile_eq_self_iff.mpr (List.dropWhile_eq_nil_iff.mp nothing)).symm
  · rfl

theorem beforeQuery_eq (text : List Char) :
    (splitFirst '?' (splitFirst '#' text).1).1 =
      text.takeWhile fun c => c ≠ '?' && c ≠ '#' := by
  rw [splitFirst_fst, splitFirst_fst, List.takeWhile_takeWhile]
  exact congrArg (text.takeWhile ·) (funext fun c => by simp)

/-- The tail belongs to what stands before the query, unless query or fragment begin before it. -/
theorem beforeQuery_append (front : List Char) :
    (∃ cut, ∀ tail, IsTail tail →
      (splitFirst '?' (splitFirst '#' (front ++ '/' :: tail)).1).1 = cut) ∨
    ∀ tail, IsTail tail →
      (splitFirst '?' (splitFirst '#' (front ++ '/' :: tail)).1).1 = front ++ '/' :: tail := by
  simp only [beforeQuery_eq]
  by_cases begins : ∃ mark ∈ front, mark = '?' ∨ mark = '#'
  · obtain ⟨mark, member, isMark⟩ := begins
    obtain ⟨before, after, rfl⟩ := List.append_of_mem member
    refine .inl ⟨before.takeWhile fun c => c ≠ '?' && c ≠ '#', fun tail _ => ?_⟩
    rw [List.append_assoc, List.cons_append]
    refine takeWhile_append_cons ?_
    rcases isMark with rfl | rfl <;> rfl
  · refine .inr fun tail isTail => List.takeWhile_eq_self_iff.mpr fun c member => ?_
    rcases List.mem_append.mp member with member | member
    · have inPath : ¬(c = '?' ∨ c = '#') := fun isMark => begins ⟨c, member, isMark⟩
      simpa using inPath
    · rcases List.mem_cons.mp member with rfl | member
      · rfl
      · simpa using (isTail c member).2.symm

theorem exists_readSlashes? (scheme : String) (front : List Char) :
    ∃ found : Option (List Char), ∀ tail,
      readSlashes? scheme (front ++ '/' :: 'a' :: 'p' :: 'i' :: '/' :: tail) =
        found.map (· ++ '/' :: tail) := by
  unfold readSlashes?
  by_cases common : isSpecial scheme ∧ scheme ≠ "file"
  · refine ⟨some ((front ++ ['/']).dropWhile (isSlash true) ++ ['a', 'p', 'i']), fun tail => ?_⟩
    have scanned : (front ++ ['/'] ++ 'a' :: 'p' :: 'i' :: '/' :: tail).dropWhile (isSlash true) =
      (front ++ ['/']).dropWhile (isSlash true) ++ 'a' :: 'p' :: 'i' :: '/' :: tail :=
        dropWhile_append_cons (by decide)
    rw [if_pos common]
    simpa using scanned
  · simp only [if_neg common]
    match front with
    | [] => exact ⟨none, fun tail => by simp [isSlash]⟩
    | [a] =>
      by_cases slashes : isSlash (isSpecial scheme) a ∧ isSlash (isSpecial scheme) '/'
      · exact ⟨some ['a', 'p', 'i'], fun tail => by simp [slashes]⟩
      · exact ⟨none, fun tail => by simp [slashes]⟩
    | a :: b :: rest =>
      by_cases slashes : isSlash (isSpecial scheme) a ∧ isSlash (isSpecial scheme) b
      · exact ⟨some (rest ++ ['/', 'a', 'p', 'i']), fun tail => by simp [slashes]⟩
      · exact ⟨none, fun tail => by simp [slashes]⟩

theorem isTail_interface {tail : List Char} (isTail : IsTail tail) :
    IsTail ('a' :: 'p' :: 'i' :: '/' :: tail) := by
  intro c member
  simp only [List.mem_cons] at member
  rcases member with rfl | rfl | rfl | rfl | member
  all_goals first | decide | exact isTail c member

/-- What an address of the interface is judged by is the same for all. -/
theorem exists_site? (base : List Char) :
    ∃ site, ∀ tail, IsTail tail →
      site? (clean (base ++ '/' :: 'a' :: 'p' :: 'i' :: '/' :: tail)) = site := by
  obtain ⟨cleaned, kept⟩ := clean_append base
  cases found : readScheme? cleaned with
  | none =>
    refine ⟨none, fun tail isTail => ?_⟩
    rw [kept _ (isTail_interface isTail), site?, readScheme?_append, found]
    rfl
  | some scheme =>
    obtain ⟨scheme, rest⟩ := scheme
    have judged (tail : List Char) (isTail : IsTail tail) :
        site? (clean (base ++ '/' :: 'a' :: 'p' :: 'i' :: '/' :: tail)) =
          (readSlashes? scheme (splitFirst '?' (splitFirst '#'
            (rest ++ '/' :: 'a' :: 'p' :: 'i' :: '/' :: tail)).1).1).map (beforePath scheme) := by
      rw [kept _ (isTail_interface isTail), site?, readScheme?_append, found]
      rfl
    rcases beforeQuery_append rest with ⟨cut, same⟩ | whole
    · refine ⟨(readSlashes? scheme cut).map (beforePath scheme), fun tail isTail => ?_⟩
      rw [judged tail isTail, same _ (isTail_interface isTail)]
    · obtain ⟨behind, slashes⟩ := exists_readSlashes? scheme rest
      refine ⟨behind.map (beforePath scheme), fun tail isTail => ?_⟩
      rw [judged tail isTail, whole _ (isTail_interface isTail), slashes, Option.map_map]
      refine congrArg (Option.map · behind) (funext fun rest => ?_)
      exact congrArg (Prod.mk scheme) (takeWhile_append_cons (by simp [isSlash]))

/-- Either all addresses of an interface can be read or none. -/
theorem isSome_parse?_interface (base : String) {left right : String} (isLeft : IsTail left.toList)
    (isRight : IsTail right.toList) :
    (parse? (base ++ ("/api/" ++ left))).isSome = (parse? (base ++ ("/api/" ++ right))).isSome := by
  obtain ⟨site, same⟩ := exists_site? base.toList
  have letters (tail : String) : (base ++ ("/api/" ++ tail)).toList =
      base.toList ++ '/' :: 'a' :: 'p' :: 'i' :: '/' :: tail.toList := by
    simp
  rw [Bool.eq_iff_iff, isSome_parse?_iff, isSome_parse?_iff, letters, letters, same _ isLeft,
    same _ isRight]

theorem isTail_int64 (i : Int64) : IsTail (int64 i).toList := by
  have digit : ∀ d, 0x20 < (digitChar d).toNat ∧ digitChar d ≠ '#' ∧ digitChar d ≠ '?' := by decide
  have digits (n : Nat) : IsTail (natural n) := by
    intro c member
    obtain ⟨d, -, rfl⟩ := List.mem_map.mp member
    exact digit d
  rw [int64, String.toList_ofList, integer]
  split
  · intro c member
    rcases List.mem_cons.mp member with rfl | member
    · decide
    · exact digits _ c member
  · exact digits _

end Url

/-- A request can be made of a draft if its address can be read and its token stand in a header. -/
theorem Http.Draft.isSome_build?_iff (draft : Draft) :
    draft.build?.isSome ↔
      (Url.parse? draft.address).isSome ∧ draft.token.all isHeaderText = true := by
  unfold build?
  cases Url.parse? draft.address with
  | none => simp
  | some address =>
    rw [Option.bind_eq_bind, Option.bind_some]
    by_cases free : draft.token.all isHeaderText = true
    · have passes : (guard (draft.token.all isHeaderText = true) : Option Unit) = some () :=
        if_pos free
      rw [passes]
      simp [free]
    · have fails : (guard (draft.token.all isHeaderText = true) : Option Unit) = none :=
        if_neg free
      rw [fails]
      simp [free]

end Quartermaster
