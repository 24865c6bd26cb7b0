import Mathlib.Data.List.Infix

/-!
Python's `str` methods that the library calls, over `List Char`: a Python string is its sequence of
code points. Case mapping is on ASCII letters; every string the library compares after `lower` or
`upper` is a CQL keyword or type name, and no other code point maps to an ASCII letter of those.
-/

namespace Cqlite.PyStr

/-- The code points for which `str.isspace` holds. -/
def isSpace (c : Char) : Bool :=
  let n := c.toNat
  n = 32 || (9 ≤ n && n ≤ 13) || (28 ≤ n && n ≤ 31) || n = 0x85 || n = 0xA0 || n = 0x1680 ||
    (0x2000 ≤ n && n ≤ 0x200A) || n = 0x2028 || n = 0x2029 || n = 0x202F || n = 0x205F ||
    n = 0x3000

/-- This is `s.strip(chars)` for the characters selected by `remove`. -/
def stripBy (remove : Char → Bool) (s : List Char) : List Char :=
  ((s.dropWhile remove).reverse.dropWhile remove).reverse

/-- This is `s.strip()`. -/
def strip (s : List Char) : List Char := stripBy isSpace s

/-- Stripping keeps a sublist of the string. -/
theorem strip_sublist (s : List Char) : (strip s).Sublist s := by
  have inner := List.reverse_sublist.mpr
    (List.dropWhile_sublist (l := (s.dropWhile isSpace).reverse) isSpace)
  rw [List.reverse_reverse] at inner
  exact inner.trans (List.dropWhile_sublist _)

/-- This is `s.strip(chars)`. -/
def stripChars (chars s : List Char) : List Char := stripBy (· ∈ chars) s

/-- This is `s.lower()`. -/
def lower (s : List Char) : List Char := s.map Char.toLower

/-- This is `s.upper()`. -/
def upper (s : List Char) : List Char := s.map Char.toUpper

/-- The loop of `s.split()`: `word` is the run of non-space characters read so far. -/
def splitWords : List Char → List Char → List (List Char)
  | [], word => if word = [] then [] else [word]
  | c :: rest, word =>
      if isSpace c then
        if word = [] then splitWords rest [] else word :: splitWords rest []
      else splitWords rest (word ++ [c])

/-- This is `s.split()`: the runs of non-space characters. -/
def split (s : List Char) : List (List Char) := splitWords s []

/-- This is `s.split(sep)` for a one-character separator. -/
def splitOn (sep : Char) : List Char → List (List Char)
  | [] => [[]]
  | c :: rest =>
      if c = sep then [] :: splitOn sep rest
      else
        match splitOn sep rest with
        | word :: words => (c :: word) :: words
        | [] => [[c]]

/-- This is `s.find(c)`: the first index of `c`, or `-1`. -/
def find (s : List Char) (c : Char) : Int :=
  match s.indexOf? c with
  | some index => index
  | none => -1

/-- A character of the string is found at an index. -/
theorem find_nonneg {s : List Char} {c : Char} (member : c ∈ s) : 0 ≤ find s c := by
  unfold find
  split
  · omega
  · rename_i absent
    exact absurd (List.indexOf?_eq_none_iff.mp absent c member) (by simp)

/-- The first index at which `sub` starts in a string. -/
def indexOfText? (sub s : List Char) : Option Nat :=
  if sub.isPrefixOf s then some 0
  else
    match s with
    | [] => none
    | _ :: rest => (indexOfText? sub rest).map (· + 1)

/-- This is `s.find(sub)`: the first index at which `sub` starts, or `-1`. -/
def findText (s sub : List Char) : Int :=
  match indexOfText? sub s with
  | some index => index
  | none => -1

/-- This is `sub in s`. -/
def containsText (s sub : List Char) : Bool := (indexOfText? sub s).isSome

/-- This is `s.split(sep)[0]` for a non-empty `sep`: the text before the first `sep`. -/
def splitHead (sep s : List Char) : List Char :=
  match indexOfText? sep s with
  | some index => s.take index
  | none => s

/-- This is `s.rfind(c)`: the last index of `c`, or `-1`. -/
def rfind (s : List Char) (c : Char) : Int :=
  match s.reverse.indexOf? c with
  | some index => s.length - 1 - index
  | none => -1

/-- Python clamps a slice bound into `0 .. len`, counting a negative bound from the end. -/
def sliceIndex (length : Nat) (index : Int) : Nat :=
  if index < 0 then (index + length).toNat else min index.toNat length

/-- This is `s[start:stop]`. -/
def slice (s : List Char) (start stop : Int) : List Char :=
  let first := sliceIndex s.length start
  (s.drop first).take (sliceIndex s.length stop - first)

/-- A slice holds at most the characters from its clamped start. -/
theorem length_slice_le (s : List Char) (start stop : Int) :
    (slice s start stop).length ≤ s.length - sliceIndex s.length start := by
  simp only [slice, List.length_take, List.length_drop]
  exact Nat.min_le_right _ _

/-- A positive start that is in range clamps to a positive index. -/
theorem one_le_sliceIndex {length : Nat} {index : Int} (positive : 1 ≤ index) (nonempty : 1 ≤ length) :
    1 ≤ sliceIndex length index := by
  unfold sliceIndex
  rw [if_neg (by omega)]
  omega

/-- This is `s.replace(old, new)` for a one-character `old`. -/
def replaceChar (s : List Char) (old : Char) (new : List Char) : List Char :=
  s.flatMap fun c => if c = old then new else [c]

/-- This is `s.startswith(prefix)`. -/
def startsWith (s pre : List Char) : Bool := pre.isPrefixOf s

/-- This is `s.endswith(suffix)`. -/
def endsWith (s suffix : List Char) : Bool := suffix.isSuffixOf s

/-- This is `sep.join(parts)`. -/
def join (sep : List Char) (parts : List (List Char)) : List Char := sep.intercalate parts

end Cqlite.PyStr
