import Cqlite.Construction.PyString
import Mathlib.Data.List.DropRight

/-!
What the Python string methods of the model return. `str.strip()` removes a run of whitespace on
each side: blanks added at either end do not change the stripped string, and a string that starts
and ends with a non-space character is its own stripped form. `split`, `find`, `rfind` and slicing
are evaluated on the strings the type-string functions take apart.
-/

namespace Cqlite.PyStr

/-- A list whose first element is kept is not shortened by `dropWhile`. -/
theorem dropWhile_of_head {l : List Char} {remove : Char → Bool}
    (first : ∀ c ∈ l.head?, remove c = false) : l.dropWhile remove = l := by
  cases l with
  | nil => rfl
  | cons c rest => exact List.dropWhile_cons_of_neg (by simp [first c rfl])

/-- Leading blanks do not change the stripped string. -/
theorem strip_blank_append {blank : List Char} (allSpace : ∀ c ∈ blank, isSpace c = true)
    (s : List Char) : strip (blank ++ s) = strip s := by
  simp only [strip, stripBy, List.dropWhile_append_of_pos allSpace]

/-- Trailing blanks do not change the stripped string. -/
theorem strip_append_blank (s : List Char) {blank : List Char}
    (allSpace : ∀ c ∈ blank, isSpace c = true) : strip (s ++ blank) = strip s := by
  unfold strip stripBy
  rw [List.dropWhile_append]
  split
  · rename_i empty
    rw [List.isEmpty_iff.mp empty, List.dropWhile_eq_nil_iff.mpr allSpace]
  · rw [List.reverse_append, List.dropWhile_append_of_pos (by simpa using allSpace)]

/-- Blanks on both sides do not change the stripped string. -/
theorem strip_padded {before after : List Char} (beforeSpace : ∀ c ∈ before, isSpace c = true)
    (afterSpace : ∀ c ∈ after, isSpace c = true) (s : List Char) :
    strip (before ++ s ++ after) = strip s := by
  rw [strip_append_blank _ afterSpace, strip_blank_append beforeSpace]

/-- A string whose two ends are kept is not changed by `strip(chars)`. -/
theorem stripBy_eq_self {remove : Char → Bool} {s : List Char}
    (first : ∀ c ∈ s.head?, remove c = false) (last : ∀ c ∈ s.getLast?, remove c = false) :
    stripBy remove s = s := by
  unfold stripBy
  rw [dropWhile_of_head first, dropWhile_of_head (by rwa [List.head?_reverse]),
    List.reverse_reverse]

/-- A string that starts and ends with a non-space character is its own stripped form. -/
theorem strip_eq_self {s : List Char} (first : ∀ c ∈ s.head?, isSpace c = false)
    (last : ∀ c ∈ s.getLast?, isSpace c = false) : strip s = s :=
  stripBy_eq_self first last

/-- Stripping a string that starts with a text whose first and last characters are not spaces
keeps the text. -/
theorem strip_append_of_ends {before : List Char} (nonempty : before ≠ [])
    (first : ∀ c ∈ before.head?, isSpace c = false) (last : ∀ c ∈ before.getLast?, isSpace c = false)
    (after : List Char) : ∃ kept, strip (before ++ after) = before ++ kept := by
  have kept : (before ++ after).dropWhile isSpace = before ++ after :=
    dropWhile_of_head (by rwa [List.head?_append_of_ne_nil _ nonempty])
  unfold strip stripBy
  rw [kept, List.reverse_append, List.dropWhile_append]
  split
  · rw [dropWhile_of_head (by rwa [List.head?_reverse]), List.reverse_reverse]
    exact ⟨[], (List.append_nil _).symm⟩
  · exact ⟨_, by rw [List.reverse_append, List.reverse_reverse]⟩

/-- When the first character is kept, `strip(chars)` only drops characters at the end. -/
theorem stripBy_of_head {remove : Char → Bool} {s : List Char}
    (first : ∀ c ∈ s.head?, remove c = false) : stripBy remove s = s.rdropWhile remove := by
  unfold stripBy
  rw [dropWhile_of_head first]
  rfl

/-- A string is its stripped form between a run of whitespace on each side. -/
theorem strip_decompose (s : List Char) :
    ∃ before after, s = before ++ strip s ++ after ∧ (∀ c ∈ before, isSpace c = true) ∧
      ∀ c ∈ after, isSpace c = true := by
  refine ⟨s.takeWhile isSpace, ((s.dropWhile isSpace).reverse.takeWhile isSpace).reverse, ?_,
    fun c member => List.mem_takeWhile_imp member,
    fun c member => List.mem_takeWhile_imp (List.mem_reverse.mp member)⟩
  have back := congrArg List.reverse
    (List.takeWhile_append_dropWhile isSpace (s.dropWhile isSpace).reverse)
  rw [List.reverse_append, List.reverse_reverse] at back
  rw [strip, stripBy, List.append_assoc, back, List.takeWhile_append_dropWhile]

/-- The first piece of `s.split(sep)` is the text before the first separator. -/
theorem headD_splitOn (sep : Char) (s : List Char) :
    (splitOn sep s).headD [] = s.takeWhile (· ≠ sep) := by
  induction s with
  | nil => rfl
  | cons c rest ih =>
      unfold splitOn
      by_cases separator : c = sep
      · simp [separator]
      · rw [if_neg separator]
        split <;> rename_i pieces <;> simp_all [List.takeWhile_cons]

/-- `find` stops at the first occurrence. -/
theorem find_append_cons {before : List Char} {c : Char} (absent : c ∉ before) (after : List Char) :
    find (before ++ c :: after) c = before.length := by
  suffices found : (before ++ c :: after).indexOf? c = some before.length by simp [find, found]
  induction before with
  | nil => simp [List.indexOf?_cons]
  | cons d rest ih =>
      rw [List.mem_cons, not_or] at absent
      rw [List.cons_append, List.indexOf?_cons, ih absent.2]
      simp [Ne.symm absent.1]

/-- `rfind` of the last character is the last index. -/
theorem rfind_append_singleton (s : List Char) (c : Char) : rfind (s ++ [c]) c = s.length := by
  simp [rfind, List.indexOf?_cons]

/-- A slice bound in range is kept as it is. -/
theorem sliceIndex_natCast {length index : Nat} (within : index ≤ length) :
    sliceIndex length index = index := by
  rw [sliceIndex, if_neg (by omega), Int.toNat_ofNat]
  exact Nat.min_eq_left within

/-- The slice between two positions of a concatenation is its middle part. -/
theorem slice_append (before middle after : List Char) :
    slice (before ++ middle ++ after) before.length (before.length + middle.length) = middle := by
  rw [← Int.ofNat_add, slice, sliceIndex_natCast (by simp), sliceIndex_natCast (by simp),
    List.append_assoc, List.drop_left, Nat.add_sub_cancel_left,
    List.take_left]

/-- `sep.join` puts the separator between consecutive parts. -/
theorem join_singleton (sep part : List Char) : join sep [part] = part := by
  simp [join, List.intercalate]

theorem join_cons_cons (sep first next : List Char) (rest : List (List Char)) :
    join sep (first :: next :: rest) = first ++ sep ++ join sep (next :: rest) := by
  simp [join, List.intercalate]

/-- `sep.join` of parts followed by one more part. -/
theorem join_append_singleton (sep : List Char) {parts : List (List Char)} (nonempty : parts ≠ [])
    (last : List Char) : join sep (parts ++ [last]) = join sep parts ++ sep ++ last := by
  induction parts with
  | nil => exact absurd rfl nonempty
  | cons first rest ih =>
      cases rest with
      | nil => simp [join, List.intercalate]
      | cons next more =>
          rw [List.cons_append, List.cons_append, join_cons_cons, ← List.cons_append,
            ih (List.cons_ne_nil _ _), join_cons_cons]
          simp only [List.append_assoc]

/-- Each part of a joined list is a part of it. -/
theorem infix_join_of_mem (sep : List Char) {part : List Char} :
    ∀ {parts : List (List Char)}, part ∈ parts → part <:+: join sep parts
  | [_], member => by rw [List.mem_singleton.mp member, join_singleton]
  | first :: next :: rest, member => by
      rw [join_cons_cons]
      rcases List.mem_cons.mp member with rfl | later
      · exact (List.prefix_append _ _).isInfix.trans (List.prefix_append _ _).isInfix
      · exact (infix_join_of_mem sep later).trans (List.suffix_append _ _).isInfix

/-- A joined list starts as its first part does. -/
theorem join_cons_head (sep : List Char) (c : Char) (part : List Char) :
    ∀ rest : List (List Char), join sep ((c :: part) :: rest) = c :: join sep (part :: rest)
  | [] => by rw [join_singleton, join_singleton]
  | _ :: _ => by rw [join_cons_cons, join_cons_cons]; rfl

theorem head?_join (sep : List Char) {first : List Char} (nonempty : first ≠ [])
    (rest : List (List Char)) : (join sep (first :: rest)).head? = first.head? := by
  obtain ⟨c, part, rfl⟩ := List.exists_cons_of_ne_nil nonempty
  rw [join_cons_head]
  rfl

theorem getLast?_join (sep : List Char) {last : List Char} (nonempty : last ≠ [])
    (parts : List (List Char)) : (join sep (parts ++ [last])).getLast? = last.getLast? := by
  obtain ⟨c, found⟩ := Option.isSome_iff_exists.mp (List.getLast?_isSome.mpr nonempty)
  rcases List.eq_nil_or_concat parts with rfl | ⟨front, part, rfl⟩
  · rw [List.nil_append, join_singleton]
  · rw [join_append_singleton _ (by simp), List.getLast?_append, found, Option.or_some]

/-- A string without the separator is one piece. -/
theorem splitOn_of_not_mem {sep : Char} {s : List Char} (absent : sep ∉ s) : splitOn sep s = [s] := by
  induction s with
  | nil => rfl
  | cons c rest ih =>
      rw [List.mem_cons, not_or] at absent
      rw [splitOn, if_neg (Ne.symm absent.1), ih absent.2]

/-- `split(sep)` ends the first piece at the first separator. -/
theorem splitOn_append_cons {sep : Char} {s : List Char} (absent : sep ∉ s) (rest : List Char) :
    splitOn sep (s ++ sep :: rest) = s :: splitOn sep rest := by
  induction s with
  | nil => simp [splitOn]
  | cons c more ih =>
      rw [List.mem_cons, not_or] at absent
      rw [List.cons_append, splitOn, if_neg (Ne.symm absent.1), ih absent.2]

theorem splitOn_ne_nil (sep : Char) : ∀ s : List Char, splitOn sep s ≠ []
  | [] => List.cons_ne_nil _ _
  | c :: rest => by
      rw [splitOn]
      split
      · exact List.cons_ne_nil _ _
      · split <;> exact List.cons_ne_nil _ _

/-- `s.split(sep)` of two strings joined by the separator is the pieces of each. -/
theorem splitOn_append_sep (sep : Char) (s rest : List Char) :
    splitOn sep (s ++ sep :: rest) = splitOn sep s ++ splitOn sep rest := by
  induction s with
  | nil => simp [splitOn]
  | cons c more ih =>
      rw [List.cons_append, splitOn, splitOn, ih]
      split
      · rfl
      · obtain ⟨word, words, pieces⟩ := List.exists_cons_of_ne_nil (splitOn_ne_nil sep more)
        rw [pieces]
        rfl

/-- `s.split(sep)` undoes `sep.join` of parts without the separator. -/
theorem splitOn_join {sep : Char} {first : List Char} {rest : List (List Char)}
    (absent : ∀ part ∈ first :: rest, sep ∉ part) : splitOn sep (join [sep] (first :: rest)) = first :: rest := by
  induction rest generalizing first with
  | nil =>
      simpa [join, List.intercalate] using splitOn_of_not_mem (absent first (List.mem_singleton_self _))
  | cons next rest ih =>
      rw [join_cons_cons, List.append_assoc, List.singleton_append,
        splitOn_append_cons (absent first (List.mem_cons_self _ _)),
        ih fun part member => absent part (List.mem_cons_of_mem _ member)]

/-- Characters other than whitespace extend the current word of `split()`. -/
theorem splitWords_append_word {chars : List Char} (noSpace : ∀ c ∈ chars, isSpace c = false)
    (rest word : List Char) : splitWords (chars ++ rest) word = splitWords rest (word ++ chars) := by
  induction chars generalizing word with
  | nil => simp
  | cons c more ih =>
      rw [List.cons_append, splitWords, if_neg (by simp [noSpace c (List.mem_cons_self _ _)]),
        ih (fun c member => noSpace c (List.mem_cons_of_mem _ member)), List.append_assoc,
        List.singleton_append]

/-- A word followed by whitespace is the first word of `split()`. -/
theorem split_append_space {name : List Char} (named : name ≠ [])
    (noSpace : ∀ c ∈ name, isSpace c = false) {c : Char} (space : isSpace c = true)
    (rest : List Char) : split (name ++ c :: rest) = name :: split rest := by
  rw [split, splitWords_append_word noSpace, List.nil_append, splitWords, if_pos space,
    if_neg named]
  rfl

/-- The first word of `split()` of a string that starts with a non-space character. -/
theorem split_of_head {s : List Char} (first : ∀ c ∈ s.head?, isSpace c = false)
    (nonempty : s ≠ []) : ∃ words, split s = s.takeWhile (fun c => !isSpace c) :: words := by
  have word : s.takeWhile (fun c => !isSpace c) ≠ [] := by
    obtain ⟨c, more, rfl⟩ := List.exists_cons_of_ne_nil nonempty
    simp [first c rfl]
  have pieces : split s = splitWords (s.takeWhile (fun c => !isSpace c) ++
      s.dropWhile (fun c => !isSpace c)) [] := by
    rw [List.takeWhile_append_dropWhile]; rfl
  rw [pieces, splitWords_append_word (fun c member => by
      simpa using List.mem_takeWhile_imp member), List.nil_append]
  have stops := List.head?_dropWhile_not (fun c => !isSpace c) s
  cases after : s.dropWhile (fun c => !isSpace c) with
  | nil => exact ⟨[], by rw [splitWords, if_neg word]⟩
  | cons c more =>
      rw [after] at stops
      simp only [List.head?_cons, Bool.not_eq_false'] at stops
      exact ⟨splitWords more [], by rw [splitWords, if_pos (by simpa using stops), if_neg word]⟩

/-- A string that starts with another character does not start with the prefix. -/
theorem startsWith_cons_of_ne {c d : Char} (differ : c ≠ d) (s pre : List Char) :
    startsWith (c :: s) (d :: pre) = false := by
  simp [startsWith, List.isPrefixOf, Ne.symm differ]

/-! ### Searching for a substring -/

theorem indexOfText?_of_isPrefixOf {sub s : List Char} (found : sub.isPrefixOf s = true) :
    indexOfText? sub s = some 0 := by
  unfold indexOfText?
  rw [if_pos found]

theorem findText_eq {sub s : List Char} {index : Nat} (found : indexOfText? sub s = some index) :
    findText s sub = index := by
  rw [findText, found]

/-- `sub` starts at no position of `before` in `before ++ after`. -/
def StartsNowhere (sub : List Char) : List Char → List Char → Prop
  | [], _ => True
  | c :: before, after => sub.isPrefixOf (c :: before ++ after) = false ∧ StartsNowhere sub before after

/-- The first occurrence in `before ++ after` of a text that starts nowhere in `before` is in
`after`. -/
theorem indexOfText?_append {sub : List Char} :
    ∀ {before after : List Char}, StartsNowhere sub before after →
      indexOfText? sub (before ++ after) = (indexOfText? sub after).map (· + before.length)
  | [], after, _ => by simp
  | c :: before, after, ⟨absent, later⟩ => by
      rw [List.cons_append, indexOfText?, if_neg (by rw [← List.cons_append, absent]; decide)]
      rw [indexOfText?_append later, Option.map_map, List.length_cons]
      congr 1

theorem StartsNowhere.append {sub : List Char} :
    ∀ {first second after : List Char}, StartsNowhere sub first (second ++ after) →
      StartsNowhere sub second after → StartsNowhere sub (first ++ second) after
  | [], _, _, _, rest => rest
  | c :: first, second, after, ⟨absent, later⟩, rest => by
      show StartsNowhere sub (c :: (first ++ second)) after
      exact ⟨by rwa [← List.cons_append, List.append_assoc], later.append rest⟩

/-- A text starts nowhere in a string without its first character. -/
theorem startsNowhere_of_not_mem {x : Char} {sub : List Char} :
    ∀ {before : List Char} (after : List Char), x ∉ before → StartsNowhere (x :: sub) before after
  | [], _, _ => trivial
  | c :: _, after, absent => by
      have differ : c ≠ x := fun same => absent (same ▸ List.mem_cons_self _ _)
      exact ⟨by simp [List.isPrefixOf, Ne.symm differ],
        startsNowhere_of_not_mem after fun member => absent (List.mem_cons_of_mem _ member)⟩

/-- A text with a character that the string lacks does not occur in it. -/
theorem indexOfText?_eq_none {sub : List Char} {x : Char} (present : x ∈ sub) :
    ∀ {s : List Char}, x ∉ s → indexOfText? sub s = none
  | s, absent => by
      have notPrefix : sub.isPrefixOf s = false := by
        by_contra found
        exact absent ((List.isPrefixOf_iff_prefix.mp (by simpa using found)).subset present)
      unfold indexOfText?
      rw [if_neg (by simp [notPrefix])]
      cases s with
      | nil => rfl
      | cons c rest =>
          dsimp only
          rw [indexOfText?_eq_none present fun member => absent (List.mem_cons_of_mem _ member)]
          rfl

theorem containsText_eq_false {sub s : List Char} {x : Char} (present : x ∈ sub) (absent : x ∉ s) :
    containsText s sub = false := by
  rw [containsText, indexOfText?_eq_none present absent]
  rfl

theorem containsText_of_isPrefixOf {sub s : List Char} (found : sub.isPrefixOf s = true) :
    containsText s sub = true ↔ sub <:+: s := by
  rw [containsText, indexOfText?_of_isPrefixOf found]
  exact iff_of_true rfl (List.isPrefixOf_iff_prefix.mp found).isInfix

/-- `sub in s` holds exactly when `sub` is a part of `s`. -/
theorem containsText_eq_true_iff {sub : List Char} :
    ∀ {s : List Char}, containsText s sub = true ↔ sub <:+: s
  | [] => by
      by_cases found : sub.isPrefixOf [] = true
      · exact containsText_of_isPrefixOf found
      · rw [containsText, indexOfText?, if_neg found]
        exact iff_of_false (by simp) fun part => found (by rw [List.infix_nil.mp part]; rfl)
  | c :: rest => by
      by_cases found : sub.isPrefixOf (c :: rest) = true
      · exact containsText_of_isPrefixOf found
      · rw [containsText, indexOfText?, if_neg found, Option.isSome_map', List.infix_cons_iff, ← containsText, containsText_eq_true_iff]
        exact ⟨.inr, fun part => part.resolve_left fun prefixed =>
          found (List.isPrefixOf_iff_prefix.mpr prefixed)⟩

/-! ### Upper case -/

/-- `Char.toUpper` keeps a character or gives an upper-case letter. -/
theorem Char.toUpper_cases (c : Char) : c.toUpper = c ∨ c.toUpper.isUpper = true := by
  unfold Char.toUpper
  dsimp only
  split
  · rename_i lower
    have valid : (c.toNat - 32).isValidChar := Or.inl (by omega)
    refine .inr ?_
    simp only [Char.isUpper, Char.ofNat, Char.ofNatAux, dif_pos valid, Bool.and_eq_true,
      decide_eq_true_eq]
    constructor <;> simp [UInt32.le_def, BitVec.le_def] <;> omega
  · exact .inl rfl

/-- A character of an upper-cased string that is not an upper-case letter was in the string. -/
theorem mem_of_mem_upper {x : Char} (notUpper : x.isUpper = false) {s : List Char}
    (member : x ∈ upper s) : x ∈ s := by
  obtain ⟨c, present, rfl⟩ := List.mem_map.mp member
  rcases Char.toUpper_cases c with same | upperCase
  · rwa [same]
  · rw [upperCase] at notUpper
    cases notUpper

theorem upper_append (s t : List Char) : upper (s ++ t) = upper s ++ upper t := List.map_append _ _ _

theorem upper_join (sep : List Char) : ∀ parts : List (List Char),
    upper (join sep parts) = join (upper sep) (parts.map upper)
  | [] => rfl
  | [_] => by rw [List.map_singleton, join_singleton, join_singleton]
  | first :: next :: rest => by
      rw [join_cons_cons, List.map_cons, List.map_cons, join_cons_cons, upper_append, upper_append,
        ← List.map_cons, upper_join sep (next :: rest)]

end Cqlite.PyStr
