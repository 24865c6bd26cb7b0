import Cqlite.Proof.Types.Split

/-!
The type-string grammar: type terms over the simple names of `CQLType` and the four collection
constructors, and their printed forms, with every name spelled in any letter case and whitespace
around every parameter. Every printed type is balanced, has no comma at bracket depth 0, and has
no whitespace at either end.
-/

namespace Cqlite.Types

open PyStr

/-- The four collection members of `CQLType`. -/
def CQLType.isCollection : CQLType → Bool
  | .list | .set | .map | .tuple => true
  | _ => false

/-- A simple type name: a member of `CQLType` other than a collection. -/
structure SimpleName where
  name : CQLType
  simple : name.isCollection = false

/-- The types of the type-string grammar. -/
inductive TypeTerm where
  | simple (name : SimpleName)
  | list (element : TypeTerm)
  | set (element : TypeTerm)
  | map (key value : TypeTerm)
  | tuple (first : TypeTerm) (rest : List TypeTerm)

/-- The constructor or simple name of a type, in lower case. -/
def TypeTerm.name : TypeTerm → List Char
  | .simple name => name.name.value
  | .list _ => CQLType.list.value
  | .set _ => CQLType.set.value
  | .map _ _ => CQLType.map.value
  | .tuple _ _ => CQLType.tuple.value

/-- A spelling of `word` in any letter case. -/
structure Spelling (word : List Char) where
  text : List Char
  lower_text : lower text = word

/-- Whitespace around a parameter. -/
structure Padding where
  text : List Char
  blank : ∀ c ∈ text, isSpace c = true

mutual
/-- A printed type: every name in some letter case, whitespace around every parameter. -/
inductive PrintedType where
  | simple (name : SimpleName) (spelling : Spelling name.name.value)
  | list (spelling : Spelling CQLType.list.value) (element : Parameter)
  | set (spelling : Spelling CQLType.set.value) (element : Parameter)
  | map (spelling : Spelling CQLType.map.value) (key value : Parameter)
  | tuple (spelling : Spelling CQLType.tuple.value) (first : Parameter) (rest : List Parameter)

/-- A printed parameter, with whitespace before and after it. -/
inductive Parameter where
  | padded (before : Padding) (type : PrintedType) (after : Padding)
end

/-- The type of a printed parameter. -/
def Parameter.type : Parameter → PrintedType
  | .padded _ type _ => type

/-- Parameters separated by commas. -/
def commaSeparated : List Char → List (List Char) → List Char
  | first, [] => first
  | first, next :: rest => first ++ ',' :: commaSeparated next rest

/-- A constructor name and its parameters in angle brackets. -/
def withParameters (name first : List Char) (rest : List (List Char)) : List Char :=
  name ++ '<' :: commaSeparated first rest ++ ['>']

theorem withParameters_eq (name first : List Char) (rest : List (List Char)) :
    withParameters name first rest = name ++ '<' :: (commaSeparated first rest ++ ['>']) := by
  simp [withParameters]

mutual
/-- The text of a printed type. -/
def PrintedType.text : PrintedType → List Char
  | .simple _ spelling => spelling.text
  | .list spelling element => withParameters spelling.text element.text []
  | .set spelling element => withParameters spelling.text element.text []
  | .map spelling key value => withParameters spelling.text key.text [value.text]
  | .tuple spelling first rest => withParameters spelling.text first.text (Parameter.textAll rest)

/-- The text of a printed parameter. -/
def Parameter.text : Parameter → List Char
  | .padded before type after => before.text ++ type.text ++ after.text

/-- The texts of printed parameters. -/
def Parameter.textAll : List Parameter → List (List Char)
  | [] => []
  | parameter :: rest => parameter.text :: Parameter.textAll rest
end

mutual
/-- The type that a printed type writes. -/
def PrintedType.term : PrintedType → TypeTerm
  | .simple name _ => .simple name
  | .list _ element => .list element.term
  | .set _ element => .set element.term
  | .map _ key value => .map key.term value.term
  | .tuple _ first rest => .tuple first.term (Parameter.termAll rest)

/-- The type that a printed parameter writes. -/
def Parameter.term : Parameter → TypeTerm
  | .padded _ type _ => type.term

/-- The types that printed parameters write. -/
def Parameter.termAll : List Parameter → List TypeTerm
  | [] => []
  | parameter :: rest => parameter.term :: Parameter.termAll rest
end

theorem Parameter.textAll_eq (parameters : List Parameter) :
    Parameter.textAll parameters = parameters.map Parameter.text := by
  induction parameters with
  | nil => rfl
  | cons parameter rest ih => rw [textAll, ih, List.map_cons]

theorem Parameter.termAll_eq (parameters : List Parameter) :
    Parameter.termAll parameters = parameters.map Parameter.term := by
  induction parameters with
  | nil => rfl
  | cons parameter rest ih => rw [termAll, ih, List.map_cons]

theorem Parameter.term_eq (parameter : Parameter) : parameter.term = parameter.type.term := by
  cases parameter; rfl

/-! ### Every type has a printed form -/

theorem CQLType.lower_value (name : CQLType) : lower name.value = name.value := by
  cases name <;> decide

/-- A name in lower case. -/
def Spelling.lowerCase (name : CQLType) : Spelling name.value := ⟨name.value, name.lower_value⟩

/-- No whitespace. -/
def Padding.none : Padding := ⟨[], fun _ member => absurd member (List.not_mem_nil _)⟩

mutual
/-- A type printed in lower case with no whitespace. -/
def TypeTerm.print : TypeTerm → PrintedType
  | .simple name => .simple name (.lowerCase name.name)
  | .list element => .list (.lowerCase .list) (.padded .none element.print .none)
  | .set element => .set (.lowerCase .set) (.padded .none element.print .none)
  | .map key value =>
      .map (.lowerCase .map) (.padded .none key.print .none) (.padded .none value.print .none)
  | .tuple first rest =>
      .tuple (.lowerCase .tuple) (.padded .none first.print .none) (TypeTerm.printAll rest)

/-- Types printed in lower case with no whitespace, as parameters. -/
def TypeTerm.printAll : List TypeTerm → List Parameter
  | [] => []
  | type :: rest => .padded .none type.print .none :: TypeTerm.printAll rest
end

mutual
/-- Every type is written by its lower-case printed form. -/
theorem TypeTerm.print_term : (type : TypeTerm) → type.print.term = type
  | .simple _ => rfl
  | .list element => by rw [print, PrintedType.term, Parameter.term, element.print_term]
  | .set element => by rw [print, PrintedType.term, Parameter.term, element.print_term]
  | .map key value => by
      rw [print, PrintedType.term, Parameter.term, Parameter.term, key.print_term, value.print_term]
  | .tuple first rest => by
      rw [print, PrintedType.term, Parameter.term, first.print_term, TypeTerm.printAll_term rest]

theorem TypeTerm.printAll_term : (types : List TypeTerm) →
    Parameter.termAll (TypeTerm.printAll types) = types
  | [] => rfl
  | type :: rest => by
      rw [printAll, Parameter.termAll, Parameter.term, type.print_term, TypeTerm.printAll_term rest]
end

/-! ### Letters -/

/-- A character whose lower case is a lower-case letter is a letter. -/
theorem isAlpha_of_isLower_toLower {c : Char} (lowered : c.toLower.isLower = true) :
    c.isAlpha = true := by
  unfold Char.toLower at lowered
  dsimp only at lowered
  unfold Char.isAlpha
  split at lowered
  · rename_i upper
    have upperCase : c.isUpper = true := by
      simp only [Char.isUpper, Bool.and_eq_true, decide_eq_true_eq]
      exact ⟨upper.1, upper.2⟩
    simp [upperCase]
  · simp [lowered]

/-- A letter is not whitespace. -/
theorem isSpace_of_isAlpha {c : Char} (alpha : c.isAlpha = true) : isSpace c = false := by
  simp only [Char.isAlpha, Char.isUpper, Char.isLower, Bool.or_eq_true, Bool.and_eq_true,
    decide_eq_true_eq] at alpha
  change (65 ≤ c.toNat ∧ c.toNat ≤ 90) ∨ (97 ≤ c.toNat ∧ c.toNat ≤ 122) at alpha
  simp only [isSpace, Bool.or_eq_false_iff, Bool.and_eq_false_iff, decide_eq_false_iff_not,
    beq_eq_false_iff_ne, ne_eq]
  omega

/-- Letters are plain. -/
theorem plain_of_alpha {s : List Char} (alpha : ∀ c ∈ s, c.isAlpha = true) : Plain s := by
  intro c member
  have letter := alpha c member
  refine ⟨?_, ?_, ?_⟩ <;> rintro rfl <;> exact absurd letter (by decide)

/-- Every character of a spelling of a `CQLType` name is a letter. -/
theorem Spelling.alpha {name : CQLType} (spelling : Spelling name.value) :
    ∀ c ∈ spelling.text, c.isAlpha = true := by
  have lowerName : ∀ c ∈ name.value, c.isLower = true := by cases name <;> decide
  intro c member
  apply isAlpha_of_isLower_toLower
  apply lowerName
  rw [← spelling.lower_text]
  exact List.mem_map_of_mem _ member

theorem Spelling.ne_nil {name : CQLType} (spelling : Spelling name.value) : spelling.text ≠ [] := by
  intro empty
  have named : name.value ≠ [] := by cases name <;> decide
  exact named (by rw [← spelling.lower_text, empty]; rfl)

/-- A spelling has no `'<'`, so `split('<')` and `find('<')` stop after it. -/
theorem Spelling.not_mem_open {name : CQLType} (spelling : Spelling name.value) :
    '<' ∉ spelling.text :=
  fun member => (plain_of_alpha spelling.alpha '<' member).1 rfl

/-! ### Printed types are well formed -/

/-- The characters of printed types: letters, angle brackets, commas and whitespace. -/
def IsTypeChar (c : Char) : Prop :=
  c.isAlpha = true ∨ c = '<' ∨ c = '>' ∨ c = ',' ∨ isSpace c = true

/-- Balanced text of type characters: what the parameters of a printed type are. -/
structure TypeText (s : List Char) : Prop where
  balanced : Balanced s
  chars : ∀ c ∈ s, IsTypeChar c

/-- What every printed type is: balanced text of type characters with no comma at depth 0, that
starts with a letter and ends with a letter or `'>'`. -/
structure WellPrinted (s : List Char) extends TypeText s : Prop where
  noComma : ¬HasTopLevelComma s
  startsAlpha : ∀ c ∈ s.head?, c.isAlpha = true
  endsClosed : ∀ c ∈ s.getLast?, c.isAlpha = true ∨ c = '>'
  nonempty : s ≠ []

/-- A printed type has no whitespace at either end. -/
theorem WellPrinted.trimmed {s : List Char} (printed : WellPrinted s) : strip s = s :=
  strip_eq_self (fun c member => isSpace_of_isAlpha (printed.startsAlpha c member))
    fun c member => by
      rcases printed.endsClosed c member with alpha | rfl
      · exact isSpace_of_isAlpha alpha
      · decide

/-- A padded printed type is balanced text of type characters with no comma at depth 0, and it
strips back to the type. -/
theorem WellPrinted.padded {s : List Char} (printed : WellPrinted s) (before after : Padding) :
    TypeText (before.text ++ s ++ after.text) ∧ ¬HasTopLevelComma (before.text ++ s ++ after.text) ∧
      strip (before.text ++ s ++ after.text) = s := by
  have beforePlain := plain_of_blank before.blank
  have afterPlain := plain_of_blank after.blank
  refine ⟨⟨(balanced_padded beforePlain afterPlain s).mpr printed.balanced, ?_⟩,
    (hasTopLevelComma_padded beforePlain afterPlain s).not.mpr printed.noComma,
    (strip_padded before.blank after.blank s).trans printed.trimmed⟩
  simp only [List.mem_append]
  rintro c ((blank | inside) | blank)
  · exact .inr (.inr (.inr (.inr (before.blank c blank))))
  · exact printed.chars c inside
  · exact .inr (.inr (.inr (.inr (after.blank c blank))))

theorem NonnegFrom.mono {d e : Int} {s : List Char} (nonneg : NonnegFrom d s) (le : d ≤ e) :
    NonnegFrom e s := fun pre member => by have := nonneg pre member; omega

/-- Parameters separated by commas are balanced text of type characters. -/
theorem typeText_commaSeparated {first : List Char} {rest : List (List Char)}
    (parameters : ∀ parameter ∈ first :: rest, TypeText parameter) :
    TypeText (commaSeparated first rest) := by
  induction rest generalizing first with
  | nil => exact parameters first (List.mem_singleton_self _)
  | cons next rest ih =>
      obtain ⟨balanced, chars⟩ := parameters first (List.mem_cons_self _ _)
      obtain ⟨nonneg, total⟩ := (balanced_iff first).mp balanced
      obtain ⟨restBalanced, restChars⟩ :=
        ih fun parameter member => parameters parameter (List.mem_cons_of_mem _ member)
      obtain ⟨restNonneg, restTotal⟩ := (balanced_iff _).mp restBalanced
      have commaDelta : bracketDelta ',' = 0 := by decide
      refine ⟨?_, ?_⟩
      · rw [commaSeparated, balanced_iff, nonnegFrom_append, nonnegFrom_cons, depth_append,
          depth_cons, total, commaDelta]
        exact ⟨⟨nonneg, Int.le_refl 0, by simpa using restNonneg⟩, by simpa using restTotal⟩
      · simp only [commaSeparated, List.mem_append, List.mem_cons]
        rintro c (inFirst | rfl | inRest)
        · exact chars c inFirst
        · exact .inr (.inr (.inr (.inl rfl)))
        · exact restChars c inRest

/-- A spelled name alone is well printed. -/
theorem wellPrinted_spelling {name : CQLType} (spelling : Spelling name.value) :
    WellPrinted spelling.text := by
  have plain := plain_of_alpha spelling.alpha
  exact ⟨⟨(balanced_iff _).mpr ⟨plain.nonnegFrom.mpr (Int.le_refl 0), plain.depth_eq⟩,
      fun c member => .inl (spelling.alpha c member)⟩,
    plain.not_commaAtDepthZero,
    fun c member => spelling.alpha c (List.mem_of_mem_head? member),
    fun c member => .inl (spelling.alpha c (List.mem_of_mem_getLast? member)), spelling.ne_nil⟩

/-- A spelled constructor with its parameters in angle brackets is well printed. -/
theorem wellPrinted_withParameters {name : CQLType} (spelling : Spelling name.value)
    {first : List Char} {rest : List (List Char)} (body : TypeText (commaSeparated first rest)) :
    WellPrinted (withParameters spelling.text first rest) := by
  have plain := plain_of_alpha spelling.alpha
  obtain ⟨nonneg, total⟩ := (balanced_iff _).mp body.balanced
  have opening : bracketDelta '<' = 1 := by decide
  have closing : bracketDelta '>' = -1 := by decide
  rw [withParameters_eq]
  refine ⟨⟨?_, ?_⟩, ?_, ?_, ?_, by simp⟩
  · simp only [balanced_iff, nonnegFrom_append, nonnegFrom_cons, plain.nonnegFrom, depth_append,
      depth_cons, plain.depth_eq, total, opening, closing, depth_nil, nonnegFrom_nil]
    exact ⟨⟨by omega, by omega, nonneg.mono (by omega), by omega, by omega⟩, by omega⟩
  · simp only [List.mem_append, List.mem_cons, List.mem_singleton]
    rintro c (inName | rfl | inBody | rfl | impossible)
    · exact .inl (spelling.alpha c inName)
    · exact .inr (.inl rfl)
    · exact body.chars c inBody
    · exact .inr (.inr (.inl rfl))
    · exact absurd impossible (List.not_mem_nil c)
  · simp only [HasTopLevelComma, commaAtDepthZero_append, commaAtDepthZero_cons,
      plain.not_commaAtDepthZero, plain.depth_eq, opening, total, not_commaAtDepthZero_nil]
    have inside := nonneg.not_commaAtDepthZero (show (0 : Int) < 0 + 0 + 1 by omega)
    rintro (impossible | ⟨openComma, -⟩ | nested | ⟨closeComma, -⟩ | impossible)
    · exact impossible
    · exact absurd openComma (by decide)
    · exact inside nested
    · exact absurd closeComma (by decide)
    · exact impossible
  · intro c member
    rw [List.head?_append, List.head?_eq_head spelling.ne_nil] at member
    rw [Option.or_some, Option.mem_def, Option.some.injEq] at member
    exact member ▸ spelling.alpha _ (List.head_mem _)
  · intro c member
    rw [← List.cons_append, ← List.append_assoc, List.getLast?_concat, Option.mem_def,
      Option.some.injEq] at member
    exact .inr member.symm

mutual
/-- Every printed type is well printed. -/
theorem PrintedType.wellPrinted : (type : PrintedType) → WellPrinted type.text
  | .simple _ spelling => wellPrinted_spelling spelling
  | .list spelling element =>
      wellPrinted_withParameters spelling (typeText_commaSeparated (by simpa using element.typeText))
  | .set spelling element =>
      wellPrinted_withParameters spelling (typeText_commaSeparated (by simpa using element.typeText))
  | .map spelling key value =>
      wellPrinted_withParameters spelling
        (typeText_commaSeparated (by simpa using ⟨key.typeText, value.typeText⟩))
  | .tuple spelling first rest =>
      wellPrinted_withParameters spelling
        (typeText_commaSeparated (List.forall_mem_cons.mpr ⟨first.typeText, Parameter.typeTextAll rest⟩))

/-- Every printed parameter is balanced text of type characters. -/
theorem Parameter.typeText : (parameter : Parameter) → TypeText parameter.text
  | .padded before type after => (type.wellPrinted.padded before after).1

/-- Printed parameters are balanced text of type characters. -/
theorem Parameter.typeTextAll : (parameters : List Parameter) →
    ∀ text ∈ Parameter.textAll parameters, TypeText text
  | [] => by simp [Parameter.textAll]
  | parameter :: rest =>
      List.forall_mem_cons.mpr ⟨parameter.typeText, Parameter.typeTextAll rest⟩
end

/-- A printed parameter is balanced text of type characters with no comma at depth 0, and strips
to its type. -/
theorem Parameter.wellPadded (parameter : Parameter) :
    TypeText parameter.text ∧ ¬HasTopLevelComma parameter.text ∧
      strip parameter.text = parameter.type.text := by
  cases parameter with
  | padded before type after => exact type.wellPrinted.padded before after

end Cqlite.Types
