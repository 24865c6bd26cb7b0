import Cqlite.Construction.CqlTypes
import Cqlite.Proof.PyString.Methods
import Mathlib.Logic.ExistsUnique

/-!
`_split_type_params` splits a bracket-balanced string exactly at its commas of bracket depth 0.
Bracket depth, balance and top-level commas are predicates on strings; a string has one cut at
its top-level commas, and the loop of the function reads the cut one segment at a time.
-/

namespace Cqlite.Types

open PyStr

/-! ### Bracket depth -/

/-- The bracket depth after `s`: its `'<'` less its `'>'`. -/
def depth (s : List Char) : Int := (s.count '<' : Int) - s.count '>'

/-- The change of depth at one character, as the loop of `_split_type_params` counts it. -/
def bracketDelta (c : Char) : Int := if c = '<' then 1 else if c = '>' then -1 else 0

@[simp] theorem depth_nil : depth [] = 0 := rfl

@[simp] theorem depth_cons (c : Char) (s : List Char) : depth (c :: s) = bracketDelta c + depth s := by
  by_cases opening : c = '<'
  · subst opening; simp [depth, bracketDelta, List.count_cons]; omega
  · by_cases closing : c = '>'
    · subst closing; simp [depth, bracketDelta, List.count_cons]; omega
    · simp [depth, bracketDelta, List.count_cons, opening, closing, Ne.symm opening,
        Ne.symm closing]

@[simp] theorem depth_append (s t : List Char) : depth (s ++ t) = depth s + depth t := by
  simp only [depth, List.count_append]
  omega

/-- Read from depth `d`, every prefix of `s` stays at depth 0 or above. -/
def NonnegFrom (d : Int) (s : List Char) : Prop := ∀ pre ∈ s.inits, 0 ≤ d + depth pre

/-- `'<'` and `'>'` are balanced in `s`: every prefix has at least as many `'<'` as `'>'`, and the
whole string has as many of each. -/
def Balanced (s : List Char) : Prop := (∀ pre ∈ s.inits, 0 ≤ depth pre) ∧ depth s = 0

instance (s : List Char) : Decidable (Balanced s) := inferInstanceAs (Decidable (_ ∧ _))

theorem balanced_iff (s : List Char) : Balanced s ↔ NonnegFrom 0 s ∧ depth s = 0 := by
  simp [Balanced, NonnegFrom]

/-- Read from depth `d`, `s` has a comma where the depth is 0. -/
def CommaAtDepthZero (d : Int) (s : List Char) : Prop :=
  ∃ pre ∈ s.inits, pre ++ [','] <+: s ∧ d + depth pre = 0

/-- `s` has a comma at bracket depth 0. -/
def HasTopLevelComma (s : List Char) : Prop := CommaAtDepthZero 0 s

instance : DecidablePred HasTopLevelComma := fun s =>
  inferInstanceAs (Decidable (∃ pre ∈ s.inits, _))

theorem NonnegFrom.start {d : Int} {s : List Char} (nonneg : NonnegFrom d s) : 0 ≤ d := by
  simpa using nonneg [] (by simp)

@[simp] theorem nonnegFrom_nil (d : Int) : NonnegFrom d [] ↔ 0 ≤ d := by simp [NonnegFrom]

theorem nonnegFrom_cons (d : Int) (c : Char) (s : List Char) :
    NonnegFrom d (c :: s) ↔ 0 ≤ d ∧ NonnegFrom (d + bracketDelta c) s := by
  simp [NonnegFrom, List.inits_cons, Int.add_assoc]

theorem nonnegFrom_append (d : Int) (a b : List Char) :
    NonnegFrom d (a ++ b) ↔ NonnegFrom d a ∧ NonnegFrom (d + depth a) b := by
  induction a generalizing d with
  | nil => simpa using fun nonneg => NonnegFrom.start nonneg
  | cons c rest ih =>
      rw [List.cons_append, nonnegFrom_cons, ih, nonnegFrom_cons, depth_cons, Int.add_assoc,
        and_assoc]

@[simp] theorem not_commaAtDepthZero_nil (d : Int) : ¬CommaAtDepthZero d [] := by
  simp [CommaAtDepthZero]

theorem commaAtDepthZero_cons (d : Int) (c : Char) (s : List Char) :
    CommaAtDepthZero d (c :: s) ↔ (c = ',' ∧ d = 0) ∨ CommaAtDepthZero (d + bracketDelta c) s := by
  simp only [CommaAtDepthZero, List.inits_cons, List.mem_cons, List.mem_map]
  constructor
  · rintro ⟨pre, rfl | ⟨rest, restInits, rfl⟩, commaPrefix, atZero⟩
    · simp at commaPrefix atZero
      exact .inl ⟨commaPrefix.symm, by omega⟩
    · simp only [depth_cons, List.cons_append, List.cons_prefix_cons, true_and] at commaPrefix atZero
      exact .inr ⟨rest, restInits, commaPrefix, by omega⟩
  · rintro (⟨rfl, rfl⟩ | ⟨rest, restInits, commaPrefix, atZero⟩)
    · exact ⟨[], .inl rfl, by simp, by simp⟩
    · exact ⟨c :: rest, .inr ⟨rest, restInits, rfl⟩, by simpa using commaPrefix, by simp; omega⟩

theorem commaAtDepthZero_append (d : Int) (a b : List Char) :
    CommaAtDepthZero d (a ++ b) ↔ CommaAtDepthZero d a ∨ CommaAtDepthZero (d + depth a) b := by
  induction a generalizing d with
  | nil => simp
  | cons c rest ih =>
      rw [List.cons_append, commaAtDepthZero_cons, ih, commaAtDepthZero_cons, depth_cons,
        Int.add_assoc, or_assoc]

/-- A string whose prefixes stay at depth 0 or above has no comma below a positive depth. -/
theorem NonnegFrom.not_commaAtDepthZero {d : Int} {s : List Char} (nonneg : NonnegFrom 0 s)
    (positive : 0 < d) : ¬CommaAtDepthZero d s := by
  rintro ⟨pre, member, -, atZero⟩
  have := nonneg pre member
  omega

/-! ### Strings without brackets or commas -/

/-- `s` has no bracket and no comma: a name or a run of whitespace. -/
def Plain (s : List Char) : Prop := ∀ c ∈ s, c ≠ '<' ∧ c ≠ '>' ∧ c ≠ ','

theorem Plain.depth_eq {s : List Char} (plain : Plain s) : depth s = 0 := by
  induction s with
  | nil => rfl
  | cons c rest ih =>
      obtain ⟨notOpening, notClosing, -⟩ := plain c (List.mem_cons_self _ _)
      rw [depth_cons, bracketDelta, if_neg notOpening, if_neg notClosing,
        ih fun c member => plain c (List.mem_cons_of_mem _ member)]
      rfl

theorem Plain.nonnegFrom {d : Int} {s : List Char} (plain : Plain s) : NonnegFrom d s ↔ 0 ≤ d := by
  refine ⟨NonnegFrom.start, fun start pre member => ?_⟩
  have := Plain.depth_eq fun c inPre => plain c ((List.mem_inits _ _).mp member |>.subset inPre)
  omega

theorem Plain.not_commaAtDepthZero {d : Int} {s : List Char} (plain : Plain s) :
    ¬CommaAtDepthZero d s := by
  rintro ⟨pre, -, commaPrefix, -⟩
  exact (plain ',' (commaPrefix.subset (by simp))).2.2 rfl

theorem plain_nil : Plain [] := fun _ member => absurd member (List.not_mem_nil _)

/-- Whitespace is plain. -/
theorem plain_of_blank {s : List Char} (allSpace : ∀ c ∈ s, isSpace c = true) : Plain s := by
  intro c member
  have space := allSpace c member
  refine ⟨?_, ?_, ?_⟩ <;> rintro rfl <;> exact absurd space (by decide)

/-- Plain strings around `s` change neither its balance nor its top-level commas. -/
theorem balanced_padded {before after : List Char} (beforePlain : Plain before)
    (afterPlain : Plain after) (s : List Char) :
    Balanced (before ++ s ++ after) ↔ Balanced s := by
  simp only [balanced_iff, nonnegFrom_append, beforePlain.nonnegFrom, afterPlain.nonnegFrom,
    depth_append, beforePlain.depth_eq, afterPlain.depth_eq, Int.zero_add, Int.add_zero,
    Int.le_refl, true_and]
  constructor
  · rintro ⟨⟨nonneg, -⟩, total⟩; exact ⟨nonneg, total⟩
  · rintro ⟨nonneg, total⟩; exact ⟨⟨nonneg, by omega⟩, total⟩

theorem hasTopLevelComma_padded {before after : List Char} (beforePlain : Plain before)
    (afterPlain : Plain after) (s : List Char) :
    HasTopLevelComma (before ++ s ++ after) ↔ HasTopLevelComma s := by
  simp only [HasTopLevelComma, commaAtDepthZero_append, beforePlain.not_commaAtDepthZero,
    afterPlain.not_commaAtDepthZero, beforePlain.depth_eq, Int.zero_add, false_or, or_false]

/-- Stripping keeps a balanced string balanced. -/
theorem Balanced.strip {s : List Char} (balanced : Balanced s) : Balanced (strip s) := by
  obtain ⟨before, after, split, beforeSpace, afterSpace⟩ := strip_decompose s
  rw [split] at balanced
  exact (balanced_padded (plain_of_blank beforeSpace) (plain_of_blank afterSpace) _).mp balanced

/-- Stripping adds no top-level comma. -/
theorem not_hasTopLevelComma_strip {s : List Char} (noComma : ¬HasTopLevelComma s) :
    ¬HasTopLevelComma (strip s) := by
  obtain ⟨before, after, split, beforeSpace, afterSpace⟩ := strip_decompose s
  rw [split, hasTopLevelComma_padded (plain_of_blank beforeSpace) (plain_of_blank afterSpace)]
    at noComma
  exact noComma

/-! ### The cut at top-level commas -/

/-- `s` cut at its commas of bracket depth 0 into `segments`. -/
inductive TopLevelCut : List Char → List (List Char) → Prop where
  /-- The last segment, with no comma at depth 0. -/
  | last (segment : List Char) (noComma : ¬HasTopLevelComma segment) : TopLevelCut segment [segment]
  /-- A segment that ends at depth 0 with no comma at depth 0, the comma after it, and the cut of
  the rest. -/
  | comma (segment rest : List Char) (segments : List (List Char))
      (noComma : ¬HasTopLevelComma segment) (closed : depth segment = 0)
      (cut : TopLevelCut rest segments) : TopLevelCut (segment ++ ',' :: rest) (segment :: segments)

theorem TopLevelCut.ne_nil {s : List Char} {segments : List (List Char)}
    (cut : TopLevelCut s segments) : segments ≠ [] := by
  cases cut <;> simp

/-- The first comma at depth 0, with none before it. -/
theorem CommaAtDepthZero.first {d : Int} {s : List Char} (comma : CommaAtDepthZero d s) :
    ∃ pre rest, s = pre ++ ',' :: rest ∧ d + depth pre = 0 ∧ ¬CommaAtDepthZero d pre := by
  induction s generalizing d with
  | nil => simp at comma
  | cons c rest ih =>
      by_cases here : c = ',' ∧ d = 0
      · obtain ⟨rfl, rfl⟩ := here
        exact ⟨[], rest, rfl, by simp, by simp⟩
      · obtain ⟨pre, after, rfl, atZero, before⟩ :=
          ih (((commaAtDepthZero_cons _ _ _).mp comma).resolve_left here)
        refine ⟨c :: pre, after, rfl, by rw [depth_cons]; omega, ?_⟩
        rw [commaAtDepthZero_cons]
        exact not_or.mpr ⟨here, before⟩

/-- Every string has a cut at its top-level commas. -/
theorem topLevelCut_exists (s : List Char) : ∃ segments, TopLevelCut s segments := by
  by_cases comma : HasTopLevelComma s
  · obtain ⟨segment, rest, split, closed, noComma⟩ := CommaAtDepthZero.first comma
    have shorter : rest.length < s.length := by rw [split]; simp; omega
    obtain ⟨segments, cut⟩ := topLevelCut_exists rest
    exact split ▸ ⟨segment :: segments, .comma segment rest segments noComma (by simpa using closed) cut⟩
  · exact ⟨[s], .last s comma⟩
termination_by s.length

/-- A segment closed at depth 0 and followed by a comma gives a top-level comma. -/
theorem hasTopLevelComma_of_closed {segment rest : List Char} (closed : depth segment = 0) :
    HasTopLevelComma (segment ++ ',' :: rest) := by
  rw [HasTopLevelComma, commaAtDepthZero_append, commaAtDepthZero_cons]
  exact .inr (.inl ⟨rfl, by simpa using closed⟩)

/-- The cut at top-level commas is unique. -/
theorem TopLevelCut.unique {s : List Char} {segments others : List (List Char)}
    (cut : TopLevelCut s segments) (other : TopLevelCut s others) : segments = others := by
  suffices general : ∀ {s' : List Char} {others : List (List Char)}, TopLevelCut s' others →
      s = s' → segments = others from general other rfl
  intro s' others' other' same
  clear other
  induction cut generalizing s' others' with
  | last segment noComma =>
      cases other' with
      | last => rw [same]
      | comma _ _ _ _ closed => exact absurd (same ▸ hasTopLevelComma_of_closed closed) noComma
  | comma segment rest segments noComma closed cut ih =>
      cases other' with
      | last _ otherNoComma => exact absurd (same ▸ hasTopLevelComma_of_closed closed) otherNoComma
      | comma otherSegment otherRest others otherNoComma otherClosed otherCut =>
          rcases List.append_eq_append_iff.mp same with ⟨middle, longer, tail⟩ | ⟨middle, longer, tail⟩
          · cases middle with
            | nil =>
                simp only [List.append_nil, List.nil_append, List.cons.injEq, true_and] at longer tail
                rw [longer, ih otherCut tail]
            | cons c middle =>
                obtain ⟨rfl, rfl⟩ := List.cons.inj tail
                exact absurd (longer ▸ hasTopLevelComma_of_closed closed) otherNoComma
          · cases middle with
            | nil =>
                simp only [List.append_nil, List.nil_append, List.cons.injEq, true_and] at longer tail
                rw [longer, ih otherCut tail.symm]
            | cons c middle =>
                obtain ⟨rfl, rfl⟩ := List.cons.inj tail
                exact absurd (longer ▸ hasTopLevelComma_of_closed otherClosed) noComma

/-- No segment of a cut has a comma at depth 0. -/
theorem TopLevelCut.noComma {s : List Char} {segments : List (List Char)}
    (cut : TopLevelCut s segments) : ∀ segment ∈ segments, ¬HasTopLevelComma segment := by
  induction cut with
  | last segment noComma => simpa using noComma
  | comma segment rest segments noComma closed cut ih =>
      exact List.forall_mem_cons.mpr ⟨noComma, ih⟩

/-- Every segment of a cut of a balanced string is balanced. -/
theorem TopLevelCut.balanced {s : List Char} {segments : List (List Char)}
    (cut : TopLevelCut s segments) (balanced : Balanced s) :
    ∀ segment ∈ segments, Balanced segment := by
  induction cut with
  | last segment noComma => simpa using balanced
  | comma segment rest segments noComma closed cut ih =>
      have commaDelta : bracketDelta ',' = 0 := by decide
      rw [balanced_iff, nonnegFrom_append, nonnegFrom_cons, depth_append, depth_cons, closed,
        commaDelta, Int.add_zero, Int.zero_add, Int.zero_add] at balanced
      obtain ⟨⟨nonneg, -, restNonneg⟩, total⟩ := balanced
      exact List.forall_mem_cons.mpr ⟨(balanced_iff _).mpr ⟨nonneg, closed⟩,
        ih ((balanced_iff _).mpr ⟨restNonneg, by omega⟩)⟩

/-! ### The loop of `_split_type_params` over a cut -/

/-- A character that is not a comma at depth 0 joins the current parameter and moves the depth. -/
theorem SplitState.step_append {parts : List (List Char)} {current : List Char} {d : Int}
    {c : Char} (notCut : ¬(c = ',' ∧ d = 0)) :
    SplitState.step ⟨parts, current, d⟩ c = ⟨parts, current ++ [c], d + bracketDelta c⟩ := by
  unfold step bracketDelta
  split_ifs <;> simp_all [Int.sub_eq_add_neg]

/-- A comma at depth 0 closes the current parameter. -/
theorem SplitState.step_cut (parts : List (List Char)) (current : List Char) :
    SplitState.step ⟨parts, current, 0⟩ ',' = ⟨parts ++ [strip current], [], 0⟩ := by
  simp [step]

/-- With no comma at depth 0, a segment is read into the current parameter. -/
theorem foldl_step_segment {segment : List Char} :
    ∀ {parts : List (List Char)} {current : List Char} {d : Int},
      ¬CommaAtDepthZero d segment →
      segment.foldl SplitState.step ⟨parts, current, d⟩ =
        ⟨parts, current ++ segment, d + depth segment⟩ := by
  induction segment with
  | nil => intros; simp
  | cons c rest ih =>
      intro parts current d noComma
      rw [commaAtDepthZero_cons, not_or] at noComma
      rw [List.foldl_cons, SplitState.step_append noComma.1, ih noComma.2, depth_cons,
        Int.add_assoc, List.append_assoc, List.singleton_append]

/-- Reading a cut string closes every segment but the last, which stays current. -/
theorem foldl_step_cut {s : List Char} {segments : List (List Char)}
    (cut : TopLevelCut s segments) (parts : List (List Char)) :
    s.foldl SplitState.step ⟨parts, [], 0⟩ =
      ⟨parts ++ (segments.map strip).dropLast, segments.getLast?.getD [],
        depth (segments.getLast?.getD [])⟩ := by
  induction cut generalizing parts with
  | last segment noComma => simpa using foldl_step_segment noComma
  | comma segment rest segments noComma closed cut ih =>
      obtain ⟨next, others, rfl⟩ := List.exists_cons_of_ne_nil cut.ne_nil
      rw [List.foldl_append, List.foldl_cons, foldl_step_segment noComma, List.nil_append,
        Int.zero_add, closed, SplitState.step_cut, ih]
      simp

/-- The stripped segments, without the last one when it is blank. -/
def strippedSegments (segments : List (List Char)) : List (List Char) :=
  if (segments.map strip).getLast? = some [] then (segments.map strip).dropLast
  else segments.map strip

/-- `_split_type_params` returns the stripped segments of the cut at top-level commas. -/
theorem splitTypeParams_eq_of_cut {s : List Char} {segments : List (List Char)}
    (cut : TopLevelCut s segments) : splitTypeParams s = strippedSegments segments := by
  obtain ⟨init, last, rfl⟩ : ∃ init last, segments = init ++ [last] :=
    ⟨_, _, (List.dropLast_append_getLast cut.ne_nil).symm⟩
  unfold splitTypeParams strippedSegments
  rw [foldl_step_cut cut]
  by_cases blank : strip last = []
  · simp [blank]
  · simp [blank, List.isEmpty_iff]

/-- `strippedSegments` reads only the stripped segments. -/
theorem strippedSegments_congr {segments others : List (List Char)}
    (same : segments.map strip = others.map strip) :
    strippedSegments segments = strippedSegments others := by
  rw [strippedSegments, strippedSegments, same]

/-- Blanks before a cut string join its first segment. -/
theorem TopLevelCut.blank_append {s : List Char} {segments : List (List Char)}
    (cut : TopLevelCut s segments) {blank : List Char} (allSpace : ∀ c ∈ blank, isSpace c = true) :
    ∃ others, TopLevelCut (blank ++ s) others ∧ others.map strip = segments.map strip := by
  have noComma : ∀ {segment}, ¬HasTopLevelComma segment → ¬HasTopLevelComma (blank ++ segment) :=
    fun noComma => by
      rwa [← List.append_nil (blank ++ _), hasTopLevelComma_padded (plain_of_blank allSpace) plain_nil]
  cases cut with
  | last _ segmentNoComma =>
      exact ⟨[blank ++ s], .last _ (noComma segmentNoComma), by simp [strip_blank_append allSpace]⟩
  | comma segment rest segments segmentNoComma closed cut =>
      refine ⟨(blank ++ segment) :: segments, ?_, by simp [strip_blank_append allSpace]⟩
      rw [← List.append_assoc]
      exact .comma _ _ _ (noComma segmentNoComma)
        (by rw [depth_append, (plain_of_blank allSpace).depth_eq, closed]; rfl) cut

/-- Blanks after a cut string join its last segment. -/
theorem TopLevelCut.append_blank {s : List Char} {segments : List (List Char)}
    (cut : TopLevelCut s segments) {blank : List Char} (allSpace : ∀ c ∈ blank, isSpace c = true) :
    ∃ others, TopLevelCut (s ++ blank) others ∧ others.map strip = segments.map strip := by
  induction cut with
  | last segment noComma =>
      refine ⟨[segment ++ blank], .last _ ?_, by simp [strip_append_blank _ allSpace]⟩
      rwa [← List.nil_append (segment ++ blank), ← List.append_assoc,
        hasTopLevelComma_padded plain_nil (plain_of_blank allSpace)]
  | comma segment rest segments noComma closed cut ih =>
      obtain ⟨others, otherCut, same⟩ := ih
      refine ⟨segment :: others, ?_, by simp [same]⟩
      rw [List.append_assoc, List.cons_append]
      exact .comma _ _ _ noComma closed otherCut

/-- Blanks around a string do not change how `_split_type_params` splits it. -/
theorem splitTypeParams_padded {before after : List Char}
    (beforeSpace : ∀ c ∈ before, isSpace c = true) (afterSpace : ∀ c ∈ after, isSpace c = true)
    (s : List Char) : splitTypeParams (before ++ s ++ after) = splitTypeParams s := by
  obtain ⟨segments, cut⟩ := topLevelCut_exists s
  obtain ⟨padded, paddedCut, paddedSame⟩ := cut.blank_append beforeSpace
  obtain ⟨both, bothCut, bothSame⟩ := paddedCut.append_blank afterSpace
  rw [splitTypeParams_eq_of_cut bothCut, splitTypeParams_eq_of_cut cut,
    strippedSegments_congr (bothSame.trans paddedSame)]

/-- Stripping a string first does not change how `_split_type_params` splits it. -/
theorem splitTypeParams_strip (s : List Char) : splitTypeParams (strip s) = splitTypeParams s := by
  obtain ⟨before, after, split, beforeSpace, afterSpace⟩ := strip_decompose s
  conv_rhs => rw [split]
  rw [splitTypeParams_padded beforeSpace afterSpace]

/-- `_split_type_params` splits a balanced string exactly at its commas of depth 0: the string has
one cut at them, the function returns its stripped segments without a blank last one, and every
part is balanced with no comma at depth 0. -/
theorem splitTypeParams_topLevelCommas (s : List Char) (balanced : Balanced s) :
    (∃! segments, TopLevelCut s segments) ∧
      ∀ segments, TopLevelCut s segments →
        splitTypeParams s = strippedSegments segments ∧
          ∀ part ∈ splitTypeParams s, Balanced part ∧ ¬HasTopLevelComma part := by
  obtain ⟨segments, cut⟩ := topLevelCut_exists s
  refine ⟨⟨segments, cut, fun others other => (cut.unique other).symm⟩, fun segments cut => ?_⟩
  refine ⟨splitTypeParams_eq_of_cut cut, fun part member => ?_⟩
  rw [splitTypeParams_eq_of_cut cut, strippedSegments] at member
  have stripped : part ∈ segments.map strip := by
    split at member
    · exact (List.dropLast_sublist _).subset member
    · exact member
  obtain ⟨segment, inCut, rfl⟩ := List.mem_map.mp stripped
  exact ⟨(cut.balanced balanced segment inCut).strip,
    not_hasTopLevelComma_strip (cut.noComma segment inCut)⟩

/-- A map's two parameters, the second one nested. -/
theorem splitTypeParams_topLevelCommas_mapParameters :
    Balanced "int, map<text,int>".toList ∧
      ((∃! segments, TopLevelCut "int, map<text,int>".toList segments) ∧
        ∀ segments, TopLevelCut "int, map<text,int>".toList segments →
          splitTypeParams "int, map<text,int>".toList = strippedSegments segments ∧
            ∀ part ∈ splitTypeParams "int, map<text,int>".toList,
              Balanced part ∧ ¬HasTopLevelComma part) :=
  ⟨by decide, splitTypeParams_topLevelCommas _ (by decide)⟩

end Cqlite.Types
