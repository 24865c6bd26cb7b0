import Mathlib.Data.List.Forall2
import Cqlite.Construction.PyValue

/-!
Loops in the `Except` monad, the sets and dicts that `s.add` and `d[key] = value` build, and `==` on
values without NaN. The members of a built set, and the keys of a built dict, are hashable and
pairwise unequal, so adding them again in order rebuilds the same set or dict; a value without NaN
equals itself.
-/

namespace Cqlite

/-! ### Loops in the `Except` monad -/

section Loops

variable {ε α β : Type}

theorem bind_eq_ok {x : Except ε α} {f : α → Except ε β} {b : β} :
    x >>= f = .ok b ↔ ∃ a, x = .ok a ∧ f a = .ok b := by
  cases x <;> simp [bind, Except.bind]

theorem map_eq_ok {x : Except ε α} {f : α → β} {b : β} :
    f <$> x = .ok b ↔ ∃ a, x = .ok a ∧ f a = b := by
  cases x <;> simp [Functor.map, Except.map]

/-- `mapM` reads its function only on the members of the list. -/
theorem mapM_congr_mem {f g : α → Except ε β} :
    ∀ {items : List α}, (∀ item ∈ items, f item = g item) → items.mapM f = items.mapM g
  | [], _ => rfl
  | item :: rest, same => by
      rw [List.mapM_cons, List.mapM_cons, same item (List.mem_cons_self _ _),
        mapM_congr_mem fun other member => same other (List.mem_cons_of_mem _ member)]

/-- `mapM` succeeds exactly when its function succeeds on each member, result by result. -/
theorem mapM_eq_ok_iff {f : α → Except ε β} :
    ∀ {items : List α} {results : List β},
      items.mapM f = .ok results ↔ List.Forall₂ (fun item result => f item = .ok result) items results
  | [], results => by rw [List.mapM_nil]; cases results <;> simp [pure, Except.pure]
  | item :: rest, results => by
      rw [List.mapM_cons]
      cases results with
      | nil => cases f item <;> cases rest.mapM f <;> simp [bind, Except.bind, pure, Except.pure]
      | cons result others =>
          rw [List.forall₂_cons, ← mapM_eq_ok_iff]
          cases f item <;> cases rest.mapM f <;> simp [bind, Except.bind, pure, Except.pure]

/-- Each result of a successful `mapM` comes from a member. -/
theorem exists_of_mapM_eq_ok {f : α → Except ε β} {items : List α} {results : List β}
    (mapped : items.mapM f = .ok results) {result : β} (member : result ∈ results) :
    ∃ item ∈ items, f item = .ok result := by
  have related := mapM_eq_ok_iff.mp mapped
  clear mapped
  induction related with
  | nil => exact absurd member (List.not_mem_nil _)
  | cons head _ ih =>
      rcases List.mem_cons.mp member with rfl | later
      · exact ⟨_, List.mem_cons_self _ _, head⟩
      · obtain ⟨item, present, converted⟩ := ih later
        exact ⟨item, List.mem_cons_of_mem _ present, converted⟩

/-- Result `i` of a successful `mapM` over the positions of a list comes from item `i`. -/
theorem mapM_enum_getElem {f : Nat × α → Except ε β} {items : List α} {results : List β}
    (mapped : items.enum.mapM f = .ok results) {i : Nat} (inside : i < results.length) :
    ∃ early : i < items.length, f (i, items[i]) = .ok results[i] := by
  have related := mapM_eq_ok_iff.mp mapped
  have early : i < items.length := by rw [← List.enum_length, related.length_eq]; exact inside
  exact ⟨early, by simpa using related.get (by simpa using early) inside⟩

/-- Each result of a successful `mapM` over the positions of a list, paired with a list of types,
comes from the item at its position and meets the type at that position. -/
theorem exists_of_mapM_enum_eq_ok {γ : Type} {f : Nat × α → Except ε β} {items : List α}
    {results : List β} (mapped : items.enum.mapM f = .ok results) {types : List γ} {entry : β × γ}
    (member : entry ∈ results.zip types) :
    ∃ i item, (item, entry.2) ∈ items.zip types ∧ types[i]? = some entry.2 ∧ f (i, item) = .ok entry.1 := by
  obtain ⟨i, inside, rfl⟩ := List.mem_iff_getElem.mp member
  rw [List.length_zip] at inside
  obtain ⟨early, conversion⟩ := mapM_enum_getElem mapped (Nat.lt_min.mp inside).1
  exact ⟨i, items[i], List.mem_iff_getElem.mpr
    ⟨i, by rw [List.length_zip]; exact Nat.lt_min.mpr ⟨early, (Nat.lt_min.mp inside).2⟩, by simp⟩,
    by simp, by simpa using conversion⟩

/-- A function that gives back the item at each position of a list gives back the list. -/
theorem mapM_enum_eq_ok_self {f : Nat × α → Except ε α} {items : List α}
    (fixed : ∀ i (inside : i < items.length), f (i, items[i]) = .ok items[i]) :
    items.enum.mapM f = .ok items :=
  mapM_eq_ok_iff.mpr (List.forall₂_iff_get.mpr
    ⟨List.enum_length, fun i _ inside => by simpa using fixed i inside⟩)

/-- A function that gives back each member of a list gives back the list. -/
theorem mapM_eq_ok_self {f : α → Except ε α} {items : List α}
    (fixed : ∀ item ∈ items, f item = .ok item) : items.mapM f = .ok items :=
  mapM_eq_ok_iff.mpr (List.forall₂_same.mpr fixed)

/-- `foldlM` reads its function only on the members of the list. -/
theorem foldlM_congr_mem {f g : β → α → Except ε β} :
    ∀ {items : List α} (init : β), (∀ built, ∀ item ∈ items, f built item = g built item) →
      items.foldlM f init = items.foldlM g init
  | [], _, _ => rfl
  | item :: rest, init, same => by
      rw [List.foldlM_cons, List.foldlM_cons, same init item (List.mem_cons_self _ _)]
      congr 1
      funext built
      exact foldlM_congr_mem built fun b other member => same b other (List.mem_cons_of_mem _ member)

/-- A property of the accumulator that each successful step keeps holds of the result. -/
theorem foldlM_invariant {f : β → α → Except ε β} (P : β → Prop) :
    ∀ {items : List α} {init result : β}, P init →
      (∀ built next, ∀ item ∈ items, P built → f built item = .ok next → P next) →
      items.foldlM f init = .ok result → P result
  | [], _, _, holds, _, done => by cases done; exact holds
  | item :: rest, init, result, holds, step, done => by
      rw [List.foldlM_cons, bind_eq_ok] at done
      obtain ⟨next, first, done⟩ := done
      exact foldlM_invariant P (step init next item (List.mem_cons_self _ _) holds first)
        (fun built next' other member => step built next' other (List.mem_cons_of_mem _ member))
        done

end Loops

/-! ### Sets -/

/-- The members of a set built by `s.add`: hashable, and none equal to a later one. -/
structure SetBuilt (items : List PyValue) : Prop where
  hashable : ∀ item ∈ items, item.hashCheck = .ok ()
  distinct : items.Pairwise fun earlier later => earlier.eq later = false

theorem setInsert_of_fresh {value : PyValue} :
    ∀ {items : List PyValue}, (∀ item ∈ items, item.eq value = false) →
      setInsert items value = items ++ [value]
  | [], _ => rfl
  | item :: rest, fresh => by
      rw [setInsert, if_neg (by simp [fresh item (List.mem_cons_self _ _)]),
        setInsert_of_fresh fun other member => fresh other (List.mem_cons_of_mem _ member)]
      rfl

/-- Adding to a set either leaves it as it is or appends a value unequal to every member. -/
theorem setInsert_cases (value : PyValue) :
    ∀ items : List PyValue, setInsert items value = items ∨
      (setInsert items value = items ++ [value] ∧ ∀ item ∈ items, item.eq value = false)
  | [] => .inr ⟨rfl, fun _ member => absurd member (List.not_mem_nil _)⟩
  | item :: rest => by
      rw [setInsert]
      split
      · exact .inl rfl
      · rename_i differ
        rcases setInsert_cases value rest with same | ⟨appended, fresh⟩
        · exact .inl (by rw [same])
        · refine .inr ⟨by rw [appended]; rfl, ?_⟩
          rintro other (_ | ⟨_, member⟩)
          · simpa using differ
          · exact fresh other member

theorem setAdd_eq_ok {items : List PyValue} {value : PyValue} {result : List PyValue} :
    setAdd items value = .ok result ↔ value.hashCheck = .ok () ∧ setInsert items value = result := by
  unfold setAdd
  cases value.hashCheck <;> simp [bind, Except.bind, pure, Except.pure]

theorem SetBuilt.setInsert {items : List PyValue} (built : SetBuilt items) {value : PyValue}
    (hashable : value.hashCheck = .ok ()) : SetBuilt (setInsert items value) := by
  rcases setInsert_cases value items with same | ⟨appended, fresh⟩
  · rwa [same]
  · rw [appended]
    refine ⟨fun item member => ?_, List.pairwise_append.mpr ⟨built.distinct, by simp, ?_⟩⟩
    · rcases List.mem_append.mp member with old | new
      · exact built.hashable item old
      · rw [List.mem_singleton.mp new]; exact hashable
    · intro earlier old later new
      rw [List.mem_singleton.mp new]
      exact fresh earlier old

/-- A member of a set after `s.add(value)` was a member before, or is the value. -/
theorem mem_setInsert {items : List PyValue} {value member : PyValue}
    (present : member ∈ setInsert items value) : member ∈ items ∨ member = value := by
  rcases setInsert_cases value items with same | ⟨appended, -⟩
  · rw [same] at present; exact .inl present
  · rw [appended] at present; simpa using present

/-- Each member of a set built by converting values and adding them is the conversion of one of
them. -/
theorem mem_of_foldlM_setAdd {α : Type} {convert : α → Except PyException PyValue} {items : List α}
    {built : List PyValue}
    (done : items.foldlM (fun built item => convert item >>= setAdd built) [] = .ok built) :
    ∀ member ∈ built, ∃ item ∈ items, convert item = .ok member := by
  refine foldlM_invariant (fun built => ∀ member ∈ built, ∃ item ∈ items, convert item = .ok member)
    (fun _ absent => absurd absent (List.not_mem_nil _)) (fun built next item present holds step => ?_) done
  obtain ⟨converted, conversion, added⟩ := bind_eq_ok.mp step
  obtain ⟨-, rfl⟩ := setAdd_eq_ok.mp added
  intro member inserted
  rcases mem_setInsert inserted with old | rfl
  · exact holds member old
  · exact ⟨item, present, conversion⟩

/-- Converting values and adding them builds a set. -/
theorem SetBuilt.of_foldlM {α : Type} {convert : α → Except PyException PyValue} {items : List α}
    {built : List PyValue}
    (done : items.foldlM (fun built item => convert item >>= setAdd built) [] = .ok built) :
    SetBuilt built := by
  refine foldlM_invariant SetBuilt ⟨by simp, by simp⟩ (fun built next item _ holds step => ?_) done
  obtain ⟨converted, -, added⟩ := bind_eq_ok.mp step
  obtain ⟨hashable, rfl⟩ := setAdd_eq_ok.mp added
  exact holds.setInsert hashable

/-- Adding the members of a built set again, in order, rebuilds it. -/
theorem foldlM_setAdd_self :
    ∀ {built items : List PyValue}, SetBuilt (built ++ items) →
      items.foldlM setAdd built = .ok (built ++ items)
  | built, [], _ => by simp [pure, Except.pure]
  | built, item :: rest, whole => by
      have fresh : ∀ earlier ∈ built, earlier.eq item = false := fun earlier member =>
        (List.pairwise_append.mp whole.distinct).2.2 earlier member item (List.mem_cons_self _ _)
      have added : setAdd built item = .ok (built ++ [item]) :=
        setAdd_eq_ok.mpr ⟨whole.hashable item (by simp), setInsert_of_fresh fresh⟩
      rw [List.foldlM_cons, added]
      exact (foldlM_setAdd_self (by simpa using whole) : rest.foldlM setAdd (built ++ [item]) = _).trans
        (by simp)

/-- Adding again the members of a built set, each given back by the conversion, rebuilds it. -/
theorem foldlM_setAdd_fixed {convert : PyValue → Except PyException PyValue} {built : List PyValue}
    (set : SetBuilt built) (fixed : ∀ member ∈ built, convert member = .ok member) :
    built.foldlM (fun built member => convert member >>= setAdd built) [] = .ok built :=
  (foldlM_congr_mem [] fun _ member present => by rw [fixed member present]; rfl).trans
    (foldlM_setAdd_self set)

/-! ### Dicts -/

/-- The entries of a dict built by `d[key] = value`: its keys form a built set. -/
def DictBuilt (items : List (PyValue × PyValue)) : Prop := SetBuilt (items.map Prod.fst)

/-- Storing into a dict changes its keys as adding the key to them as a set does. -/
theorem keys_dictInsert (key value : PyValue) :
    ∀ items : List (PyValue × PyValue),
      (dictInsert items key value).map Prod.fst = setInsert (items.map Prod.fst) key
  | [] => rfl
  | (storedKey, storedValue) :: rest => by
      rw [dictInsert, List.map_cons, setInsert]
      split <;> simp [keys_dictInsert key value rest]

theorem dictInsert_of_fresh {key value : PyValue} :
    ∀ {items : List (PyValue × PyValue)}, (∀ entry ∈ items, entry.1.eq key = false) →
      dictInsert items key value = items ++ [(key, value)]
  | [], _ => rfl
  | (storedKey, storedValue) :: rest, fresh => by
      rw [dictInsert, if_neg (by simp [fresh _ (List.mem_cons_self _ _)]),
        dictInsert_of_fresh fun other member => fresh other (List.mem_cons_of_mem _ member)]
      rfl

/-- An entry after `d[key] = value` has a key that was stored or is the key, and a value that was
stored or is the value. -/
theorem mem_dictInsert {key value : PyValue} :
    ∀ {items : List (PyValue × PyValue)} {entry : PyValue × PyValue},
      entry ∈ dictInsert items key value →
        (entry.1 ∈ items.map Prod.fst ∨ entry.1 = key) ∧ (entry.2 ∈ items.map Prod.snd ∨ entry.2 = value)
  | [], entry, present => by simp_all [dictInsert]
  | (storedKey, storedValue) :: rest, entry, present => by
      rw [dictInsert] at present
      split at present
      · rcases List.mem_cons.mp present with rfl | later
        · simp
        · simp [List.mem_map_of_mem Prod.fst later, List.mem_map_of_mem Prod.snd later]
      · rcases List.mem_cons.mp present with rfl | later
        · simp
        · rcases mem_dictInsert later with ⟨keyFrom, valueFrom⟩
          constructor
          · rcases keyFrom with old | new
            · exact .inl (List.mem_cons_of_mem _ old)
            · exact .inr new
          · rcases valueFrom with old | new
            · exact .inl (List.mem_cons_of_mem _ old)
            · exact .inr new

theorem dictSet_eq_ok {items : List (PyValue × PyValue)} {key value : PyValue}
    {result : List (PyValue × PyValue)} :
    dictSet items key value = .ok result ↔
      key.hashCheck = .ok () ∧ dictInsert items key value = result := by
  unfold dictSet
  cases key.hashCheck <;> simp [bind, Except.bind, pure, Except.pure]

theorem DictBuilt.dictInsert {items : List (PyValue × PyValue)} (built : DictBuilt items)
    {key : PyValue} (hashable : key.hashCheck = .ok ()) (value : PyValue) :
    DictBuilt (dictInsert items key value) := by
  unfold DictBuilt
  rw [keys_dictInsert]
  exact SetBuilt.setInsert built hashable

/-- Each entry of a dict built by converting keys and values and storing them has the conversion
of a key for its key and the conversion of a value for its value. -/
theorem mem_of_foldlM_dictSet {α : Type} {convertKey convertValue : α → Except PyException PyValue}
    {items : List α} {built : List (PyValue × PyValue)}
    (done : items.foldlM (fun built entry => do
      let key ← convertKey entry
      let converted ← convertValue entry
      dictSet built key converted) [] = .ok built) :
    ∀ entry ∈ built, (∃ item ∈ items, convertKey item = .ok entry.1) ∧
      ∃ item ∈ items, convertValue item = .ok entry.2 := by
  refine foldlM_invariant (fun built => ∀ entry ∈ built, (∃ item ∈ items, convertKey item = .ok entry.1) ∧
      ∃ item ∈ items, convertValue item = .ok entry.2)
    (fun _ absent => absurd absent (List.not_mem_nil _)) (fun built next item present holds step => ?_) done
  obtain ⟨key, keyConversion, step⟩ := bind_eq_ok.mp step
  obtain ⟨converted, conversion, stored⟩ := bind_eq_ok.mp step
  obtain ⟨-, rfl⟩ := dictSet_eq_ok.mp stored
  intro entry inserted
  obtain ⟨keyFrom, valueFrom⟩ := mem_dictInsert inserted
  constructor
  · rcases keyFrom with old | new
    · obtain ⟨stored, member, same⟩ := List.mem_map.mp old
      exact same ▸ (holds stored member).1
    · exact ⟨item, present, new ▸ keyConversion⟩
  · rcases valueFrom with old | new
    · obtain ⟨stored, member, same⟩ := List.mem_map.mp old
      exact same ▸ (holds stored member).2
    · exact ⟨item, present, new ▸ conversion⟩

/-- Storing the entries of a built dict again, in order, rebuilds it. -/
theorem foldlM_dictSet_self :
    ∀ {built items : List (PyValue × PyValue)}, DictBuilt (built ++ items) →
      items.foldlM (fun built entry => dictSet built entry.1 entry.2) built = .ok (built ++ items)
  | built, [], _ => by simp [pure, Except.pure]
  | built, entry :: rest, whole => by
      have keys : SetBuilt (built.map Prod.fst ++ entry.1 :: rest.map Prod.fst) := by
        simpa [DictBuilt] using whole
      have fresh : ∀ earlier ∈ built, earlier.1.eq entry.1 = false := fun earlier member =>
        (List.pairwise_append.mp keys.distinct).2.2 earlier.1 (List.mem_map_of_mem _ member) entry.1
          (List.mem_cons_self _ _)
      have stored : dictSet built entry.1 entry.2 = .ok (built ++ [entry]) :=
        dictSet_eq_ok.mpr ⟨keys.hashable entry.1 (by simp), dictInsert_of_fresh fresh⟩
      rw [List.foldlM_cons, stored]
      exact (foldlM_dictSet_self (by simpa using whole) :
        rest.foldlM _ (built ++ [entry]) = _).trans (by simp)

/-- Converting keys and values and storing them builds a dict. -/
theorem DictBuilt.of_foldlM {α : Type} {convertKey convertValue : α → Except PyException PyValue}
    {items : List α} {built : List (PyValue × PyValue)}
    (done : items.foldlM (fun built entry => do
      let key ← convertKey entry
      let converted ← convertValue entry
      dictSet built key converted) [] = .ok built) : DictBuilt built := by
  refine foldlM_invariant DictBuilt ⟨by simp, by simp⟩ (fun built next item _ holds step => ?_) done
  obtain ⟨key, -, step⟩ := bind_eq_ok.mp step
  obtain ⟨converted, -, stored⟩ := bind_eq_ok.mp step
  obtain ⟨hashable, rfl⟩ := dictSet_eq_ok.mp stored
  exact holds.dictInsert hashable converted

/-- Storing again the entries of a built dict, each key and value given back by the conversions,
rebuilds it. -/
theorem foldlM_dictSet_fixed {convertKey convertValue : PyValue → Except PyException PyValue}
    {built : List (PyValue × PyValue)} (dict : DictBuilt built)
    (keys : ∀ entry ∈ built, convertKey entry.1 = .ok entry.1)
    (values : ∀ entry ∈ built, convertValue entry.2 = .ok entry.2) :
    built.foldlM (fun built entry => do
      let key ← convertKey entry.1
      let converted ← convertValue entry.2
      dictSet built key converted) [] = .ok built :=
  (foldlM_congr_mem [] fun _ entry present => by
    rw [keys entry present, values entry present]; rfl).trans (foldlM_dictSet_self dict)

/-- `dict(value)` builds a dict. -/
theorem DictBuilt.of_dictOf {value : PyValue} {items : List (PyValue × PyValue)}
    (built : dictOf value = .ok items) : DictBuilt items := by
  have empty : DictBuilt [] := ⟨by simp, by simp⟩
  have store : ∀ {built next : List (PyValue × PyValue)} {key item : PyValue}, DictBuilt built →
      dictSet built key item = .ok next → DictBuilt next := fun holds stored => by
    obtain ⟨hashable, rfl⟩ := dictSet_eq_ok.mp stored
    exact holds.dictInsert hashable _
  unfold dictOf at built
  split at built
  · exact foldlM_invariant DictBuilt empty (fun _ _ _ _ holds stored => store holds stored) built
  · rw [bind_eq_ok] at built
    obtain ⟨elements, -, built⟩ := built
    refine foldlM_invariant DictBuilt empty (fun _ _ entry _ holds updated => ?_) built
    unfold dictUpdate at updated
    split at updated
    · exact store holds updated
    · cases updated
    · cases updated

/-! ### Equality on values without NaN -/

mutual
/-- Whether a float or `Decimal` NaN occurs in a value. -/
def PyValue.hasNaN : PyValue → Bool
  | .float .nan | .decimal .nan => true
  | .list items | .tuple items | .set items => PyValue.hasNaNAll items
  | .dict items => PyValue.hasNaNEntries items
  | _ => false
termination_by structural value => value

/-- Whether a NaN occurs in one of the values. -/
def PyValue.hasNaNAll : List PyValue → Bool
  | [] => false
  | item :: rest => item.hasNaN || PyValue.hasNaNAll rest

/-- Whether a NaN occurs in a key or a value of the entries. -/
def PyValue.hasNaNEntries : List (PyValue × PyValue) → Bool
  | [] => false
  | (key, value) :: rest => key.hasNaN || value.hasNaN || PyValue.hasNaNEntries rest
end

mutual
/-- A value without NaN equals itself. -/
theorem PyValue.eq_self : ∀ value : PyValue, value.hasNaN = false → value.eq value = true
  | .none, _ => rfl
  | .bool flag, _ => by cases flag <;> rfl
  | .str _, _ | .bytes _, _ | .uuid _, _ | .datetime _, _ | .date _, _ | .time _, _
  | .ipAddress _, _ | .int _, _ | .float (.finite _), _ | .float (.infinity _), _
  | .decimal (.finite _ _), _ | .decimal (.infinity _), _ => beq_self_eq_true _
  | .float .nan, clean | .decimal .nan, clean => by cases clean
  | .list items, clean | .tuple items, clean => PyValue.eqAll_self items clean
  | .set items, clean => by
      show (items.length == items.length && PyValue.subset items items) = true
      rw [beq_self_eq_true, PyValue.subset_of_mem items items clean fun _ => id]; rfl
  | .dict items, clean => by
      show (items.length == items.length && PyValue.dictSubset items items) = true
      rw [beq_self_eq_true, PyValue.dictSubset_of_mem items items clean fun _ => id]; rfl

theorem PyValue.eqAll_self : ∀ items : List PyValue, PyValue.hasNaNAll items = false →
    PyValue.eqAll items items = true
  | [], _ => rfl
  | item :: rest, clean => by
      have parts := Bool.or_eq_false_iff.mp clean
      show (item.eq item && PyValue.eqAll rest rest) = true
      rw [PyValue.eq_self item parts.1, PyValue.eqAll_self rest parts.2]; rfl

theorem PyValue.subset_of_mem : ∀ (items others : List PyValue), PyValue.hasNaNAll items = false →
    (∀ item ∈ items, item ∈ others) → PyValue.subset items others = true
  | [], _, _, _ => rfl
  | item :: rest, others, clean, members => by
      have parts := Bool.or_eq_false_iff.mp clean
      show (others.any (fun other => item.eq other) && PyValue.subset rest others) = true
      rw [Bool.and_eq_true, List.any_eq_true]
      exact ⟨⟨item, members item (List.mem_cons_self _ _), PyValue.eq_self item parts.1⟩,
        PyValue.subset_of_mem rest others parts.2 fun other member =>
          members other (List.mem_cons_of_mem _ member)⟩

theorem PyValue.dictSubset_of_mem : ∀ (items others : List (PyValue × PyValue)),
    PyValue.hasNaNEntries items = false → (∀ entry ∈ items, entry ∈ others) →
      PyValue.dictSubset items others = true
  | [], _, _, _ => rfl
  | (key, value) :: rest, others, clean, members => by
      have parts := Bool.or_eq_false_iff.mp clean
      have keyValue := Bool.or_eq_false_iff.mp parts.1
      show (others.any (fun entry => key.eq entry.1 && value.eq entry.2) &&
        PyValue.dictSubset rest others) = true
      rw [Bool.and_eq_true, List.any_eq_true]
      exact ⟨⟨(key, value), members _ (List.mem_cons_self _ _), by
          rw [PyValue.eq_self key keyValue.1, PyValue.eq_self value keyValue.2]; rfl⟩,
        PyValue.dictSubset_of_mem rest others parts.2 fun other member =>
          members other (List.mem_cons_of_mem _ member)⟩
end

end Cqlite
