import Mathlib.Data.List.Nodup

/-!
# Rust collections

`HashMap` and `HashSet` as the pubsys code uses them. A map is its list of entries in
iteration order, each key once. Rust leaves that order unspecified, so no result below
depends on it: a map is only ever observed through `get?`, `keys` and membership, and a
statement about those holds for whichever order a run happens to see.

`collect` and `extend` insert one entry after another, so a key that occurs twice keeps
its last value, as `HashMap::extend` does.

## Main definitions

* `HashMap.get?` — `HashMap::get`; indexing `m[&k]` is `get?` with `none` a panic.
* `HashMap.insert`, `HashMap.extend`, `HashMap.collect` — insertion and its iterated forms.
* `HashSet.insert` — set insertion, a no-op on a present element.
-/

namespace Pubsys

/-- `Option::ok_or`. -/
def okOr {ε α : Type} : Option α → ε → Except ε α
  | some a, _ => .ok a
  | none, e => .error e

/-- Every error `x` can end with satisfies `P`: what a function's `?`s can return. -/
def ErrorsIn {ε α : Type} (P : ε → Prop) (x : Except ε α) : Prop := ∀ e, x = .error e → P e

section ErrorsIn

variable {ε α β : Type} {P : ε → Prop}

@[simp] theorem errorsIn_pure (a : α) : ErrorsIn P (pure a : Except ε α) := by
  simp [ErrorsIn, pure, Except.pure]

@[simp] theorem errorsIn_bind {x : Except ε α} {k : α → Except ε β} :
    ErrorsIn P (x >>= k) ↔ ErrorsIn P x ∧ ∀ a, x = .ok a → ErrorsIn P (k a) := by
  cases x <;> simp [ErrorsIn, bind, Except.bind]

@[simp] theorem errorsIn_mapError {ε' : Type} {x : Except ε' α} {g : ε' → ε} :
    ErrorsIn P (x.mapError g) ↔ ∀ e, x = .error e → P (g e) := by
  cases x <;> simp [ErrorsIn, Except.mapError]

@[simp] theorem errorsIn_throw (e : ε) : ErrorsIn P (throw e : Except ε α) ↔ P e := by
  simp [ErrorsIn, throw, throwThe, MonadExceptOf.throw]

@[simp] theorem errorsIn_okOr {o : Option α} {e : ε} :
    ErrorsIn P (okOr o e) ↔ (o = none → P e) := by
  cases o <;> simp [ErrorsIn, okOr]

theorem errorsIn_ite {c : Prop} [Decidable c] {x y : Except ε α} :
    ErrorsIn P (if c then x else y) ↔ (c → ErrorsIn P x) ∧ (¬c → ErrorsIn P y) := by
  split_ifs with h <;> simp [h]

end ErrorsIn

/-- A loop of fallible steps fails exactly when one of its items does, provided whether an
item fails does not depend on what the loop accumulated before it. -/
theorem foldlM_eq_error_iff {ε α β : Type} {f : β → α → Except ε β} {Fails : α → Prop}
    (hf : ∀ b a, (∃ e, f b a = .error e) ↔ Fails a) (l : List α) (b : β) :
    (∃ e, l.foldlM f b = .error e) ↔ ∃ a ∈ l, Fails a := by
  induction l generalizing b with
  | nil => simp [pure, Except.pure]
  | cons a l ih =>
    rw [List.foldlM_cons]
    cases hb : f b a with
    | error e => exact iff_of_true ⟨e, rfl⟩ ⟨a, List.mem_cons_self a l, (hf b a).mp ⟨e, hb⟩⟩
    | ok b' =>
      have ha : ¬Fails a := fun h => by obtain ⟨e, he⟩ := (hf b a).mpr h; simp [hb] at he
      simp only [bind, Except.bind, ih, List.mem_cons, exists_eq_or_imp, ha, false_or]

/-- A `map` whose closure may panic, here returning `none`, that does not panic on `l`. -/
theorem mapM_eq_some_map {α β : Type} {l : List α} {f : α → Option β} {g : α → β}
    (h : ∀ a ∈ l, f a = some (g a)) : l.mapM f = some (l.map g) := by
  induction l with
  | nil => rfl
  | cons a l ih =>
    rw [List.mapM_cons, h a (List.mem_cons_self a l),
      ih fun b hb => h b (List.mem_cons_of_mem a hb)]
    rfl

/-- Each item of a `map` whose closure did not panic comes from an item of its input. -/
theorem mem_of_mapM_eq_some {α β : Type} {f : α → Option β} :
    ∀ {l : List α} {l' : List β}, l.mapM f = some l' → ∀ b ∈ l', ∃ a ∈ l, f a = some b
  | [], l', h, b, hb => by
    cases h
    cases hb
  | a :: l, l', h, b, hb => by
    rw [List.mapM_cons] at h
    cases ha : f a with
    | none => simp [ha] at h
    | some b₀ =>
      cases hl : l.mapM f with
      | none =>
        simp only [ha, hl, Option.bind_eq_bind, Option.some_bind, Option.none_bind,
          reduceCtorEq] at h
      | some l'' =>
        simp only [ha, hl, Option.bind_eq_bind, Option.some_bind, Option.pure_def,
          Option.some.injEq] at h
        subst h
        rcases List.mem_cons.mp hb with rfl | hb
        · exact ⟨a, List.mem_cons_self a l, ha⟩
        · obtain ⟨a', ha', hf⟩ := mem_of_mapM_eq_some hl b hb
          exact ⟨a', List.mem_cons_of_mem a ha', hf⟩

/-- A `std::collections::HashMap`: its entries in iteration order, each key once. -/
structure HashMap (K V : Type) where
  entries : List (K × V)
  nodup_keys : (entries.map Prod.fst).Nodup
deriving DecidableEq

namespace HashMap

variable {K V : Type}

def empty : HashMap K V := ⟨[], List.nodup_nil⟩

def keys (m : HashMap K V) : List K := m.entries.map Prod.fst

def values (m : HashMap K V) : List V := m.entries.map Prod.snd

def isEmpty (m : HashMap K V) : Bool := m.entries.isEmpty

@[simp] theorem keys_empty : (empty : HashMap K V).keys = [] := rfl

/-- Two entries with one key are one entry. -/
theorem eq_of_mem_entries {m : HashMap K V} {e e' : K × V} (he : e ∈ m.entries)
    (he' : e' ∈ m.entries) (h : e.1 = e'.1) : e = e' :=
  List.inj_on_of_nodup_map m.nodup_keys he he' h

variable [DecidableEq K]

/-- `HashMap::get`. -/
def get? (m : HashMap K V) (k : K) : Option V :=
  (m.entries.find? fun e => e.1 = k).map Prod.snd

/-- `HashMap::insert`: the old entry of `k`, if any, is replaced. -/
def insert (m : HashMap K V) (k : K) (v : V) : HashMap K V where
  entries := m.entries.filter (fun e => e.1 ≠ k) ++ [(k, v)]
  nodup_keys := by
    rw [List.map_append, List.nodup_append]
    refine ⟨((List.filter_sublist _).map _).nodup m.nodup_keys, List.nodup_singleton _, ?_⟩
    simp [List.disjoint_singleton]

/-- `HashMap::extend`, and `m.entry(k).or_insert(..)` followed by it. -/
def extend (m : HashMap K V) (l : List (K × V)) : HashMap K V :=
  l.foldl (fun m e => m.insert e.1 e.2) m

/-- `Iterator::collect` into a `HashMap`. -/
def collect (l : List (K × V)) : HashMap K V := empty.extend l

/-- `HashMap::retain`, used as a filtering copy. -/
def filter (m : HashMap K V) (p : K → V → Bool) : HashMap K V where
  entries := m.entries.filter fun e => p e.1 e.2
  nodup_keys := ((List.filter_sublist _).map _).nodup m.nodup_keys

/-- In a list whose keys are distinct, the first entry of a key is its only one. -/
theorem find?_key_eq_some_iff {l : List (K × V)} (hl : (l.map Prod.fst).Nodup) {k : K} {v : V} :
    ((l.find? fun e => e.1 = k).map Prod.snd) = some v ↔ (k, v) ∈ l := by
  induction l with
  | nil => simp
  | cons e l ih =>
    obtain ⟨k', v'⟩ := e
    simp only [List.map_cons, List.nodup_cons, List.mem_map, not_exists, not_and] at hl
    by_cases hk : k' = k
    · subst hk
      have : ∀ w, (k', w) ∉ l := fun w h => hl.1 _ h rfl
      simp [this, eq_comm]
    · simp [hk, ih hl.2, Ne.symm hk]

theorem get?_eq_some_iff {m : HashMap K V} {k : K} {v : V} :
    m.get? k = some v ↔ (k, v) ∈ m.entries :=
  find?_key_eq_some_iff m.nodup_keys

theorem get?_eq_none_iff {m : HashMap K V} {k : K} : m.get? k = none ↔ k ∉ m.keys := by
  simp only [get?, keys, Option.map_eq_none', List.find?_eq_none, decide_eq_true_eq, List.mem_map]
  exact ⟨fun h ⟨e, he, hk⟩ => h e he hk, fun h e he hk => h ⟨e, he, hk⟩⟩

theorem mem_keys {m : HashMap K V} {k : K} : k ∈ m.keys ↔ ∃ v, m.get? k = some v := by
  simp [keys, get?_eq_some_iff]

theorem mem_values {m : HashMap K V} {v : V} : v ∈ m.values ↔ ∃ k, m.get? k = some v := by
  simp [values, get?_eq_some_iff]

/-- Distinct values make `get?` injective. -/
theorem eq_of_get?_eq_of_nodup_values {m : HashMap K V} (hm : m.values.Nodup) {k k' : K} {v : V}
    (h : m.get? k = some v) (h' : m.get? k' = some v) : k = k' :=
  congrArg Prod.fst (List.inj_on_of_nodup_map hm (get?_eq_some_iff.mp h)
    (get?_eq_some_iff.mp h') rfl)

theorem get?_ext {m m' : HashMap K V} (h : ∀ k v, m.get? k = some v ↔ m'.get? k = some v)
    (k : K) : m.get? k = m'.get? k :=
  Option.ext fun v => by simpa only [Option.mem_def] using h k v

@[simp] theorem get?_empty (k : K) : (empty : HashMap K V).get? k = none := rfl

theorem mem_insert {m : HashMap K V} {k : K} {v : V} {e : K × V} :
    e ∈ (m.insert k v).entries ↔ (e.1 ≠ k ∧ e ∈ m.entries) ∨ e = (k, v) := by
  simp [insert, and_comm]

theorem keys_insert_of_not_mem {m : HashMap K V} {k : K} (hk : k ∉ m.keys) (v : V) :
    (m.insert k v).keys = m.keys ++ [k] := by
  have hf : m.entries.filter (fun e => e.1 ≠ k) = m.entries :=
    List.filter_eq_self.mpr fun e he =>
      decide_eq_true fun h : e.1 = k => hk (h ▸ List.mem_map_of_mem Prod.fst he)
  simp only [insert, keys, hf, List.map_append, List.map_singleton]

@[simp] theorem get?_insert (m : HashMap K V) (k k' : K) (v : V) :
    (m.insert k v).get? k' = if k' = k then some v else m.get? k' := by
  refine Option.ext fun w => ?_
  rw [Option.mem_def, Option.mem_def, get?_eq_some_iff, mem_insert]
  split_ifs with h
  · subst h; simp [eq_comm]
  · simp [h, get?_eq_some_iff]

/-- The value of a key after `extend` is its last value in the extension, else its old one. -/
theorem get?_extend (m : HashMap K V) (l : List (K × V)) (k : K) :
    (m.extend l).get? k = ((l.reverse.find? fun e => e.1 = k).map Prod.snd).or (m.get? k) := by
  induction l generalizing m with
  | nil => simp [extend]
  | cons e l ih =>
    simp only [extend, List.foldl_cons] at ih ⊢
    rw [ih, get?_insert, List.reverse_cons, List.find?_append]
    by_cases h : k = e.1
    · subst h; cases List.find? (fun x => decide (x.1 = e.1)) l.reverse <;> simp
    · simp [h, Ne.symm h]

theorem get?_collect (l : List (K × V)) (k : K) :
    (collect l).get? k = (l.reverse.find? fun e => e.1 = k).map Prod.snd := by
  simp [collect, get?_extend]

/-- A key of `collect l` holds one of the values `l` gives it. -/
theorem mem_of_get?_collect {l : List (K × V)} {k : K} {v : V}
    (h : (collect l).get? k = some v) : (k, v) ∈ l := by
  rw [get?_collect, Option.map_eq_some'] at h
  obtain ⟨⟨k', v'⟩, hf, rfl⟩ := h
  have hk := List.find?_some hf
  simp only [decide_eq_true_eq] at hk
  subst hk
  exact List.mem_reverse.mp (List.mem_of_find?_eq_some hf)

theorem get?_collect_eq_none_iff {l : List (K × V)} {k : K} :
    (collect l).get? k = none ↔ k ∉ l.map Prod.fst := by
  simp only [get?_collect, Option.map_eq_none', List.find?_eq_none, List.mem_reverse,
    decide_eq_true_eq, List.mem_map]
  exact ⟨fun h ⟨e, he, hk⟩ => h e he hk, fun h e he hk => h ⟨e, he, hk⟩⟩

theorem mem_keys_collect {l : List (K × V)} {k : K} :
    k ∈ (collect l).keys ↔ ∃ v, (k, v) ∈ l := by
  rw [← not_iff_not, ← get?_eq_none_iff, get?_collect_eq_none_iff]
  simp

/-- When `l` gives a key at most one value, `collect l` keeps exactly the entries of `l`. -/
theorem get?_collect_of_nodup {l : List (K × V)} (hl : (l.map Prod.fst).Nodup) {k : K} {v : V} :
    (collect l).get? k = some v ↔ (k, v) ∈ l := by
  rw [get?_collect, find?_key_eq_some_iff (by simpa [List.map_reverse] using List.nodup_reverse.mpr hl),
    List.mem_reverse]

/-- When every entry of `k` in `l` carries the same value, `collect l` keeps that value. -/
theorem get?_collect_of_agree {l : List (K × V)} {k : K} {v : V} (hk : (k, v) ∈ l)
    (hv : ∀ w, (k, w) ∈ l → w = v) : (collect l).get? k = some v := by
  cases h : (collect l).get? k with
  | none => exact absurd (List.mem_map_of_mem Prod.fst hk) (get?_collect_eq_none_iff.mp h)
  | some w => rw [hv w (mem_of_get?_collect h)]

theorem get?_filter {m : HashMap K V} {p : K → V → Bool} {k : K} {v : V} :
    (m.filter p).get? k = some v ↔ m.get? k = some v ∧ p k v = true := by
  simp [get?_eq_some_iff, filter]

/-- A map whose entries are those of another in another order gives the same lookups. -/
theorem get?_eq_of_perm {m m' : HashMap K V} (h : m.entries.Perm m'.entries) (k : K) :
    m.get? k = m'.get? k :=
  get?_ext (fun k v => by rw [get?_eq_some_iff, get?_eq_some_iff, h.mem_iff]) k

theorem isEmpty_iff {m : HashMap K V} : m.isEmpty ↔ ∀ k, m.get? k = none := by
  simp only [isEmpty, List.isEmpty_iff, get?_eq_none_iff, keys]
  constructor
  · intro h k
    simp [h]
  · intro h
    cases hm : m.entries with
    | nil => rfl
    | cons e l => exact absurd (by simp [hm]) (h e.1)

theorem isEmpty_eq_false_of_get? {m : HashMap K V} {k : K} {v : V} (h : m.get? k = some v) :
    m.isEmpty = false := by
  rw [Bool.eq_false_iff, ne_eq, isEmpty_iff]
  exact fun hnone => by simp [hnone k] at h

/-- Extending by the entries of a map: its keys take its values, the others keep theirs. -/
theorem get?_extend_entries (m m' : HashMap K V) (k : K) :
    (m.extend m'.entries).get? k = (m'.get? k).or (m.get? k) := by
  have hrev : (m'.entries.reverse.map Prod.fst).Nodup := by
    simpa [List.map_reverse] using m'.nodup_keys
  rw [get?_extend]
  congr 1
  refine Option.ext fun v => ?_
  rw [Option.mem_def, Option.mem_def, find?_key_eq_some_iff hrev, List.mem_reverse,
    get?_eq_some_iff]

end HashMap

/-- A `std::collections::HashSet`: its elements in iteration order, each once. -/
structure HashSet (α : Type) where
  elems : List α
  nodup : elems.Nodup
deriving DecidableEq

namespace HashSet

variable {α : Type}

def empty : HashSet α := ⟨[], List.nodup_nil⟩

@[simp] theorem mem_empty {a : α} : a ∈ (empty : HashSet α).elems ↔ False := by
  simp [empty]

variable [DecidableEq α]

/-- `HashSet::insert`: an element already present is left as it is. -/
def insert (s : HashSet α) (a : α) : HashSet α :=
  if h : a ∈ s.elems then s else ⟨s.elems ++ [a], s.nodup.append (List.nodup_singleton a)
    (List.disjoint_singleton.mpr h)⟩

@[simp] theorem mem_insert {s : HashSet α} {a b : α} :
    b ∈ (s.insert a).elems ↔ b = a ∨ b ∈ s.elems := by
  unfold insert
  split_ifs with h
  · constructor
    · exact Or.inr
    · rintro (rfl | hb) <;> assumption
  · simp [or_comm]

end HashSet

end Pubsys
