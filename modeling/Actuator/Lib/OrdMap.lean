import Mathlib.Data.List.Sort
import Mathlib.Data.List.Lex

/-!
# Ordered finite maps

`std::map`: a finite map whose iteration order is the order of its keys. The
entries are a list sorted strictly by key, with the sorting carried as a field,
so a map is determined by its lookups (`OrdMap.ext_find?`) and two maps built by
different insertions can be compared by `=`. Every operation has its `find?`
law; a proof about maps uses those laws and never looks at the entries.
-/

namespace Actuator.Lib

/-- A finite map as the list of its entries by strictly increasing key. -/
structure OrdMap (K : Type) (V : Type) [LinearOrder K] where
  entries : List (K × V)
  sorted : entries.Pairwise fun a b => a.1 < b.1

namespace OrdMap

variable {K V W : Type} [LinearOrder K]

instance [DecidableEq V] : DecidableEq (OrdMap K V) := fun m n =>
  decidable_of_iff (m.entries = n.entries) ⟨fun h => by cases m; cases n; cases h; rfl, congrArg _⟩

/-! ## Sorted entry lists -/

/-- Insert into a sorted entry list, replacing the value of an existing key. -/
def insertEntry (k : K) (v : V) : List (K × V) → List (K × V)
  | [] => [(k, v)]
  | (k', v') :: rest =>
    if k < k' then (k, v) :: (k', v') :: rest
    else if k = k' then (k, v) :: rest
    else (k', v') :: insertEntry k v rest

theorem mem_insertEntry {k : K} {v : V} {e : K × V} {l : List (K × V)} (h : e ∈ insertEntry k v l) :
    e = (k, v) ∨ e ∈ l := by
  induction l with
  | nil => simpa [insertEntry] using h
  | cons hd tl ih =>
    obtain ⟨k', v'⟩ := hd
    simp only [insertEntry] at h
    split at h
    · simpa using h
    · split at h
      · rcases List.mem_cons.1 h with h | h
        · exact .inl h
        · exact .inr (List.mem_cons_of_mem _ h)
      · rcases List.mem_cons.1 h with h | h
        · exact .inr (h ▸ List.mem_cons_self)
        · exact (ih h).imp id (List.mem_cons_of_mem _)

theorem insertEntry_sorted (k : K) (v : V) {l : List (K × V)} (h : l.Pairwise fun a b => a.1 < b.1) :
    (insertEntry k v l).Pairwise fun a b => a.1 < b.1 := by
  induction l with
  | nil => simp [insertEntry]
  | cons hd tl ih =>
    obtain ⟨k', v'⟩ := hd
    obtain ⟨below, rest⟩ := List.pairwise_cons.1 h
    simp only [insertEntry]
    split
    · rename_i lt
      refine List.pairwise_cons.2 ⟨fun e he => ?_, h⟩
      rcases List.mem_cons.1 he with rfl | he
      · exact lt
      · exact lt_trans lt (below e he)
    · rename_i ge
      split
      · rename_i eq
        subst eq
        exact List.pairwise_cons.2 ⟨below, rest⟩
      · rename_i ne
        refine List.pairwise_cons.2 ⟨fun e he => ?_, ih rest⟩
        rcases mem_insertEntry he with rfl | he
        · exact lt_of_le_of_ne (not_lt.1 ge) (Ne.symm ne)
        · exact below e he

theorem lookup_cons_if (k : K) (e : K × V) (l : List (K × V)) :
    (e :: l).lookup k = if k = e.1 then some e.2 else l.lookup k := by
  obtain ⟨a, b⟩ := e
  rw [List.lookup_cons]
  by_cases h : k = a
  · simp [h]
  · simp [h, beq_false_of_ne h]

theorem lookup_insertEntry (k k' : K) (v : V) (l : List (K × V)) :
    (insertEntry k v l).lookup k' = if k' = k then some v else l.lookup k' := by
  induction l with
  | nil => simp [insertEntry, lookup_cons_if]
  | cons hd tl ih =>
    obtain ⟨a, b⟩ := hd
    simp only [insertEntry]
    split
    · rw [lookup_cons_if]
    · split
      · rename_i eq
        subst eq
        by_cases e : k' = k <;> simp [lookup_cons_if, e]
      · rename_i ne
        by_cases e : k' = a
        · simp [lookup_cons_if, e, Ne.symm ne]
        · simp [lookup_cons_if, e, ih]

/-- In a sorted list the entries are exactly the successful lookups. -/
theorem lookup_eq_some_iff_mem {l : List (K × V)} (h : l.Pairwise fun a b => a.1 < b.1) {k : K} {v : V} :
    l.lookup k = some v ↔ (k, v) ∈ l := by
  induction l with
  | nil => simp
  | cons hd tl ih =>
    obtain ⟨a, b⟩ := hd
    obtain ⟨below, rest⟩ := List.pairwise_cons.1 h
    rw [lookup_cons_if]
    by_cases e : k = a
    · subst e
      have absent : (k, v) ∉ tl := fun mem => lt_irrefl k (below _ mem)
      simp [absent, eq_comm]
    · simp [e, ih rest]

/-! ## Operations -/

/-- The empty map. -/
def empty : OrdMap K V := ⟨[], List.Pairwise.nil⟩

/-- The value listed first under `k`. -/
def lookupEntry (k : K) (l : List (K × V)) : Option V := l.lookup k

/-- `find`: the value stored under `k`. -/
def find? (m : OrdMap K V) (k : K) : Option V := m.entries.lookup k

/-- `find(k) != end()`. -/
def contains (m : OrdMap K V) (k : K) : Bool := (m.find? k).isSome

/-- `m[k] = v`. -/
def insert (m : OrdMap K V) (k : K) (v : V) : OrdMap K V :=
  ⟨insertEntry k v m.entries, insertEntry_sorted k v m.sorted⟩

/-- `m.erase(k)`. -/
def erase (m : OrdMap K V) (k : K) : OrdMap K V :=
  ⟨m.entries.filter fun e => e.1 ≠ k, m.sorted.filter _⟩

/-- What a loop that erases entries leaves. -/
def filter (keep : K → V → Bool) (m : OrdMap K V) : OrdMap K V :=
  ⟨m.entries.filter fun e => keep e.1 e.2, m.sorted.filter _⟩

/-- `m.size()`. -/
def size (m : OrdMap K V) : Nat := m.entries.length

/-- `m.empty()`. -/
def isEmpty (m : OrdMap K V) : Bool := m.entries.isEmpty

/-- The same keys, each value replaced by its image. -/
def mapValues (f : V → W) (m : OrdMap K V) : OrdMap K W :=
  ⟨m.entries.map fun e => (e.1, f e.2), by
    rw [List.pairwise_map]; exact m.sorted⟩

/-- Insert the listed entries from left to right. -/
def insertAll (m : OrdMap K V) (l : List (K × V)) : OrdMap K V :=
  l.foldl (fun acc e => acc.insert e.1 e.2) m

/-- The map an initializer list builds. -/
def ofList (l : List (K × V)) : OrdMap K V := insertAll empty l

/-! ## Laws -/

theorem nodup_keys (m : OrdMap K V) : (m.entries.map Prod.fst).Nodup :=
  List.pairwise_map.2 (m.sorted.imp fun below => ne_of_lt below)

/-- A map is determined by its lookups. -/
theorem ext_find? {m n : OrdMap K V} (h : ∀ k, m.find? k = n.find? k) : m = n := by
  have mem : ∀ e, e ∈ m.entries ↔ e ∈ n.entries := fun ⟨k, v⟩ => by
    rw [← lookup_eq_some_iff_mem m.sorted, ← lookup_eq_some_iff_mem n.sorted]
    exact Eq.congr_left (h k)
  have perm : m.entries.Perm n.entries := (List.perm_ext_iff_of_nodup m.nodup_keys.of_map n.nodup_keys.of_map).2 mem
  have same : m.entries = n.entries :=
    perm.eq_of_pairwise (fun a b _ _ hab hba => absurd (lt_trans hab hba) (lt_irrefl _)) m.sorted n.sorted
  cases m; cases n; cases same; rfl

theorem mem_entries {m : OrdMap K V} {k : K} {v : V} : (k, v) ∈ m.entries ↔ m.find? k = some v :=
  (lookup_eq_some_iff_mem m.sorted).symm

@[simp] theorem find?_empty (k : K) : (empty : OrdMap K V).find? k = none := rfl

/-- A key occurs once. -/
theorem filter_key (m : OrdMap K V) {k : K} {v : V} (found : m.find? k = some v) {p : K × V → Bool}
    (own : ∀ e, p e = true ↔ e.1 = k) : m.entries.filter p = [(k, v)] := by
  have entry : (k, v) ∈ m.entries.filter p := List.mem_filter.2 ⟨mem_entries.2 found, (own _).2 rfl⟩
  have alone : ∀ e ∈ m.entries.filter p, e = (k, v) := by
    intro e mem
    obtain ⟨inside, same⟩ := List.mem_filter.1 mem
    obtain ⟨name, other⟩ := e
    cases (own _).1 same
    rw [mem_entries.1 inside] at found
    cases found
    rfl
  have distinct : (m.entries.filter p).Nodup := (m.nodup_keys.of_map).filter _
  have all := List.eq_replicate_of_mem alone
  rw [all] at distinct
  have once := List.nodup_replicate.1 distinct
  have some := List.length_pos_of_mem entry
  rw [all, show (m.entries.filter p).length = 1 by omega]
  rfl

theorem find?_insert (m : OrdMap K V) (k k' : K) (v : V) :
    (m.insert k v).find? k' = if k' = k then some v else m.find? k' :=
  lookup_insertEntry k k' v m.entries

@[simp] theorem find?_insert_self (m : OrdMap K V) (k : K) (v : V) : (m.insert k v).find? k = some v := by
  simp [find?_insert]

theorem find?_insert_of_ne (m : OrdMap K V) {k k' : K} (v : V) (h : k' ≠ k) :
    (m.insert k v).find? k' = m.find? k' := by
  simp [find?_insert, h]

@[simp] theorem find?_mapValues (m : OrdMap K V) (f : V → W) (k : K) :
    (m.mapValues f).find? k = (m.find? k).map f := by
  obtain ⟨l, hl⟩ := m
  simp only [find?, mapValues]
  clear hl
  induction l with
  | nil => rfl
  | cons hd tl ih => by_cases e : k = hd.1 <;> simp [lookup_cons_if, e, ih]

theorem find?_erase (m : OrdMap K V) (k k' : K) :
    (m.erase k).find? k' = if k' = k then none else m.find? k' := by
  cases h : (m.erase k).find? k' with
  | none =>
    by_cases e : k' = k
    · simp [e]
    · cases h' : m.find? k' with
      | none => simp
      | some v =>
        have mem : (k', v) ∈ (m.erase k).entries := by
          simpa [erase, e] using mem_entries.2 h'
        rw [mem_entries, h] at mem
        cases mem
  | some v =>
    have mem : (k', v) ∈ (m.erase k).entries := mem_entries.2 h
    simp only [erase, List.mem_filter, decide_eq_true_eq] at mem
    simp [mem.2, mem_entries.1 mem.1]

theorem find?_filter (keep : K → V → Bool) (m : OrdMap K V) (k : K) :
    (m.filter keep).find? k = (m.find? k).filter (keep k) := by
  apply Option.ext
  intro v
  rw [← mem_entries, Option.filter_eq_some_iff, ← mem_entries]
  exact List.mem_filter

/-- Merging a map into another: its own entries win. -/
theorem find?_insertAll (m n : OrdMap K V) (k : K) :
    (m.insertAll n.entries).find? k = (n.find? k).or (m.find? k) := by
  obtain ⟨l, hl⟩ := n
  show (m.insertAll l).find? k = (l.lookup k).or (m.find? k)
  induction l generalizing m with
  | nil => rfl
  | cons e l ih =>
    obtain ⟨first, rest⟩ := List.pairwise_cons.1 hl
    show ((m.insert e.1 e.2).insertAll l).find? k = _
    rw [ih (m.insert e.1 e.2) rest, lookup_cons_if, find?_insert]
    by_cases same : k = e.1
    · have absent : l.lookup k = none := by
        cases h : l.lookup k with
        | none => rfl
        | some v =>
          have mem := (lookup_eq_some_iff_mem rest).1 h
          exact absurd (first _ mem) (by rw [same]; exact lt_irrefl _)
      rw [if_pos same, if_pos same, absent]
      rfl
    · rw [if_neg same, if_neg same]

/-- What a map holds after insertions was inserted or was there before. -/
theorem find?_insertAll_or (m : OrdMap K V) (l : List (K × V)) {k : K} {v : V} (found : (m.insertAll l).find? k = some v) :
    (k, v) ∈ l ∨ m.find? k = some v := by
  induction l generalizing m with
  | nil => exact .inr found
  | cons e l ih =>
    rcases ih (m.insert e.1 e.2) found with later | before
    · exact .inl (List.mem_cons_of_mem _ later)
    · rw [find?_insert] at before
      split at before
      · rename_i same
        cases before
        exact .inl (same ▸ List.mem_cons_self)
      · exact .inr before

theorem mem_of_find?_ofList {l : List (K × V)} {k : K} {v : V} (found : (ofList l).find? k = some v) : (k, v) ∈ l := by
  rcases find?_insertAll_or empty l found with mem | none
  · exact mem
  · cases none

theorem find?_insertAll_of_absent (m : OrdMap K V) {l : List (K × V)} {k : K} (absent : k ∉ l.map Prod.fst) :
    (m.insertAll l).find? k = m.find? k := by
  induction l generalizing m with
  | nil => rfl
  | cons e l ih =>
    obtain ⟨other, later⟩ := not_or.1 (List.mem_cons.not.1 absent)
    show ((m.insert e.1 e.2).insertAll l).find? k = _
    rw [ih (m.insert e.1 e.2) later, find?_insert_of_ne m e.2 other]

theorem find?_insertAll_of_mem (m : OrdMap K V) {l : List (K × V)} (distinct : (l.map Prod.fst).Nodup) {k : K} {v : V}
    (mem : (k, v) ∈ l) : (m.insertAll l).find? k = some v := by
  induction l generalizing m with
  | nil => cases mem
  | cons e l ih =>
    obtain ⟨fresh, rest⟩ := List.nodup_cons.1 distinct
    rcases List.mem_cons.1 mem with rfl | later
    · show ((m.insert k v).insertAll l).find? k = some v
      rw [find?_insertAll_of_absent (m.insert k v) fresh, find?_insert_self]
    · exact ih (m.insert e.1 e.2) rest later

theorem find?_ofList_of_mem {l : List (K × V)} (distinct : (l.map Prod.fst).Nodup) {k : K} {v : V} (mem : (k, v) ∈ l) :
    (ofList l).find? k = some v :=
  find?_insertAll_of_mem empty distinct mem

/-- A map is rebuilt from its entries. -/
theorem ofList_entries (m : OrdMap K V) : ofList m.entries = m := by
  apply ext_find?
  intro k
  rw [show (ofList m.entries).find? k = (m.find? k).or (empty.find? k) from find?_insertAll empty m k, find?_empty,
    Option.or_none]

theorem contains_iff {m : OrdMap K V} {k : K} : m.contains k = true ↔ ∃ v, m.find? k = some v := by
  simp [contains, Option.isSome_iff_exists]

end OrdMap

end Actuator.Lib
