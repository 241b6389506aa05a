import Mathlib.Data.List.Basic
import Mathlib.Order.Lattice

/-! # Maps kept in key order

A finite map as the list of its entries, with strictly increasing keys as part
of the value, so walking the entries is walking the keys in order. -/

structure OrderedMap (κ β : Type*) [LT κ] where
  entries : List (κ × β)
  sorted : (entries.map Prod.fst).Pairwise (· < ·)

namespace OrderedMap

variable {κ β : Type*} [LinearOrder κ]

def empty : OrderedMap κ β := ⟨[], .nil⟩

/-- The value stored under a key, in any list of entries. -/
def lookup (k : κ) : List (κ × β) → Option β
  | [] => none
  | (j, v) :: rest => if j = k then some v else lookup k rest

def get? (m : OrderedMap κ β) (k : κ) : Option β := lookup k m.entries

/-- Put `f` of the stored value, or of `d` where there is none, under `k`. -/
def upsertEntries (k : κ) (d : β) (f : β → β) : List (κ × β) → List (κ × β)
  | [] => [(k, f d)]
  | (j, v) :: rest =>
    if k < j then (k, f d) :: (j, v) :: rest
    else if j = k then (j, f v) :: rest
    else (j, v) :: upsertEntries k d f rest

theorem lookup_none {k : κ} {l : List (κ × β)} (h : ∀ e ∈ l, e.1 ≠ k) : lookup k l = none := by
  induction l with
  | nil => rfl
  | cons e rest ih =>
    obtain ⟨j, v⟩ := e
    simp only [lookup, if_neg (h (j, v) (by simp))]
    exact ih fun e he => h e (List.mem_cons_of_mem _ he)

theorem mem_upsertEntries {k : κ} {d : β} {f : β → β} {l : List (κ × β)} {e : κ × β}
    (h : e ∈ upsertEntries k d f l) : e.1 = k ∨ e ∈ l := by
  induction l with
  | nil =>
    simp only [upsertEntries, List.mem_singleton] at h
    exact Or.inl (by rw [h])
  | cons hd rest ih =>
    obtain ⟨j, v⟩ := hd
    simp only [upsertEntries] at h
    split_ifs at h with hlt heq
    · rcases List.mem_cons.mp h with h | h
      · exact Or.inl (by rw [h])
      · exact Or.inr h
    · rcases List.mem_cons.mp h with h | h
      · exact Or.inl (by rw [h, heq])
      · exact Or.inr (List.mem_cons_of_mem _ h)
    · rcases List.mem_cons.mp h with h | h
      · exact Or.inr (by simp [h])
      · exact (ih h).imp_right (List.mem_cons_of_mem _)

theorem upsertEntries_sorted (k : κ) (d : β) (f : β → β) {l : List (κ × β)}
    (sorted : (l.map Prod.fst).Pairwise (· < ·)) :
    ((upsertEntries k d f l).map Prod.fst).Pairwise (· < ·) := by
  induction l with
  | nil => simp [upsertEntries]
  | cons hd rest ih =>
    obtain ⟨j, v⟩ := hd
    have hrest := List.pairwise_cons.mp sorted
    simp only [upsertEntries]
    split_ifs with hlt heq
    · apply List.pairwise_cons.mpr ⟨?_, sorted⟩
      intro x hx
      rcases List.mem_cons.mp hx with rfl | hx
      · exact hlt
      · exact hlt.trans (hrest.1 x hx)
    · exact sorted
    · apply List.pairwise_cons.mpr ⟨?_, ih hrest.2⟩
      intro x hx
      obtain ⟨e, he, rfl⟩ := List.mem_map.mp hx
      rcases mem_upsertEntries he with hk | he
      · exact hk ▸ lt_of_le_of_ne (not_lt.mp hlt) heq
      · exact hrest.1 _ (List.mem_map.mpr ⟨e, he, rfl⟩)

theorem lookup_upsertEntries_self (k : κ) (d : β) (f : β → β) {l : List (κ × β)}
    (sorted : (l.map Prod.fst).Pairwise (· < ·)) :
    lookup k (upsertEntries k d f l) = some (f ((lookup k l).getD d)) := by
  induction l with
  | nil => simp [upsertEntries, lookup]
  | cons hd rest ih =>
    obtain ⟨j, v⟩ := hd
    have hrest := List.pairwise_cons.mp sorted
    simp only [upsertEntries]
    split_ifs with hlt heq
    · have absent : lookup k ((j, v) :: rest) = none := by
        apply lookup_none
        intro e he
        rcases List.mem_cons.mp he with rfl | he
        · exact hlt.ne'
        · exact (hlt.trans (hrest.1 _ (List.mem_map.mpr ⟨e, he, rfl⟩))).ne'
      rw [absent]
      simp [lookup]
    · simp [lookup, heq]
    · simp [lookup, heq, ih hrest.2]

theorem lookup_upsertEntries_ne {k j : κ} (h : j ≠ k) (d : β) (f : β → β) (l : List (κ × β)) :
    lookup j (upsertEntries k d f l) = lookup j l := by
  induction l with
  | nil => simp [upsertEntries, lookup, Ne.symm h]
  | cons hd rest ih =>
    obtain ⟨i, v⟩ := hd
    simp only [upsertEntries]
    split_ifs with hlt heq
    · simp [lookup, Ne.symm h]
    · have hi : i ≠ j := by rw [heq]; exact Ne.symm h
      simp [lookup, hi]
    · by_cases hi : i = j <;> simp [lookup, hi, ih]

/-- `entry(k).or_insert(d)` followed by an update in place. -/
def upsert (m : OrderedMap κ β) (k : κ) (d : β) (f : β → β) : OrderedMap κ β :=
  ⟨upsertEntries k d f m.entries, upsertEntries_sorted k d f m.sorted⟩

def erase (m : OrderedMap κ β) (k : κ) : OrderedMap κ β :=
  ⟨m.entries.filter fun e => e.1 ≠ k, by
    exact m.sorted.sublist (List.filter_sublist.map Prod.fst)⟩

/-- The same keys with other values. -/
def withValues (m : OrderedMap κ β) (l : List (κ × β))
    (keys : l.map Prod.fst = m.entries.map Prod.fst) : OrderedMap κ β :=
  ⟨l, keys ▸ m.sorted⟩

@[simp] theorem get?_upsert_self (m : OrderedMap κ β) (k : κ) (d : β) (f : β → β) :
    (m.upsert k d f).get? k = some (f ((m.get? k).getD d)) :=
  lookup_upsertEntries_self k d f m.sorted

theorem get?_upsert_ne (m : OrderedMap κ β) {k j : κ} (h : j ≠ k) (d : β) (f : β → β) :
    (m.upsert k d f).get? j = m.get? j :=
  lookup_upsertEntries_ne h d f m.entries

theorem lookup_eq_some {k : κ} {v : β} {l : List (κ × β)}
    (sorted : (l.map Prod.fst).Pairwise (· < ·)) : lookup k l = some v ↔ (k, v) ∈ l := by
  induction l with
  | nil => simp [lookup]
  | cons e rest ih =>
    obtain ⟨j, w⟩ := e
    have hrest := List.pairwise_cons.mp sorted
    by_cases h : j = k
    · subst h
      have absent : (j, v) ∉ rest := fun member =>
        (hrest.1 j (List.mem_map.mpr ⟨_, member, rfl⟩)).false
      simp [lookup, absent, eq_comm]
    · simp [lookup, h, Ne.symm h, ih hrest.2]

/-- The entries of a map are what it stores. -/
theorem get?_eq_some {m : OrderedMap κ β} {k : κ} {v : β} : m.get? k = some v ↔ (k, v) ∈ m.entries :=
  lookup_eq_some m.sorted

/-- Up to the first entry that fails a test: the entries that have no failing
entry at or below them. -/
theorem mem_takeWhile {l : List (κ × β)} (sorted : (l.map Prod.fst).Pairwise (· < ·))
    (P : κ × β → Bool) {e : κ × β} :
    e ∈ l.takeWhile P ↔ e ∈ l ∧ ∀ e' ∈ l, e'.1 ≤ e.1 → P e' = true := by
  induction l with
  | nil => simp
  | cons hd rest ih =>
    have hrest := List.pairwise_cons.mp sorted
    have above : ∀ e' ∈ rest, hd.1 < e'.1 := fun e' member =>
      hrest.1 e'.1 (List.mem_map_of_mem member)
    cases test : P hd with
    | false =>
      simp only [List.takeWhile_cons, test, Bool.false_eq_true, if_false, List.not_mem_nil,
        false_iff]
      rintro ⟨member, all⟩
      have first : hd.1 ≤ e.1 := by
        cases List.mem_cons.mp member with
        | inl same => exact same ▸ le_rfl
        | inr later => exact (above e later).le
      have passes := all hd List.mem_cons_self first
      rw [test] at passes
      cases passes
    | true =>
      simp only [List.takeWhile_cons, test, if_true, List.mem_cons, ih hrest.2, forall_eq_or_imp,
        imp_true_iff, true_and]
      constructor
      · rintro (same | ⟨member, all⟩)
        · subst same
          exact ⟨.inl rfl, fun e' later below => absurd below (not_le.mpr (above e' later))⟩
        · exact ⟨.inr member, all⟩
      · rintro ⟨same | member, all⟩
        · exact .inl same
        · exact .inr ⟨member, all⟩

/-- Erasing keys one after the other keeps the entries under the other keys. -/
theorem foldl_erase_entries (m : OrderedMap κ β) (ks : List κ) :
    (ks.foldl erase m).entries = m.entries.filter fun e => e.1 ∉ ks := by
  induction ks generalizing m with
  | nil => simp
  | cons k ks ih =>
    rw [List.foldl_cons, ih]
    simp only [erase, List.filter_filter]
    apply List.filter_congr
    intro e _
    by_cases h : e.1 = k <;> simp [h]

end OrderedMap
