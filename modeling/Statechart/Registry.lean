/-! A registry holds entries by key, in the order in which their keys were first registered. Writing
a key again replaces its entry in place. -/
namespace Statechart

class Keyed (α : Type) where
  key : α → String

export Keyed (key)

structure Registry (α : Type) [Keyed α] where
  entries : List α := []
  nodup_keys : (entries.map key).Nodup := by simp

namespace Registry
variable {α : Type} [Keyed α]

instance : EmptyCollection (Registry α) := ⟨{}⟩
instance : Inhabited (Registry α) := ⟨∅⟩

instance [DecidableEq α] : DecidableEq (Registry α) := fun r s =>
  decidable_of_iff (r.entries = s.entries) ⟨fun h => by cases r; cases s; simp_all, (· ▸ rfl)⟩

def keys (r : Registry α) : List String := r.entries.map key

def size (r : Registry α) : Nat := r.entries.length

def get? (r : Registry α) (k : String) : Option α := r.entries.find? (key · == k)

def contains (r : Registry α) (k : String) : Bool := (r.get? k).isSome

def position? (r : Registry α) (k : String) : Option Nat := r.entries.findIdx? (key · == k)

def first? (r : Registry α) : Option α := r.entries.head?

def map (r : Registry α) (f : α → α) (h : ∀ a, key (f a) = key a) : Registry α where
  entries := r.entries.map f
  nodup_keys := by
    have : r.entries.map (key ∘ f) = r.entries.map key := List.map_congr_left fun a _ => h a
    rw [List.map_map, this]; exact r.nodup_keys

def modify (r : Registry α) (k : String) (f : α → α) (h : ∀ a, key (f a) = key a) : Registry α :=
  r.map (fun a => if key a = k then f a else a) fun a => by split <;> simp [h]

def insert (r : Registry α) (a : α) : Registry α :=
  if h : key a ∈ r.keys then
    r.map (fun b => if key b = key a then a else b) fun b => by split <;> simp_all
  else
    { entries := r.entries ++ [a]
      nodup_keys := by
        rw [List.map_append, List.nodup_append]
        refine ⟨r.nodup_keys, by simp, fun k hk l hl => ?_⟩
        obtain rfl : l = key a := by simpa using hl
        exact fun hkl => h (hkl ▸ hk) }

def exchange (r : Registry α) (a : α) : Option α × Registry α := (r.get? (key a), r.insert a)

theorem key_of_get? {r : Registry α} {k : String} {a : α} (h : r.get? k = some a) : key a = k := by
  simpa using List.find?_some h

theorem mem_of_get? {r : Registry α} {k : String} {a : α} (h : r.get? k = some a) :
    a ∈ r.entries := List.mem_of_find?_eq_some h

theorem mem_keys_of_get? {r : Registry α} {k : String} {a : α} (h : r.get? k = some a) :
    k ∈ r.keys := key_of_get? h ▸ List.mem_map_of_mem (mem_of_get? h)

theorem get?_eq_none_iff {r : Registry α} {k : String} : r.get? k = none ↔ k ∉ r.keys := by
  simp [get?, keys]

theorem contains_iff_mem_keys {r : Registry α} {k : String} : r.contains k = true ↔ k ∈ r.keys := by
  rw [contains, Option.isSome_iff_ne_none, ne_eq, get?_eq_none_iff, Classical.not_not]

@[simp] theorem keys_empty : (∅ : Registry α).keys = [] := rfl

@[simp] theorem keys_map (r : Registry α) (f : α → α) (h : ∀ a, key (f a) = key a) :
    (r.map f h).keys = r.keys := by
  simp only [keys, map, List.map_map]; exact List.map_congr_left fun a _ => h a

@[simp] theorem keys_modify (r : Registry α) (k : String) (f : α → α) (h : ∀ a, key (f a) = key a) :
    (r.modify k f h).keys = r.keys := keys_map ..

theorem keys_insert (r : Registry α) (a : α) :
    (r.insert a).keys = if key a ∈ r.keys then r.keys else r.keys ++ [key a] := by
  unfold insert
  split
  · exact keys_map ..
  · simp [keys]

theorem get?_of_mem {r : Registry α} {a : α} (h : a ∈ r.entries) : r.get? (key a) = some a := by
  obtain ⟨xs, ys, split⟩ := List.append_of_mem h
  have fresh : key a ∉ xs.map key := by
    have nodup := r.nodup_keys
    rw [split, List.map_append, List.nodup_append] at nodup
    exact fun member => nodup.2.2 _ member _ (by simp) rfl
  have skipped : xs.find? (key · == key a) = none := by
    simpa [List.find?_eq_none] using fresh
  rw [get?, split, List.find?_append, skipped]
  simp

theorem contains_iff {r : Registry α} {k : String} :
    r.contains k = true ↔ ∃ a, r.get? k = some a := Option.isSome_iff_exists

@[simp] theorem get?_empty (k : String) : (∅ : Registry α).get? k = none := rfl

@[simp] theorem get?_map (r : Registry α) (f : α → α) (h : ∀ a, key (f a) = key a) (k : String) :
    (r.map f h).get? k = (r.get? k).map f := by
  simp only [get?, map, List.find?_map]
  congr 2
  funext a
  simp [h]

theorem get?_modify (r : Registry α) (j : String) (f : α → α) (h : ∀ a, key (f a) = key a)
    (k : String) : (r.modify j f h).get? k = if k = j then (r.get? k).map f else r.get? k := by
  rw [modify, get?_map]
  cases found : r.get? k with
  | none => simp
  | some a => split <;> simp_all [key_of_get? found]

theorem get?_insert (r : Registry α) (a : α) (k : String) :
    (r.insert a).get? k = if k = key a then some a else r.get? k := by
  unfold insert
  split
  · rename_i h
    rw [get?_map]
    cases found : r.get? k with
    | none =>
      have : k ≠ key a := fun e => get?_eq_none_iff.1 found (e ▸ h)
      simp [this]
    | some b => split <;> simp_all [key_of_get? found]
  · rename_i h
    simp only [get?, List.find?_append]
    split
    · rename_i e
      have absent : r.entries.find? (key · == k) = none := get?_eq_none_iff.2 (e ▸ h)
      rw [absent]
      simp [e]
    · rename_i e
      simp [Ne.symm e]

theorem mem_entries_iff {r : Registry α} {a : α} : a ∈ r.entries ↔ r.get? (key a) = some a :=
  ⟨get?_of_mem, mem_of_get?⟩

theorem entries_insert_of_new {r : Registry α} {a : α} (new : r.contains (key a) = false) :
    (r.insert a).entries = r.entries ++ [a] := by
  have absent : key a ∉ r.keys := by
    rw [← contains_iff_mem_keys, new]
    exact Bool.false_ne_true
  rw [insert, dif_neg absent]

theorem mem_insert {r : Registry α} {a b : α} :
    b ∈ (r.insert a).entries ↔ b = a ∨ b ∈ r.entries ∧ key b ≠ key a := by
  rw [mem_entries_iff, get?_insert, mem_entries_iff]
  by_cases same : key b = key a
  · simp [same, eq_comm]
  · have other : b ≠ a := fun e => same (e ▸ rfl)
    simp [same, other]

theorem forall_mem_insert {r : Registry α} {a : α} {P : α → Prop} (own : P a)
    (old : ∀ b ∈ r.entries, P b) : ∀ b ∈ (r.insert a).entries, P b := by
  intro b hb
  rcases mem_insert.1 hb with rfl | ⟨kept, -⟩
  · exact own
  · exact old b kept

theorem forall_mem_modify {r : Registry α} {k : String} {f : α → α} (h : ∀ a, key (f a) = key a)
    {P : α → Prop} (old : ∀ a ∈ r.entries, P a) (new : ∀ a ∈ r.entries, P (f a)) :
    ∀ b ∈ (r.modify k f h).entries, P b := by
  intro b hb
  obtain ⟨a, ha, rfl⟩ := List.mem_map.1 hb
  split
  · exact new a ha
  · exact old a ha

theorem contains_insert (r : Registry α) (a : α) (k : String) :
    (r.insert a).contains k = (k == key a || r.contains k) := by
  rw [contains, get?_insert, contains]
  by_cases same : k = key a <;> simp [same]

theorem contains_foldl_insert (as : List α) (r : Registry α) (k : String) :
    (as.foldl insert r).contains k ↔ (∃ a ∈ as, key a = k) ∨ r.contains k := by
  induction as generalizing r with
  | nil => simp
  | cons a as ih =>
    rw [List.foldl_cons, ih, contains_insert, Bool.or_eq_true, beq_iff_eq, eq_comm]
    simp only [List.mem_cons, exists_eq_or_imp, or_assoc, or_left_comm]

/-- Of the entries written under a key the last one is found. -/
theorem get?_foldl_insert (as : List α) (r : Registry α) (k : String) :
    (as.foldl insert r).get? k = (as.filter (key · = k)).getLast?.or (r.get? k) := by
  induction as generalizing r with
  | nil => rfl
  | cons a as ih =>
    rw [List.foldl_cons, ih, get?_insert]
    by_cases same : key a = k
    · rw [List.filter_cons_of_pos (by simp [same]), List.getLast?_cons, if_pos same.symm]
      cases (as.filter (key · = k)).getLast? <;> rfl
    · rw [List.filter_cons_of_neg (by simp [same]), if_neg (Ne.symm same)]

theorem map_get?_keys (r : Registry α) : r.keys.map r.get? = r.entries.map some := by
  rw [keys, List.map_map]
  exact List.map_congr_left fun a h => get?_of_mem h

theorem ext_entries {r s : Registry α} (h : r.entries = s.entries) : r = s := by
  cases r
  cases s
  cases h
  rfl

theorem ext_get? {r s : Registry α} (keys : r.keys = s.keys)
    (get : ∀ k ∈ r.keys, r.get? k = s.get? k) : r = s := by
  have entries : r.entries.map some = s.entries.map some := by
    rw [← map_get?_keys, ← map_get?_keys, ← keys]
    exact List.map_congr_left get
  exact ext_entries ((List.map_inj_right fun _ _ => Option.some.inj).1 entries)

end Registry
end Statechart
