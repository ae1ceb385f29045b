import Statechart.Proofs.Registry.Writes
import Statechart.Registry.Indexed

/-! After every row of writes the entries and the index agree, no reading has failed, and the answers
are those of the registry without an index. -/
namespace Statechart

theorem getElem?_concat_eq_some_iff {α : Type} {as : List α} {a b : α} {i : Nat} :
    (as ++ [a])[i]? = some b ↔ as[i]? = some b ∨ a = b ∧ as.length = i := by
  rw [List.getElem?_append]
  split
  · rename_i inside
    simp [Nat.ne_of_gt inside]
  · rename_i beyond
    rw [List.getElem?_eq_none (Nat.le_of_not_lt beyond), List.getElem?_singleton]
    have last : i - as.length = 0 ↔ as.length = i := by omega
    simp [last, and_comm]

namespace Indexed
variable {α : Type} [Keyed α]

def write (t : Indexed α) : Write α → Except OutOfRange (Indexed α)
  | .insert a => (·.2) <$> t.insert a
  | .update k f _ => t.update k f

def ofWrites (ws : List (Write α)) : Except OutOfRange (Indexed α) := ws.foldlM write {}

/-- The entries are the same, and the index tells where each key stands. -/
structure Represents (t : Indexed α) (r : Registry α) : Prop where
  entries : t.entries.toList = r.entries
  index_iff : ∀ (k : String) (i : Nat), t.index[k]? = some i ↔ r.keys[i]? = some k

variable {t : Indexed α} {r : Registry α}

theorem represents_empty : ({} : Indexed α).Represents ∅ where
  entries := rfl
  index_iff k i := by simp

namespace Represents

theorem keys (h : t.Represents r) : t.keys = r.keys := by
  rw [Indexed.keys, h.entries]
  rfl

theorem position? (h : t.Represents r) (k : String) : t.index[k]? = r.position? k := by
  ext i
  rw [h.index_iff, Registry.position?_eq_some_iff]

theorem size (h : t.Represents r) : t.entries.size = r.keys.length := by
  rw [← Array.length_toList, h.entries, Registry.keys, List.length_map]

theorem not_mem_keys (h : t.Represents r) {k : String} (absent : t.index[k]? = none) :
    k ∉ r.keys := by
  intro member
  obtain ⟨i, there⟩ := List.getElem?_of_mem member
  rw [(h.index_iff k i).2 there] at absent
  cases absent

theorem exists_entryAt (h : t.Represents r) {k : String} {i : Nat} (told : t.index[k]? = some i) :
    ∃ b, r.entries[i]? = some b ∧ r.get? k = some b ∧ t.entryAt i = .ok b := by
  have there := (h.index_iff k i).1 told
  rw [Registry.keys, List.getElem?_map, Option.map_eq_some_iff] at there
  obtain ⟨b, there, rfl⟩ := there
  refine ⟨b, there, Registry.get?_of_mem (List.mem_of_getElem? there), ?_⟩
  rw [← h.entries, Array.getElem?_toList] at there
  rw [entryAt, there]

theorem get? (h : t.Represents r) (k : String) : t.get? k = .ok (r.get? k) := by
  cases told : t.index[k]? with
  | some i =>
    obtain ⟨b, -, found, read⟩ := h.exists_entryAt told
    rw [Indexed.get?, told, found]
    simp only [read]
    rfl
  | none =>
    rw [Indexed.get?, told, Registry.get?_eq_none_iff.2 (h.not_mem_keys told)]

theorem contains (h : t.Represents r) (k : String) : t.contains k = r.contains k := by
  rw [Bool.eq_iff_iff, Registry.contains_iff_mem_keys, Indexed.contains,
    Std.HashMap.contains_eq_isSome_getElem?, Option.isSome_iff_exists]
  simp only [h.index_iff, List.mem_iff_getElem?]

theorem put (h : t.Represents r) {k : String} {i : Nat} {b : α} {g : α → α}
    (keeps : ∀ a, key (g a) = key a) (others : ∀ a, key a ≠ k → g a = a)
    (there : r.entries[i]? = some b) (own : key b = k) :
    (t.put i (g b)).Represents (r.map g keeps) where
  entries := by
    rw [Registry.entries_map_eq_set keeps others there own, Indexed.put, Array.toList_setIfInBounds,
      h.entries]
  index_iff k i := by
    rw [Registry.keys_map]
    exact h.index_iff k i

theorem push (h : t.Represents r) {a : α} (new : key a ∉ r.keys) :
    (t.push a).Represents (r.insert a) where
  entries := by
    rw [Registry.entries_insert_of_new (Bool.eq_false_iff.2 (new ∘ Registry.contains_iff_mem_keys.1)),
      Indexed.push, Array.toList_push, h.entries]
  index_iff k i := by
    rw [Indexed.push, Std.HashMap.getElem?_insert, Registry.keys_insert, if_neg new, h.size]
    rw [getElem?_concat_eq_some_iff, ← h.index_iff]
    by_cases own : key a = k
    · have absent : t.index[k]? ≠ some i := fun told => by
        rw [h.index_iff, ← own] at told
        exact new (List.mem_of_getElem? told)
      simp [own, absent, eq_comm]
    · simp [own]

theorem insert (h : t.Represents r) (a : α) :
    ∃ t', t.insert a = .ok ((r.exchange a).1, t') ∧ t'.Represents (r.exchange a).2 := by
  cases told : t.index[key a]? with
  | some i =>
    obtain ⟨b, there, found, read⟩ := h.exists_entryAt told
    refine ⟨t.put i a, ?_, ?_⟩
    · rw [Indexed.insert, told, Registry.exchange, found]
      simp only [read]
      rfl
    · have own : key b = key a := Registry.key_of_get? found
      have replaced := h.put (g := fun c => if key c = key a then a else c)
        (fun c => by split <;> simp_all) (fun c other => if_neg other) there own
      rw [Registry.exchange, Registry.insert, dif_pos (Registry.mem_keys_of_get? found)]
      rwa [if_pos own] at replaced
  | none =>
    have new := h.not_mem_keys told
    refine ⟨t.push a, ?_, h.push new⟩
    rw [Indexed.insert, told, Registry.exchange, Registry.get?_eq_none_iff.2 new]

theorem update (h : t.Represents r) (k : String) {f : α → α} (keeps : ∀ a, key (f a) = key a) :
    ∃ t', t.update k f = .ok t' ∧ t'.Represents (r.modify k f keeps) := by
  cases told : t.index[k]? with
  | some i =>
    obtain ⟨b, there, found, read⟩ := h.exists_entryAt told
    have own : key b = k := Registry.key_of_get? found
    refine ⟨t.put i (f b), ?_, ?_⟩
    · rw [Indexed.update, told]
      simp only [read]
      rfl
    · have changed := h.put (g := fun c => if key c = k then f c else c)
        (fun c => by split <;> simp [keeps]) (fun c other => if_neg other) there own
      rwa [if_pos own] at changed
  | none =>
    refine ⟨t, by rw [Indexed.update, told], ?_⟩
    rwa [Registry.modify_of_not_mem keeps (h.not_mem_keys told)]

theorem write (h : t.Represents r) (w : Write α) :
    ∃ t', t.write w = .ok t' ∧ t'.Represents (r.write w) := by
  cases w with
  | insert a =>
    obtain ⟨t', written, after⟩ := h.insert a
    refine ⟨t', ?_, after⟩
    rw [Indexed.write, written]
    rfl
  | update k f keeps => exact h.update k keeps

theorem foldlM_write (h : t.Represents r) (ws : List (Write α)) :
    ∃ t', ws.foldlM Indexed.write t = .ok t' ∧ t'.Represents (ws.foldl Registry.write r) := by
  induction ws generalizing t r with
  | nil => exact ⟨t, rfl, h⟩
  | cons w ws ih =>
    obtain ⟨t₁, written, after⟩ := h.write w
    obtain ⟨t', run, last⟩ := ih after
    refine ⟨t', ?_, last⟩
    rw [List.foldlM_cons, written]
    exact run

end Represents

theorem represents_ofWrites (ws : List (Write α)) :
    ∃ t, ofWrites ws = .ok t ∧ t.Represents (Registry.ofWrites ws) :=
  represents_empty.foldlM_write ws

/-- What registries with and without an index hold after a row of writes. -/
structure Records (t : Indexed α) (r : Registry α) (ws : List (Write α)) : Prop where
  represents : t.Represents r
  nodup_keys : t.keys.Nodup
  mem_keys_iff : ∀ k, k ∈ t.keys ↔ k ∈ insertedKeys ws
  ordered : t.keys.Pairwise fun j k => (insertedKeys ws).idxOf j < (insertedKeys ws).idxOf k
  index_iff : ∀ (k : String) (i : Nat), t.index[k]? = some i ↔ t.keys[i]? = some k
  position?_eq : ∀ k, r.position? k = t.index[k]?
  get?_eq : ∀ k, t.get? k = .ok (lastWritten ws k) ∧ r.get? k = lastWritten ws k
  never_inserted_iff : ∀ k, lastWritten ws k = none ↔ k ∉ insertedKeys ws
  contains_eq : ∀ k, t.contains k = r.contains k
  replaced : ∀ a, (r.exchange a).1 = lastWritten ws (key a) ∧
    ∃ t', t.insert a = .ok (lastWritten ws (key a), t') ∧ t'.Represents (r.exchange a).2

theorem Represents.records {ws : List (Write α)} (h : t.Represents (Registry.ofWrites ws)) :
    t.Records (Registry.ofWrites ws) ws where
  represents := h
  nodup_keys := h.keys ▸ (Registry.ofWrites ws).nodup_keys
  mem_keys_iff k := by
    rw [h.keys, Registry.keys_ofWrites]
    exact List.mem_eraseDups
  ordered := by
    rw [h.keys, Registry.keys_ofWrites]
    exact pairwise_idxOf_eraseDups _
  index_iff := h.keys ▸ h.index_iff
  position?_eq k := (h.position? k).symm
  get?_eq k := by
    rw [h.get?, Registry.get?_ofWrites]
    exact ⟨rfl, rfl⟩
  never_inserted_iff _ := lastWritten_eq_none_iff
  contains_eq := h.contains
  replaced a := by
    have old : ((Registry.ofWrites ws).exchange a).1 = lastWritten ws (key a) :=
      Registry.get?_ofWrites ws (key a)
    exact ⟨old, old ▸ h.insert a⟩

/-- Whatever is written, no position is read that has no entry; keys and positions once there stay. -/
theorem indexed_records (ws : List (Write α)) :
    ∃ t, ofWrites ws = .ok t ∧ t.Records (Registry.ofWrites ws) ws ∧
      ∀ more, ∃ t', ofWrites (ws ++ more) = .ok t' ∧ t.keys <+: t'.keys ∧
        ∀ (k : String) (i : Nat), t.index[k]? = some i → t'.index[k]? = some i := by
  obtain ⟨t, written, h⟩ := represents_ofWrites ws
  refine ⟨t, written, h.records, fun more => ?_⟩
  obtain ⟨t', written', h'⟩ := represents_ofWrites (ws ++ more)
  have kept : (Registry.ofWrites ws).keys <+: (Registry.ofWrites (ws ++ more)).keys := by
    rw [Registry.ofWrites_append]
    exact Registry.keys_prefix_foldl_write _ more
  refine ⟨t', written', ?_, fun k i told => ?_⟩
  · rwa [h.keys, h'.keys]
  · rw [h.index_iff] at told
    obtain ⟨inside, -⟩ := List.getElem?_eq_some_iff.1 told
    obtain ⟨later, whole⟩ := kept
    rw [h'.index_iff, ← whole, List.getElem?_append_left inside, told]

end Indexed
end Statechart
