import Mathlib.Data.List.Nodup
import Mathlib.Data.List.Induction
import Statechart.Registry

/-! The life of a registry is a row of writes. Its keys stand in the order in which they were first
inserted and stay where they are; under each of them is what was last written there. -/
namespace Statechart

section Lists

variable {α : Type} [BEq α] [LawfulBEq α]

theorem eraseDups_concat_of_mem {as : List α} {a : α} (h : a ∈ as) :
    (as ++ [a]).eraseDups = as.eraseDups := by
  simp [List.eraseDups_append, List.removeAll, h]

theorem eraseDups_concat_of_not_mem {as : List α} {a : α} (h : a ∉ as) :
    (as ++ [a]).eraseDups = as.eraseDups ++ [a] := by
  simp [List.eraseDups_append, List.removeAll, h, List.eraseDups_cons]

theorem pairwise_idxOf_eraseDups (as : List α) :
    as.eraseDups.Pairwise fun a b => as.idxOf a < as.idxOf b := by
  induction as using List.reverseRecOn with
  | nil => exact .nil
  | append_singleton as a ih =>
    have kept {b : α} (h : b ∈ as.eraseDups) : (as ++ [a]).idxOf b = as.idxOf b :=
      List.idxOf_append_of_mem (List.mem_eraseDups.1 h)
    have ih' : as.eraseDups.Pairwise fun b c => (as ++ [a]).idxOf b < (as ++ [a]).idxOf c :=
      ih.imp_of_mem fun hb hc before => by rwa [kept hb, kept hc]
    by_cases seen : a ∈ as
    · rwa [eraseDups_concat_of_mem seen]
    · rw [eraseDups_concat_of_not_mem seen, List.pairwise_append]
      refine ⟨ih', List.pairwise_singleton _ _, fun b hb c hc => ?_⟩
      rw [List.mem_singleton.1 hc, kept hb, List.idxOf_append_of_notMem seen]
      exact Nat.lt_add_right _ (List.idxOf_lt_length_of_mem (List.mem_eraseDups.1 hb))

end Lists

/-- An entry is inserted under its own key, or the one that stands under a key is changed and keeps
that key. -/
inductive Write (α : Type) [Keyed α] where
  | insert (a : α)
  | update (k : String) (f : α → α) (keeps : ∀ a, key (f a) = key a)

variable {α : Type} [Keyed α]

namespace Write

def inserted? : Write α → Option String
  | insert a => some (key a)
  | update .. => none

def leave (k : String) (held : Option α) : Write α → Option α
  | insert a => if key a = k then some a else held
  | update j f _ => if j = k then held.map f else held

end Write

/-- The keys of the entries inserted, in the order of the writes and with repetitions. -/
def insertedKeys (ws : List (Write α)) : List String := ws.filterMap Write.inserted?

def lastWritten (ws : List (Write α)) (k : String) : Option α := ws.foldl (Write.leave k) none

theorem insertedKeys_append_singleton (ws : List (Write α)) (w : Write α) :
    insertedKeys (ws ++ [w]) = insertedKeys ws ++ w.inserted?.toList := by
  rw [insertedKeys, List.filterMap_append, insertedKeys]
  cases w <;> rfl

theorem lastWritten_append_singleton (ws : List (Write α)) (w : Write α) (k : String) :
    lastWritten (ws ++ [w]) k = w.leave k (lastWritten ws k) :=
  List.foldl_append

theorem lastWritten_eq_none_iff {ws : List (Write α)} {k : String} :
    lastWritten ws k = none ↔ k ∉ insertedKeys ws := by
  induction ws using List.reverseRecOn with
  | nil => exact iff_of_true rfl List.not_mem_nil
  | append_singleton ws w ih =>
    rw [lastWritten_append_singleton, insertedKeys_append_singleton, List.mem_append, not_or, ← ih]
    cases w with
    | insert a =>
      by_cases own : key a = k
      · simp [Write.leave, Write.inserted?, own]
      · simp [Write.leave, Write.inserted?, own, Ne.symm own]
    | update j f keeps => by_cases own : j = k <;> simp [Write.leave, Write.inserted?, own]

namespace Registry
variable {r : Registry α}

def write (r : Registry α) : Write α → Registry α
  | .insert a => r.insert a
  | .update k f keeps => r.modify k f keeps

def ofWrites (ws : List (Write α)) : Registry α := ws.foldl write ∅

theorem ofWrites_append (ws more : List (Write α)) :
    ofWrites (ws ++ more) = more.foldl write (ofWrites ws) :=
  List.foldl_append

theorem get?_write (r : Registry α) (w : Write α) (k : String) :
    (r.write w).get? k = w.leave k (r.get? k) := by
  cases w with
  | insert a =>
    rw [write, get?_insert, Write.leave]
    by_cases own : k = key a <;> simp [own, eq_comm]
  | update j f keeps =>
    rw [write, get?_modify, Write.leave]
    by_cases own : k = j <;> simp [own, eq_comm]

theorem keys_write (r : Registry α) (w : Write α) :
    (r.write w).keys = r.keys ++ w.inserted?.toList.filter (· ∉ r.keys) := by
  cases w with
  | insert a =>
    rw [write, keys_insert]
    split <;> rename_i seen <;> simp [Write.inserted?, seen]
  | update j f keeps =>
    rw [write, keys_modify]
    exact (List.append_nil _).symm

theorem get?_ofWrites (ws : List (Write α)) (k : String) :
    (ofWrites ws).get? k = lastWritten ws k := by
  induction ws using List.reverseRecOn with
  | nil => rfl
  | append_singleton ws w ih =>
    rw [ofWrites_append, lastWritten_append_singleton, ← ih]
    exact get?_write _ w k

theorem keys_ofWrites (ws : List (Write α)) : (ofWrites ws).keys = (insertedKeys ws).eraseDups := by
  induction ws using List.reverseRecOn with
  | nil => rfl
  | append_singleton ws w ih =>
    have step : (ofWrites (ws ++ [w])).keys =
        (ofWrites ws).keys ++ w.inserted?.toList.filter (· ∉ (ofWrites ws).keys) := by
      rw [ofWrites_append]
      exact keys_write _ w
    rw [step, ih, insertedKeys_append_singleton]
    cases w with
    | update j f keeps => simp [Write.inserted?]
    | insert a =>
      by_cases seen : key a ∈ insertedKeys ws
      · simp [Write.inserted?, seen, eraseDups_concat_of_mem seen]
      · simp [Write.inserted?, seen, eraseDups_concat_of_not_mem seen]

/-- No key goes, and none moves. -/
theorem keys_prefix_foldl_write (r : Registry α) (ws : List (Write α)) :
    r.keys <+: (ws.foldl write r).keys := by
  induction ws generalizing r with
  | nil => exact List.prefix_refl _
  | cons w ws ih => exact (keys_write r w ▸ List.prefix_append _ _).trans (ih (r.write w))

/-- Keys occur once, so that the first place of a key is its only one. -/
theorem position?_eq_some_iff {k : String} {i : Nat} :
    r.position? k = some i ↔ r.keys[i]? = some k := by
  have search : r.position? k = r.keys.findIdx? (· == k) := by
    rw [keys, List.findIdx?_map]
    rfl
  rw [search, List.findIdx?_eq_some_iff_getElem, List.getElem?_eq_some_iff]
  constructor
  · rintro ⟨inside, own, -⟩
    exact ⟨inside, beq_iff_eq.1 own⟩
  · rintro ⟨inside, own⟩
    refine ⟨inside, beq_iff_eq.2 own, fun j before same => ?_⟩
    have again : r.keys[j] = r.keys[i] := (beq_iff_eq.1 same).trans own.symm
    have one : j = i := (List.Nodup.getElem_inj_iff r.nodup_keys).1 again
    omega

theorem position?_key {b : α} {i : Nat} (there : r.entries[i]? = some b) :
    r.position? (key b) = some i := by
  rw [position?_eq_some_iff, keys, List.getElem?_map, there, Option.map_some]

theorem entries_map_eq_set {k : String} {i : Nat} {b : α} {g : α → α}
    (keeps : ∀ a, key (g a) = key a) (others : ∀ a, key a ≠ k → g a = a)
    (there : r.entries[i]? = some b) (own : key b = k) :
    (r.map g keeps).entries = r.entries.set i (g b) := by
  have place : r.position? k = some i := own ▸ position?_key there
  apply List.ext_getElem?
  intro j
  rw [map, List.getElem?_map, List.getElem?_set]
  split
  · rename_i same
    obtain ⟨inside, -⟩ := List.getElem?_eq_some_iff.1 there
    rw [← same, if_pos inside, there, Option.map_some]
  · rename_i other
    cases found : r.entries[j]? with
    | none => rfl
    | some c =>
      have apart : key c ≠ k := by
        intro same
        have place' : r.position? k = some j := same ▸ position?_key found
        exact other (Option.some.inj (place.symm.trans place'))
      rw [Option.map_some, others c apart]

theorem modify_of_not_mem {k : String} {f : α → α} (keeps : ∀ a, key (f a) = key a)
    (absent : k ∉ r.keys) : r.modify k f keeps = r := by
  refine ext_get? (keys_modify ..) fun j member => ?_
  rw [keys_modify] at member
  rw [get?_modify, if_neg]
  rintro rfl
  exact absent member

end Registry
end Statechart
