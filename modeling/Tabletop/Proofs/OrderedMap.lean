import Tabletop.OrderedMap
import Mathlib

/-!
# Keys of ordered maps

A map under construction never gets a key twice.  So the value of a key is that of
the only entry that has it, from whichever end the entries are searched.
-/

namespace Tabletop
namespace OrderedMap

variable {α β : Type}

def keys (map : OrderedMap α β) : List α := map.map Prod.fst

@[simp] theorem keys_nil : keys ([] : OrderedMap α β) = [] := rfl

@[simp] theorem keys_cons (entry : α × β) (map : OrderedMap α β) :
    keys (entry :: map) = entry.1 :: keys map := rfl

theorem exists_of_mem_insertBy {same : α → α → Bool} {key : α} {value : β}
    {map : OrderedMap α β} {entry : α × β} (hentry : entry ∈ insertBy same key value map) :
    entry.2 = value ∨ ∃ old ∈ map, old.2 = entry.2 := by
  induction map with
  | nil => exact .inl (congrArg Prod.snd (List.mem_singleton.mp hentry))
  | cons first rest ih =>
      unfold insertBy at hentry
      split at hentry
      · rcases List.mem_cons.mp hentry with rfl | hrest
        · exact .inl rfl
        · exact .inr ⟨entry, List.mem_cons_of_mem first hrest, rfl⟩
      · rcases List.mem_cons.mp hentry with rfl | hrest
        · exact .inr ⟨_, List.mem_cons_self, rfl⟩
        · rcases ih hrest with hnew | ⟨old, hold, hsame⟩
          · exact .inl hnew
          · exact .inr ⟨old, List.mem_cons_of_mem first hold, hsame⟩

variable [DecidableEq α]

theorem keys_insert (map : OrderedMap α β) (key : α) (value : β) :
    (map.insert key value).keys = if key ∈ map.keys then map.keys else map.keys ++ [key] := by
  induction map with
  | nil => rfl
  | cons entry rest ih =>
      obtain ⟨k, v⟩ := entry
      unfold insert at ih ⊢
      unfold insertBy
      by_cases hsame : k = key
      · simp [hsame]
      · have hne : ¬ key = k := fun h => hsame h.symm
        simp only [beq_iff_eq, hsame, if_false, keys_cons, List.mem_cons, hne, false_or, ih]
        split
        · rfl
        · rfl

theorem mem_keys_insert {map : OrderedMap α β} {key other : α} {value : β} :
    other ∈ (map.insert key value).keys ↔ other = key ∨ other ∈ map.keys := by
  rw [keys_insert]
  split
  next hmem =>
    constructor
    · exact Or.inr
    · rintro (rfl | hother)
      · exact hmem
      · exact hother
  next => simp [or_comm]

theorem nodup_keys_insert {map : OrderedMap α β} (hnodup : map.keys.Nodup) (key : α)
    (value : β) : (map.insert key value).keys.Nodup := by
  rw [keys_insert]
  split
  · exact hnodup
  next hfree =>
    have hconcat := hnodup.concat hfree
    rwa [List.concat_eq_append] at hconcat

theorem keys_erase_sublist (map : OrderedMap α β) (key : α) :
    (map.erase key).keys.Sublist map.keys := List.filter_sublist.map Prod.fst

/-- The value of a key is also that of the last entry that has the key. -/
theorem get?_eq_getLast? {map : OrderedMap α β} (hnodup : map.keys.Nodup) (key : α) :
    map.get? key = (map.filter (·.1 = key)).getLast?.map Prod.snd := by
  induction map with
  | nil => rfl
  | cons entry rest ih =>
      obtain ⟨k, v⟩ := entry
      obtain ⟨hfree, hrest⟩ := List.nodup_cons.mp hnodup
      rw [get?_cons]
      by_cases hsame : key = k
      · subst hsame
        have hnone : rest.filter (·.1 = key) = [] := by
          rw [List.filter_eq_nil_iff]
          intro other hother hkey
          have hmem : other.1 ∈ keys rest := List.mem_map_of_mem hother
          rw [of_decide_eq_true hkey] at hmem
          exact hfree hmem
        simp [hnone]
      · have hne : ¬ k = key := fun h => hsame h.symm
        simp [hsame, hne, ih hrest]

/-- Under a key stands what was written there last. -/
theorem get?_ofList (entries : List (α × β)) (key : α) :
    (ofList entries).get? key = (entries.filter (·.1 = key)).getLast?.map Prod.snd := by
  induction entries using List.reverseRecOn with
  | nil => rfl
  | append_singleton before entry ih =>
      obtain ⟨k, v⟩ := entry
      have hlast : ofList (before ++ [(k, v)]) = (ofList before).insert k v := by
        simp only [ofList, ofListBy, insert, List.foldl_append, List.foldl_cons, List.foldl_nil]
      rw [hlast, get?_insert, List.filter_append]
      by_cases hsame : key = k
      · simp [hsame]
      · have hne : ¬ k = key := fun h => hsame h.symm
        simp [hsame, hne, ih]

end OrderedMap
end Tabletop
