/-!
# Maps that keep the order of insertion

A map is a list of keys and values.  Inserting at a key that is present replaces
its value where it stands; any other key goes to the end.
-/

namespace Tabletop

abbrev OrderedMap (α β : Type) := List (α × β)

namespace OrderedMap

variable {α β : Type}

/-- Inserts under a given equivalence of keys; the first key that was written stays. -/
def insertBy (same : α → α → Bool) (key : α) (value : β) : OrderedMap α β → OrderedMap α β
  | [] => [(key, value)]
  | (k, v) :: rest =>
    if same k key then (k, value) :: rest
    else (k, v) :: insertBy same key value rest

def insert [BEq α] (map : OrderedMap α β) (key : α) (value : β) : OrderedMap α β :=
  insertBy (· == ·) key value map

def ofListBy (same : α → α → Bool) (entries : List (α × β)) : OrderedMap α β :=
  entries.foldl (fun map (key, value) => insertBy same key value map) []

def ofList [BEq α] (entries : List (α × β)) : OrderedMap α β :=
  ofListBy (· == ·) entries

def get? [BEq α] (map : OrderedMap α β) (key : α) : Option β := List.lookup key map

def erase [BEq α] (map : OrderedMap α β) (key : α) : OrderedMap α β :=
  map.filter fun (k, _) => !(k == key)

@[simp] theorem get?_nil [BEq α] (key : α) : get? ([] : OrderedMap α β) key = none := rfl

theorem get?_cons [BEq α] (k : α) (v : β) (map : OrderedMap α β) (key : α) :
    get? ((k, v) :: map) key = if key == k then some v else get? map key := by
  unfold get?
  rw [List.lookup_cons]
  cases key == k <;> rfl

theorem get?_insert [BEq α] [LawfulBEq α] (map : OrderedMap α β) (key : α) (value : β)
    (other : α) :
    (map.insert key value).get? other = if other == key then some value else map.get? other := by
  induction map with
  | nil => simp [insert, insertBy, get?_cons]
  | cons entry rest ih =>
    obtain ⟨k, v⟩ := entry
    unfold insert at ih ⊢
    unfold insertBy
    by_cases h : k = key
    · subst h
      by_cases ho : other = k <;> simp [get?_cons, ho]
    · have hk : (k == key) = false := by simpa using h
      simp only [hk, Bool.false_eq_true, if_false]
      rw [get?_cons, get?_cons, ih]
      by_cases ho : other = k
      · have : ¬ k = key := h
        subst ho
        simp [this]
      · simp [ho]

theorem get?_erase [BEq α] [LawfulBEq α] (map : OrderedMap α β) (key other : α) :
    (map.erase key).get? other = if other == key then none else map.get? other := by
  induction map with
  | nil => simp [erase]
  | cons entry rest ih =>
    obtain ⟨k, v⟩ := entry
    unfold erase at ih ⊢
    by_cases h : k = key
    · subst h
      rw [List.filter_cons_of_neg (by simp), ih, get?_cons]
      by_cases ho : other = k <;> simp [ho]
    · rw [List.filter_cons_of_pos (by simpa using h), get?_cons, get?_cons, ih]
      by_cases ho : other = k
      · subst ho
        simp [h]
      · simp [ho]

end OrderedMap
end Tabletop
