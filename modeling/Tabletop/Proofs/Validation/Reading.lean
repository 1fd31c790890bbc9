import Tabletop.Proofs.Fallible
import Tabletop.Validation
import Mathlib

/-!
# What readers accept

A reader asks for fields and hands each value to the reader of the field.  What it
accepts was accepted there, or it is the standard value of a field that is left out.
So a bound that is checked anywhere inside holds of everything that comes out.
-/

namespace Tabletop
namespace Validation

open Text

variable {α : Type} {fields : OrderedMap Loose Json} {names : List String}
  {read : Json → Checked α} {standard x : α}

theorem fieldsOf_eq_ok_iff {json : Json} : fieldsOf json = .ok fields ↔ json = .object fields := by
  cases json with
  | object others => simp [fieldsOf]
  | _ => simp [fieldsOf, Checked.fault]

theorem required_eq_ok {name : String} (hread : required fields name read = .ok x) :
    ∃ value, read value = .ok x := by
  unfold required at hread
  split at hread
  next value hvalue => exact ⟨value, Checked.inside_eq_ok.mp hread⟩
  next => cases hread

theorem optional_eq_ok_iff :
    optional fields names read standard = .ok x ↔
      findField? fields names = none ∧ x = standard ∨
        ∃ name value, findField? fields names = some (name, value) ∧ read value = .ok x := by
  unfold optional
  cases findField? fields names with
  | none => simp [eq_comm]
  | some found =>
      obtain ⟨name, value⟩ := found
      constructor
      · intro hread
        exact .inr ⟨name, value, rfl, Checked.inside_eq_ok.mp hread⟩
      · rintro (⟨hnone, -⟩ | ⟨_, _, hfound, hread⟩)
        · cases hnone
        · obtain ⟨rfl, rfl⟩ := Prod.mk.inj (Option.some.inj hfound)
          exact Checked.inside_eq_ok.mpr hread

/-- What is accepted of a field is the standard value or was read. -/
theorem standard_or_read (hread : optional fields names read standard = .ok x) :
    x = standard ∨ ∃ value, read value = .ok x := by
  rcases optional_eq_ok_iff.mp hread with ⟨-, hstandard⟩ | ⟨_, value, -, hvalue⟩
  · exact .inl hstandard
  · exact .inr ⟨value, hvalue⟩

theorem orNull_eq_ok_iff {value : Json} {x : Option α} :
    orNull read value = .ok x ↔
      value = .null ∧ x = none ∨ value ≠ .null ∧ ∃ y, read value = .ok y ∧ some y = x := by
  cases value with
  | null => simp [orNull, eq_comm]
  | _ => simp [orNull, Except.map_eq_ok_iff]

/-- A value that may also be null, or be left out, was read if it is there. -/
theorem read_of_mem {x : Option α} (hread : optional fields names (orNull read) none = .ok x)
    {y : α} (hy : y ∈ x) : ∃ value, read value = .ok y := by
  obtain rfl := Option.mem_def.mp hy
  rcases standard_or_read hread with hnone | ⟨value, hvalue⟩
  · cases hnone
  · rcases orNull_eq_ok_iff.mp hvalue with ⟨-, hnone⟩ | ⟨-, z, hz, hsome⟩
    · cases hnone
    · obtain rfl := Option.some.inj hsome
      exact ⟨value, hz⟩

theorem textBetween_eq_ok {low high : Nat} {value : Json} {text : String}
    (hread : textBetween low high value = .ok text) :
    low ≤ text.length ∧ text.length ≤ high := by
  unfold textBetween at hread
  split at hread
  · split at hread
    · cases hread
    · split at hread
      · cases hread
      · obtain rfl := Except.ok.inj hread
        omega
  · cases hread

theorem Whole.ofJsonBetween_eq_ok {low high n : Int} {value : Json}
    (hread : Whole.ofJsonBetween low high value = .ok n) : low ≤ n ∧ n ≤ high := by
  obtain ⟨m, -, hbetween⟩ := Except.bind_eq_ok_iff.mp hread
  obtain ⟨rfl, hbounds⟩ := Whole.between_eq_ok.mp hbetween
  exact hbounds

end Validation
end Tabletop
