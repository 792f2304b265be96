import Mathlib.Algebra.Group.Int.Defs
import Mathlib.Algebra.Group.Nat.Defs
import PemBundle.Json.Compare

/-!
# Values that can be shown

A value can be shown as a text unless one of its whole numbers has too many digits or its containers
are nested too deep.
-/

namespace PemBundle.Json

/-- The value can be shown where containers may be nested `depth` deep. -/
inductive IsShown : Nat → Json → Prop
  | null (depth : Nat) : IsShown depth .null
  | bool (depth : Nat) (b : Bool) : IsShown depth (.bool b)
  | int (depth : Nat) {n : Int} (h : n.natAbs < 10 ^ maxDigits) : IsShown depth (.int n)
  | decimal (depth : Nat) (d : Decimal) : IsShown depth (.decimal d)
  | text (depth : Nat) (s : CodeText) : IsShown depth (.text s)
  | list {depth : Nat} {items : List Json} (h : ∀ item ∈ items, IsShown depth item) :
      IsShown (depth + 1) (.list items)
  | object {depth : Nat} {fields : List (CodeText × Json)}
      (h : ∀ field ∈ fields, IsShown depth field.2) : IsShown (depth + 1) (.object fields)

theorem isShown_int_iff (depth : Nat) (n : Int) :
    IsShown depth (.int n) ↔ n.natAbs < 10 ^ maxDigits := by
  constructor
  · rintro ⟨⟩
    assumption
  · exact .int depth

theorem isShown_list_iff (depth : Nat) (items : List Json) :
    IsShown (depth + 1) (.list items) ↔ ∀ item ∈ items, IsShown depth item := by
  constructor
  · rintro ⟨⟩
    assumption
  · exact .list

theorem isShown_object_iff (depth : Nat) (fields : List (CodeText × Json)) :
    IsShown (depth + 1) (.object fields) ↔ ∀ field ∈ fields, IsShown depth field.2 := by
  constructor
  · rintro ⟨⟩
    assumption
  · exact .object

theorem itemsObstacle?_eq_none_iff (depth : Nat) (items : List Json) :
    itemsObstacle? depth items = none ↔ ∀ item ∈ items, obstacle? depth item = none := by
  induction items with
  | nil => simp [itemsObstacle?]
  | cons item rest ih => rw [itemsObstacle?, Option.or_eq_none_iff, ih, List.forall_mem_cons]

theorem fieldsObstacle?_eq_none_iff (depth : Nat) (fields : List (CodeText × Json)) :
    fieldsObstacle? depth fields = none ↔ ∀ field ∈ fields, obstacle? depth field.2 = none := by
  induction fields with
  | nil => simp [fieldsObstacle?]
  | cons field rest ih =>
      rw [fieldsObstacle?, Option.or_eq_none_iff, ih, List.forall_mem_cons]

/-- A whole number can be shown if it has few enough digits. -/
theorem obstacle?_int_eq_none_iff (depth : Nat) (n : Int) :
    obstacle? depth (.int n) = none ↔ n.natAbs < 10 ^ maxDigits := by
  have hdigits := Nat.length_toDigits_le_iff (n := n.natAbs) (k := maxDigits)
    (by decide : 1 < 10) (by decide)
  rw [obstacle?, ← hdigits]
  split
  · next hlong => exact iff_of_false (Option.some_ne_none _) (Nat.not_le.mpr hlong)
  · next hshort => exact iff_of_true rfl (Nat.not_lt.mp hshort)

/-- A value can be shown exactly if nothing keeps it from that. -/
theorem obstacle?_eq_none_iff (depth : Nat) (value : Json) :
    obstacle? depth value = none ↔ IsShown depth value := by
  -- containers take up depth, so the induction is on what is left of it
  induction depth generalizing value with
  | zero =>
      cases value with
      | int n => rw [obstacle?_int_eq_none_iff, isShown_int_iff]
      | list items => exact iff_of_false (Option.some_ne_none _) (by rintro ⟨⟩)
      | object fields => exact iff_of_false (Option.some_ne_none _) (by rintro ⟨⟩)
      | null | bool | decimal | text => exact iff_of_true rfl (by constructor)
  | succ depth ih =>
      cases value with
      | int n => rw [obstacle?_int_eq_none_iff, isShown_int_iff]
      | list items =>
          rw [obstacle?, itemsObstacle?_eq_none_iff, isShown_list_iff]
          exact forall₂_congr fun item _ => ih item
      | object fields =>
          rw [obstacle?, fieldsObstacle?_eq_none_iff, isShown_object_iff]
          exact forall₂_congr fun field _ => ih field.2
      | null | bool | decimal | text => exact iff_of_true rfl (by constructor)

end PemBundle.Json
