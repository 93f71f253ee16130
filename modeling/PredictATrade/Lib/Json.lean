import Mathlib.Data.Rat.Defs

/-!
# `Lib.Json` — JSON values

Values as trees, numbers with and without a fraction apart. `nonFinite` stands for what some writers put
where a float is not a number; `standard` says that a value is free of it, as the standard wants.
-/

namespace Lib

/-- A value of the format, with the numbers that have no text in it. -/
inductive Json where
  | null
  | bool (b : Bool)
  | int (z : ℤ)
  | float (q : ℚ)
  | nonFinite
  | str (s : String)
  | arr (xs : List Json)
  | obj (entries : List (String × Json))

namespace Json

mutual

/-- Nothing in the value is a number without text. -/
def standard : Json → Bool
  | .nonFinite => false
  | .arr xs => standardList xs
  | .obj entries => standardEntries entries
  | _ => true

/-- Nothing in the values is a number without text. -/
def standardList : List Json → Bool
  | [] => true
  | x :: xs => standard x && standardList xs

/-- Nothing in the entries is a number without text. -/
def standardEntries : List (String × Json) → Bool
  | [] => true
  | (_, x) :: entries => standard x && standardEntries entries

end

/-! ## Readers -/

/-- The string, if the value is one. -/
def str? : Json → Option String
  | .str s => some s
  | _ => none

/-- The integer, if the value is one. -/
def int? : Json → Option ℤ
  | .int z => some z
  | _ => none

/-- A number, with or without a fraction. -/
def num? : Json → Option ℚ
  | .int z => some z
  | .float q => some q
  | _ => none

/-- The entry under the key; `absent` where there is none. -/
def field {α : Type} (read : Json → Option α) (absent : α) (key : String)
    (entries : List (String × Json)) : Option α :=
  match entries.lookup key with
  | none => some absent
  | some v => read v

/-- Each entry of an array. -/
def list? {α : Type} (read : Json → Option α) : Json → Option (List α)
  | .arr xs => xs.mapM read
  | _ => none

/-- What was written entry by entry is read entry by entry. -/
theorem list?_map {α : Type} {read : Json → Option α} {write : α → Json} {l : List α}
    (h : ∀ a ∈ l, read (write a) = some a) : list? read (.arr (l.map write)) = some l := by
  show (l.map write).mapM read = some l
  induction l with
  | nil => rfl
  | cons a l ih =>
      obtain ⟨ha, hl⟩ := List.forall_mem_cons.mp h
      simp [ha, ih hl]

end Json

end Lib
