import Mathlib.Data.List.Basic
import Mathlib.Data.List.Infix
import Mathlib.Algebra.Order.Group.Nat

/-!
# `Lib.Sql` — truth values, `LIKE` and `jsonb` text

The parts of SQL that decide a `WHERE`: the three truth values, of which `none` is NULL, and `LIKE`
with its wildcards and its escape character. Texts are lists of characters. A `jsonb` value is a tree;
`chars` is its cast to text, and `get` is the operator `->>` with a key on its right.

Nothing below names a particular schema.
-/

namespace Lib.Sql

/-! ## Truth values -/

/-- `AND`: false wins over NULL. -/
def and3 : Option Bool → Option Bool → Option Bool
  | some true, b => b
  | some false, _ => some false
  | none, some false => some false
  | none, _ => none

/-- `OR`: true wins over NULL. -/
def or3 : Option Bool → Option Bool → Option Bool
  | some false, b => b
  | some true, _ => some true
  | none, some true => some true
  | none, _ => none

theorem and3_eq_true {a b : Option Bool} :
    and3 a b = some true ↔ a = some true ∧ b = some true := by
  rcases a with - | - | - <;> rcases b with - | - | - <;> simp [and3]

theorem or3_eq_true {a b : Option Bool} :
    or3 a b = some true ↔ a = some true ∨ b = some true := by
  rcases a with - | - | - <;> rcases b with - | - | - <;> simp [or3]

/-! ## `LIKE` -/

/-- `s LIKE pattern`, the arguments in the other order. A backslash takes the next character as it
is. -/
def like : List Char → List Char → Bool
  | [], s => s.isEmpty
  | '%' :: p, s => s.tails.any (like p)
  | '_' :: p, s => !s.isEmpty && like p s.tail
  | '\\' :: c :: p, s => s.head? == some c && like p s.tail
  | c :: p, s => s.head? == some c && like p s.tail

/-! ## `jsonb` -/

/-- A `jsonb` value. A number is a `numeric`: its digits, and how many of them are decimals. -/
inductive Jsonb where
  | null
  | bool (b : Bool)
  | number (unscaled : ℤ) (scale : ℕ)
  | string (s : String)
  | array (items : List Jsonb)
  | object (members : List (String × Jsonb))
  deriving Repr

/-- The text of a `numeric`. -/
def numericChars (unscaled : ℤ) (scale : ℕ) : List Char :=
  let digits := List.leftpad (scale + 1) '0' (Nat.toDigits 10 unscaled.natAbs)
  let whole := digits.take (digits.length - scale)
  (if unscaled < 0 then ['-'] else []) ++ whole ++
    if scale = 0 then [] else '.' :: digits.drop (digits.length - scale)

/-- A character inside a quoted string. -/
def escape (c : Char) : List Char :=
  if c = '"' then ['\\', '"']
  else if c = '\\' then ['\\', '\\']
  else if c = '\n' then ['\\', 'n']
  else if c = '\r' then ['\\', 'r']
  else if c = '\t' then ['\\', 't']
  else if c = '\x08' then ['\\', 'b']
  else if c = '\x0c' then ['\\', 'f']
  else if c.toNat < 32 then ['\\', 'u'] ++ List.leftpad 4 '0' (Nat.toDigits 16 c.toNat)
  else [c]

/-- The string between quotes. -/
def quote (s : String) : List Char := '"' :: (s.toList.flatMap escape ++ ['"'])

namespace Jsonb

mutual

/-- The cast to text. -/
def chars : Jsonb → List Char
  | .null => "null".toList
  | .bool b => if b then "true".toList else "false".toList
  | .number unscaled scale => numericChars unscaled scale
  | .string s => quote s
  | .array items => '[' :: (itemsChars items ++ [']'])
  | .object members => '{' :: (membersChars members ++ ['}'])

/-- The items of an array, with commas between them. -/
def itemsChars : List Jsonb → List Char
  | [] => []
  | x :: xs => x.chars ++ if xs.isEmpty then [] else ',' :: ' ' :: itemsChars xs

/-- The members of an object, with commas between them. -/
def membersChars : List (String × Jsonb) → List Char
  | [] => []
  | (k, x) :: ms =>
    quote k ++ ':' :: ' ' :: x.chars ++ if ms.isEmpty then [] else ',' :: ' ' :: membersChars ms

end

/-- `j ->> key`: NULL where there is no such key, and where its value is null. -/
def get (j : Jsonb) (key : String) : Option String :=
  match j with
  | .object members =>
    (members.find? fun m => m.1 == key).bind fun m =>
      match m.2 with
      | .null => none
      | .string s => some s
      | x => some (String.ofList x.chars)
  | _ => none

/-! ### Which values have the texts `null` and `[]` -/

theorem numericChars_head (n : ℤ) (k : ℕ) :
    ∃ c l, numericChars n k = c :: l ∧ (c = '-' ∨ c.isDigit = true) := by
  unfold numericChars
  by_cases hn : n < 0
  · rw [if_pos hn]
    exact ⟨'-', _, rfl, .inl rfl⟩
  · rw [if_neg hn]
    set digits := List.leftpad (k + 1) '0' (Nat.toDigits 10 n.natAbs) with hd
    have hlen : k + 1 ≤ digits.length := by
      rw [hd, List.length_leftpad]
      exact Nat.le_max_left _ _
    have hdigit : ∀ c ∈ digits, c.isDigit = true := by
      intro c hc
      rw [hd, List.leftpad, List.mem_append] at hc
      rcases hc with hc | hc
      · rw [List.eq_of_mem_replicate hc]
        rfl
      · exact Nat.isDigit_of_mem_toDigits (by decide) (by decide) hc
    cases hdig : digits with
    | nil =>
        rw [hdig] at hlen
        exact absurd hlen (by simp)
    | cons c l =>
        have hpos : (c :: l).length - k = (l.length - k) + 1 := by
          rw [hdig, List.length_cons] at hlen
          rw [List.length_cons]
          omega
        have hc : c.isDigit = true := hdigit c (by rw [hdig]; exact List.mem_cons_self)
        refine ⟨c, l.take (l.length - k) ++
          if k = 0 then [] else '.' :: (c :: l).drop (l.length - k + 1), ?_, .inr hc⟩
        dsimp only
        rw [hpos, List.take_succ_cons]
        rfl

theorem chars_ne_nil (j : Jsonb) : j.chars ≠ [] := by
  cases j with
  | null => exact List.cons_ne_nil _ _
  | bool b => cases b <;> exact List.cons_ne_nil _ _
  | number n k =>
      obtain ⟨c, l, h, -⟩ := numericChars_head n k
      rw [chars, h]
      exact List.cons_ne_nil c l
  | string s => exact List.cons_ne_nil _ _
  | array items => exact List.cons_ne_nil _ _
  | object members => exact List.cons_ne_nil _ _

theorem chars_eq_null {j : Jsonb} : j.chars = "null".toList ↔ j = .null := by
  constructor
  · intro h
    cases j with
    | null => rfl
    | bool b => cases b <;> exact absurd h (by decide)
    | number n k =>
        obtain ⟨c, l, hc, hd⟩ := numericChars_head n k
        rw [chars, hc] at h
        obtain rfl : c = 'n' := (List.cons.inj h).1
        exact absurd hd (by decide)
    | string s => exact absurd (List.cons.inj h).1 (by decide)
    | array items => exact absurd (List.cons.inj h).1 (by decide)
    | object members => exact absurd (List.cons.inj h).1 (by decide)
  · rintro rfl
    rfl

theorem chars_eq_brackets {j : Jsonb} : j.chars = "[]".toList ↔ j = .array [] := by
  constructor
  · intro h
    cases j with
    | null => exact absurd h (by decide)
    | bool b => cases b <;> exact absurd h (by decide)
    | number n k =>
        obtain ⟨c, l, hc, hd⟩ := numericChars_head n k
        rw [chars, hc] at h
        obtain rfl : c = '[' := (List.cons.inj h).1
        exact absurd hd (by decide)
    | string s => exact absurd (List.cons.inj h).1 (by decide)
    | array items =>
        cases items with
        | nil => rfl
        | cons x xs =>
            -- the text of an item is not empty, so something stands between the brackets
            have hnil : itemsChars (x :: xs) = [] := List.append_left_eq_self.mp (List.cons.inj h).2
            rw [itemsChars, List.append_eq_nil_iff] at hnil
            exact absurd hnil.1 x.chars_ne_nil
    | object members => exact absurd (List.cons.inj h).1 (by decide)
  · rintro rfl
    rfl

end Jsonb
end Lib.Sql
