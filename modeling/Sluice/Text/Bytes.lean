/-!
# Byte and character positions

Source positions count UTF-8 bytes, reported columns count characters. `byteLength` measures a
run of characters, `Boundary` names the positions between two of them, and `charOffset` converts
a boundary into the number of characters before it.
-/

namespace Sluice.Text

/-- The number of bytes that the characters take in UTF-8. -/
def byteLength : List Char → Nat
  | [] => 0
  | c :: cs => c.utf8Size + byteLength cs

/-- The number of characters before the boundary at byte `b`, if there is a boundary there. -/
def charsBefore? : List Char → Nat → Option Nat
  | _, 0 => some 0
  | [], _ + 1 => none
  | c :: cs, b + 1 =>
    if c.utf8Size ≤ b + 1 then (charsBefore? cs (b + 1 - c.utf8Size)).map (· + 1) else none

/-- The number of characters before byte `b`. A byte inside a character, or past the end, counts
as its own number. -/
def charOffset (s : String) (b : Nat) : Nat :=
  (charsBefore? s.toList b).getD b

/-- Byte `b` lies between two characters of `s`, or at one of its ends. -/
def Boundary (s : List Char) (b : Nat) : Prop :=
  ∃ before after, s = before ++ after ∧ byteLength before = b

/-- The characters between the bytes `start` and `stop`, when both are boundaries. -/
def slice? (s : List Char) (start stop : Nat) : Option (List Char) :=
  match charsBefore? s start, charsBefore? s stop with
  | some i, some j => if i ≤ j then some ((s.take j).drop i) else none
  | _, _ => none

/-! ## Lengths -/

@[simp] theorem byteLength_nil : byteLength [] = 0 := rfl

@[simp] theorem byteLength_cons (c : Char) (cs : List Char) :
    byteLength (c :: cs) = c.utf8Size + byteLength cs := rfl

@[simp] theorem byteLength_append (a b : List Char) :
    byteLength (a ++ b) = byteLength a + byteLength b := by
  induction a with
  | nil => simp
  | cons c cs ih => simp [ih, Nat.add_assoc]

theorem byteLength_pos {cs : List Char} (h : cs ≠ []) : 0 < byteLength cs := by
  obtain ⟨c, cs, rfl⟩ := List.exists_cons_of_ne_nil h
  exact Nat.lt_of_lt_of_le c.utf8Size_pos (Nat.le_add_right _ _)

theorem charsBefore?_append (a b : List Char) :
    charsBefore? (a ++ b) (byteLength a) = some a.length := by
  induction a with
  | nil => cases b <;> simp [charsBefore?]
  | cons c cs ih =>
    have hc : 0 < c.utf8Size := c.utf8Size_pos
    obtain ⟨n, hn⟩ : ∃ n, c.utf8Size + byteLength cs = n + 1 :=
      ⟨c.utf8Size + byteLength cs - 1, by omega⟩
    have hle : c.utf8Size ≤ n + 1 := by omega
    have hsub : n + 1 - c.utf8Size = byteLength cs := by omega
    simp [charsBefore?, hn, hle, hsub, ih]

end Sluice.Text
