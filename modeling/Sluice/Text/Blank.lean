/-!
# Blanks and identifiers

`isBlank` is the Unicode property White_Space, the set of characters that separates words and
that trimming removes. `isIdentifier` is the form `[A-Za-z_][A-Za-z0-9_]*` shared by variable
names, connection aliases and saved sessions.
-/

namespace Sluice.Text

/-- The characters with the Unicode property White_Space. -/
def isBlank (c : Char) : Bool :=
  let n := c.toNat
  (9 ≤ n && n ≤ 13) || n == 0x20 || n == 0x85 || n == 0xa0 || n == 0x1680 ||
    (0x2000 ≤ n && n ≤ 0x200a) || n == 0x2028 || n == 0x2029 || n == 0x202f || n == 0x205f ||
    n == 0x3000

def isLetter (c : Char) : Bool :=
  ('a' ≤ c && c ≤ 'z') || ('A' ≤ c && c ≤ 'Z')

def isDigit (c : Char) : Bool :=
  '0' ≤ c && c ≤ '9'

def trimLeft (s : List Char) : List Char :=
  s.dropWhile isBlank

def trimRight (s : List Char) : List Char :=
  (s.reverse.dropWhile isBlank).reverse

def trimChars (s : List Char) : List Char :=
  trimRight (trimLeft s)

def trim (s : String) : String :=
  String.ofList (trimChars s.toList)

/-- A letter or `_`, then letters, digits and `_`. -/
def isIdentifierChars : List Char → Bool
  | [] => false
  | c :: cs => (isLetter c || c == '_') && cs.all fun d => isLetter d || isDigit d || d == '_'

/-- Whether the text is a name such as `pets` or `_tmp1`. -/
def isIdentifier (s : String) : Bool :=
  isIdentifierChars s.toList

/-! ## Trimming -/

@[simp] theorem trimLeft_nil : trimLeft [] = [] := rfl

theorem trimLeft_blank {c : Char} (h : isBlank c = true) (cs : List Char) :
    trimLeft (c :: cs) = trimLeft cs := by
  rw [trimLeft, List.dropWhile_cons, if_pos h]
  rfl

theorem trimLeft_stop {c : Char} (h : isBlank c = false) (cs : List Char) :
    trimLeft (c :: cs) = c :: cs := by
  rw [trimLeft, List.dropWhile_cons, h, if_neg Bool.false_ne_true]

/-- What is dropped is blank, and what is left begins with no blank. -/
theorem trimLeft_split (cs : List Char) :
    ∃ blanks, cs = blanks ++ trimLeft cs ∧ (∀ c ∈ blanks, isBlank c = true) ∧
      ∀ c ∈ (trimLeft cs).head?, isBlank c = false := by
  induction cs with
  | nil => exact ⟨[], rfl, nofun, nofun⟩
  | cons c cs ih =>
      cases h : isBlank c with
      | true =>
          obtain ⟨blanks, hsplit, hblanks, hhead⟩ := ih
          rw [trimLeft_blank h]
          exact ⟨c :: blanks, congrArg (c :: ·) hsplit, List.forall_mem_cons.2 ⟨h, hblanks⟩, hhead⟩
      | false =>
          rw [trimLeft_stop h]
          refine ⟨[], rfl, nofun, fun d hd => ?_⟩
          obtain rfl := Option.some.inj hd
          exact h

theorem trimRight_prefix (s : List Char) : trimRight s <+: s := by
  have h : s.reverse.dropWhile isBlank <:+ s.reverse := List.dropWhile_suffix isBlank
  simpa [trimRight] using List.reverse_prefix.2 h

/-- A first character that is no blank stays. -/
theorem exists_trimRight_cons {c : Char} (h : isBlank c = false) (cs : List Char) :
    ∃ rest, trimRight (c :: cs) = c :: rest := by
  rw [trimRight, List.reverse_cons, List.dropWhile_append]
  split
  · rw [List.dropWhile_cons, h]
    exact ⟨[], rfl⟩
  · rw [List.reverse_append]
    exact ⟨_, rfl⟩

end Sluice.Text
