import Mathlib.Data.List.TakeWhile
import Sluice.Proofs.Text.Pieces
import Sluice.Proofs.Token.Layout
import Sluice.Text.Search

/-!
# Slices by byte

A text may be cut only between characters: `slice?` has a result exactly for bytes that are such
places, in order and within the text (`slice?_isSome_iff`). Bytes at which searches find something,
and the bytes of characters in order, are such places.
-/

namespace Sluice.Text

variable {s before part after : List Char}

/-! ## Boundaries -/

theorem exists_charsBefore? {b : Nat} : (∃ n, charsBefore? s b = some n) ↔ Boundary s b := by
  constructor
  · rintro ⟨n, h⟩
    induction s generalizing b n with
    | nil =>
        cases b with
        | zero => exact ⟨[], [], rfl, rfl⟩
        | succ b => cases h
    | cons c cs ih =>
        cases b with
        | zero => exact ⟨[], c :: cs, rfl, rfl⟩
        | succ b =>
            rw [charsBefore?] at h
            split at h
            · next hle =>
              obtain ⟨m, hm, -⟩ := Option.map_eq_some_iff.1 h
              obtain ⟨before, after, rfl, hbefore⟩ := ih _ hm
              refine ⟨c :: before, after, rfl, ?_⟩
              rw [byteLength_cons, hbefore]
              omega
            · cases h
  · rintro ⟨before, after, rfl, rfl⟩
    exact ⟨_, charsBefore?_append before after⟩

theorem byteLength_le_of_isPrefix {a b : List Char} (h : a <+: b) : byteLength a ≤ byteLength b := by
  obtain ⟨rest, rfl⟩ := h
  rw [byteLength_append]
  exact Nat.le_add_right _ _

theorem byteLength_lt_of_isPrefix {a b : List Char} (h : a <+: b) (hlt : a.length < b.length) :
    byteLength a < byteLength b := by
  obtain ⟨rest, rfl⟩ := h
  have hne : rest ≠ [] := by
    rintro rfl
    simp at hlt
  rw [byteLength_append]
  exact Nat.lt_add_of_pos_right (byteLength_pos hne)

/-- Of two cuts through a text one front begins with the other. -/
theorem length_le_iff {a a' b b' : List Char} (h : a ++ a' = b ++ b') :
    a.length ≤ b.length ↔ byteLength a ≤ byteLength b := by
  constructor
  · intro hle
    exact byteLength_le_of_isPrefix (List.prefix_of_prefix_length_le ⟨a', h⟩ ⟨b', rfl⟩ hle)
  · intro hle
    refine Nat.le_of_not_lt fun hlt => ?_
    have hprefix := List.prefix_of_prefix_length_le ⟨b', h.symm⟩ ⟨a', rfl⟩ (Nat.le_of_lt hlt)
    exact absurd (byteLength_lt_of_isPrefix hprefix hlt) (Nat.not_lt.2 hle)

theorem slice?_isSome_iff {start stop : Nat} :
    (slice? s start stop).isSome = true ↔ Boundary s start ∧ Boundary s stop ∧ start ≤ stop := by
  constructor
  · intro h
    unfold slice? at h
    split at h
    · next i j hi hj =>
      obtain ⟨a, a', hs, rfl⟩ := exists_charsBefore?.1 ⟨i, hi⟩
      obtain ⟨b, b', hs', rfl⟩ := exists_charsBefore?.1 ⟨j, hj⟩
      refine ⟨⟨a, a', hs, rfl⟩, ⟨b, b', hs', rfl⟩, (length_le_iff (hs.symm.trans hs')).1 ?_⟩
      rw [hs, charsBefore?_append] at hi
      rw [hs', charsBefore?_append] at hj
      obtain rfl := Option.some.inj hi
      obtain rfl := Option.some.inj hj
      split at h
      · next hle => exact hle
      · cases h
    · cases h
  · rintro ⟨⟨a, a', rfl, rfl⟩, ⟨b, b', hs, rfl⟩, hle⟩
    unfold slice?
    rw [charsBefore?_append, hs, charsBefore?_append]
    dsimp only
    rw [if_pos ((length_le_iff hs).2 hle)]
    rfl

/-! ## Slices -/

/-- The text from byte `start` on. -/
def sliceFrom? (s : List Char) (start : Nat) : Option (List Char) :=
  slice? s start (byteLength s)

def sliceTo? (s : List Char) (stop : Nat) : Option (List Char) :=
  slice? s 0 stop

theorem slice?_between (hs : s = before ++ part ++ after) :
    slice? s (byteLength before) (byteLength before + byteLength part) = some part := by
  rw [hs, ← byteLength_append]
  exact slice?_append before part after

theorem sliceFrom?_append (hs : s = before ++ after) :
    sliceFrom? s (byteLength before) = some after := by
  have h := slice?_append before after []
  rwa [List.append_nil, ← hs] at h

theorem sliceTo?_append (hs : s = before ++ after) :
    sliceTo? s (byteLength before) = some before := by
  have h := slice?_append [] before after
  rwa [List.nil_append, ← hs] at h

/-! ## Searches -/

/-- The byte at which the first occurrence of `mark` begins. -/
def find? (mark s : List Char) : Option Nat :=
  (cut? mark s).map fun (before, _) => byteLength before

theorem find?_cons {mark : List Char} {c : Char} (h : mark.isPrefixOf (c :: s) = false) :
    find? mark (c :: s) = (find? mark s).map (c.utf8Size + ·) := by
  unfold find?
  rw [cut?, h, if_neg Bool.false_ne_true]
  cases cut? mark s <;> rfl

/-- The byte at which the first character of a sort begins. -/
def findChar? (sort : Char → Bool) (s : List Char) : Option Nat :=
  if s.any sort then some (byteLength (s.takeWhile fun c => !sort c)) else none

/-- Up to the first character of a sort, or to the end. -/
theorem findChar?_getD (sort : Char → Bool) (s : List Char) :
    (findChar? sort s).getD (byteLength s) = byteLength (s.takeWhile fun c => !sort c) := by
  unfold findChar?
  split
  · rfl
  · next h =>
    have hall : s.takeWhile (fun c => !sort c) = s := by
      rw [List.takeWhile_eq_self_iff]
      simpa using h
    rw [hall]
    rfl

/-! ## Characters with their bytes -/

/-- The characters of a text with the bytes at which they begin, the first one at `offset`. -/
def charIndices (offset : Nat) : List Char → List (Nat × Char)
  | [] => []
  | c :: cs => (offset, c) :: charIndices (offset + c.utf8Size) cs

/-- The byte of the character that comes next, or the end of the text. -/
def offsetOf (s : List Char) (left : List (Nat × Char)) : Nat :=
  (left.head?.map Prod.fst).getD (byteLength s)

theorem offsetOf_charIndices (hs : s = before ++ after) :
    offsetOf s (charIndices (byteLength before) after) = byteLength before := by
  cases after with
  | nil =>
      rw [hs, List.append_nil]
      rfl
  | cons c cs => rfl

@[simp] theorem map_snd_charIndices (offset : Nat) (s : List Char) :
    (charIndices offset s).map Prod.snd = s := by
  induction s generalizing offset with
  | nil => rfl
  | cons c cs ih => exact congrArg (c :: ·) (ih _)

@[simp] theorem length_charIndices (offset : Nat) (s : List Char) :
    (charIndices offset s).length = s.length := by
  rw [← List.length_map Prod.snd, map_snd_charIndices]

theorem drop_charIndices (offset : Nat) (a b : List Char) :
    (charIndices offset (a ++ b)).drop a.length = charIndices (offset + byteLength a) b := by
  induction a generalizing offset with
  | nil => rfl
  | cons c cs ih =>
      rw [byteLength_cons, ← Nat.add_assoc]
      exact ih _

/-- Going on until a byte between two characters is reached. -/
theorem dropWhile_charIndices (offset : Nat) (a b : List Char) :
    (charIndices offset (a ++ b)).dropWhile (fun p => p.1 < offset + byteLength a) =
      charIndices (offset + byteLength a) b := by
  induction a generalizing offset with
  | nil =>
      cases b with
      | nil => rfl
      | cons c cs => simp [charIndices]
  | cons c cs ih =>
      have hc := c.utf8Size_pos
      rw [byteLength_cons, ← Nat.add_assoc, ← ih]
      change List.dropWhile _ ((offset, c) :: charIndices _ (cs ++ b)) = _
      rw [List.dropWhile_cons, if_pos (by simp; omega)]

/-! ## Trimming -/

theorem trimLeft_append {a b : List Char} (h : ∀ c ∈ b.head?, isBlank c = false) :
    trimLeft (a ++ b) = trimLeft a ++ b := by
  induction a with
  | nil => exact trimLeft_eq_self h
  | cons c cs ih =>
      rw [List.cons_append]
      cases hc : isBlank c with
      | true => rw [trimLeft_blank hc, trimLeft_blank hc, ih]
      | false => rw [trimLeft_stop hc, trimLeft_stop hc, List.cons_append]

theorem trimRight_append {a b : List Char} (h : ∀ c ∈ a.getLast?, isBlank c = false) :
    trimRight (a ++ b) = a ++ trimRight b := by
  have hreverse : trimLeft (b.reverse ++ a.reverse) = trimLeft b.reverse ++ a.reverse := by
    apply trimLeft_append
    rwa [List.head?_reverse]
  rw [trimRight, List.reverse_append]
  change (trimLeft _).reverse = _
  rw [hreverse, List.reverse_append, List.reverse_reverse]
  rfl

theorem trimLeft_eq_nil_iff : trimLeft s = [] ↔ s.all isBlank = true := by
  rw [trimLeft, List.dropWhile_eq_nil_iff, List.all_eq_true]

theorem trimRight_eq_nil_iff : trimRight s = [] ↔ s.all isBlank = true := by
  rw [trimRight, List.reverse_eq_nil_iff]
  change trimLeft s.reverse = [] ↔ _
  rw [trimLeft_eq_nil_iff, List.all_reverse]

/-- The byte at which a text begins if the blanks at its front are left out. -/
def leadOf (s : List Char) : Nat :=
  byteLength s - byteLength (trimLeft s)

/-- The byte at which a text ends if the blanks at its end are left out. -/
def trailOf (s : List Char) : Nat :=
  byteLength (trimRight s)

theorem boundary_leadOf (s : List Char) : Boundary s (leadOf s) := by
  obtain ⟨blanks, hs, -, -⟩ := trimLeft_split s
  have hlength : byteLength s = byteLength blanks + byteLength (trimLeft s) := by
    rw [← byteLength_append, ← hs]
  refine ⟨blanks, trimLeft s, hs, ?_⟩
  unfold leadOf
  omega

theorem boundary_trailOf (s : List Char) : Boundary s (trailOf s) := by
  obtain ⟨blanks, hs⟩ := trimRight_prefix s
  exact ⟨trimRight s, blanks, hs.symm, rfl⟩

theorem byteLength_eq_zero_iff : byteLength s = 0 ↔ s = [] := by
  constructor
  · intro h
    refine Decidable.byContradiction fun hne => ?_
    exact absurd h (Nat.ne_of_gt (byteLength_pos hne))
  · rintro rfl
    rfl

/-- What stands in front of a character that is not blank is left out if it is blank. -/
theorem leadOf_append_eq_iff {a b : List Char} (h : ∀ c ∈ b.head?, isBlank c = false) :
    byteLength a = leadOf (a ++ b) ↔ a.all isBlank = true := by
  obtain ⟨blanks, ha, -, -⟩ := trimLeft_split a
  have hlength : byteLength a = byteLength blanks + byteLength (trimLeft a) := by
    rw [← byteLength_append, ← ha]
  rw [← trimLeft_eq_nil_iff, ← byteLength_eq_zero_iff, leadOf, trimLeft_append h,
    byteLength_append, byteLength_append]
  omega

/-- What stands behind a character that is not blank is left out if it is blank. -/
theorem trailOf_append_eq_iff {a b : List Char} (h : ∀ c ∈ a.getLast?, isBlank c = false) :
    byteLength a = trailOf (a ++ b) ↔ b.all isBlank = true := by
  rw [← trimRight_eq_nil_iff, ← byteLength_eq_zero_iff, trailOf, trimRight_append h,
    byteLength_append]
  omega

end Sluice.Text
