/-!
# Finding and cutting text

Substring search on characters, in the forms the rest of the library needs: cutting at the first
occurrence of a mark, splitting at a character, and joining again.
-/

namespace Sluice.Text

/-- Cuts at the first occurrence of `mark`: what stands before it and what stands after it. -/
def cut? (mark : List Char) : List Char → Option (List Char × List Char)
  | [] => if mark.isEmpty then some ([], []) else none
  | c :: cs =>
    if mark.isPrefixOf (c :: cs) then some ([], (c :: cs).drop mark.length)
    else (cut? mark cs).map fun (before, after) => (c :: before, after)

/-- The pieces between the occurrences of `sep`; one more piece than occurrences. -/
def splitAll (sep : Char) : List Char → List (List Char)
  | [] => [[]]
  | c :: cs =>
    match splitAll sep cs with
    | [] => [[c]]
    | piece :: pieces =>
      if c == sep then [] :: piece :: pieces else (c :: piece) :: pieces

/-- The pieces of a text between the occurrences of a character. -/
def split (sep : Char) (s : String) : List String :=
  (splitAll sep s.toList).map String.ofList

def joinChars (glue : List Char) : List (List Char) → List Char
  | [] => []
  | [piece] => piece
  | piece :: pieces => piece ++ glue ++ joinChars glue pieces

/-- The text split in two at the first `sep`, which is dropped. -/
def splitOnce? (sep : Char) (s : String) : Option (String × String) :=
  (cut? [sep] s.toList).map fun (before, after) => (String.ofList before, String.ofList after)

def stripLead? (lead : List Char) (s : List Char) : Option (List Char) :=
  if lead.isPrefixOf s then some (s.drop lead.length) else none

def stripTail? (tail : List Char) (s : List Char) : Option (List Char) :=
  (stripLead? tail.reverse s.reverse).map List.reverse

/-! ## Cutting -/

theorem cut?_eq_append {mark s before after : List Char} (h : cut? mark s = some (before, after)) :
    s = before ++ mark ++ after := by
  induction s generalizing before with
  | nil =>
    unfold cut? at h
    split at h
    · next hm => simp_all
    · simp at h
  | cons c cs ih =>
    unfold cut? at h
    split at h
    · next hp =>
      obtain ⟨rfl, rfl⟩ : [] = before ∧ (c :: cs).drop mark.length = after := by simpa using h
      obtain ⟨t, ht⟩ := List.isPrefixOf_iff_prefix.1 hp
      simp [← ht]
    · obtain ⟨⟨b, a⟩, hb, he⟩ := Option.map_eq_some_iff.1 h
      obtain ⟨rfl, rfl⟩ : c :: b = before ∧ a = after := by simpa using he
      simp [ih hb]

theorem cut?_after_length_le {mark s before after : List Char}
    (h : cut? mark s = some (before, after)) : after.length + mark.length ≤ s.length := by
  rw [cut?_eq_append h]
  simp
  omega

/-- The cut is at the first occurrence of a character. -/
theorem cut?_append {sep : Char} {before : List Char} (h : sep ∉ before) (after : List Char) :
    cut? [sep] (before ++ sep :: after) = some (before, after) := by
  induction before with
  | nil => simp [cut?]
  | cons c cs ih =>
    rw [List.mem_cons, not_or] at h
    rw [List.cons_append, cut?, ih h.2]
    simp [h.1]

end Sluice.Text
