import Sluice.Text.Blank
import Sluice.Text.Search

/-!
# Texts in pieces

What trimming, cutting, splitting and joining do to a text, said without how they go about it.

* `trimChars_eq_self_iff` : a text is its own trimmed form if it begins and ends with no blank;
* `cut?_eq_some_iff` : a text is cut at the first occurrence of a mark;
* `splitAll_joinChars` : pieces that are joined at a character which they do not hold are found
  again by splitting;
* `toList_replace` : pieces that are joined with another text have it in the stead of the character
  at which they were split.
-/

namespace Sluice.Text

/-! ## Trimming -/

theorem trimLeft_eq_self {s : List Char} (h : ∀ c ∈ s.head?, isBlank c = false) :
    trimLeft s = s := by
  cases s with
  | nil => rfl
  | cons c cs => exact trimLeft_stop (h c rfl) cs

theorem head?_trimLeft (s : List Char) : ∀ c ∈ (trimLeft s).head?, isBlank c = false := by
  obtain ⟨_, _, _, hhead⟩ := trimLeft_split s
  exact hhead

theorem getLast?_trimRight (s : List Char) : ∀ c ∈ (trimRight s).getLast?, isBlank c = false := by
  intro c hc
  rw [trimRight, List.getLast?_reverse] at hc
  exact head?_trimLeft s.reverse c hc

theorem trimRight_eq_self {s : List Char} (h : ∀ c ∈ s.getLast?, isBlank c = false) :
    trimRight s = s := by
  have hreverse : trimLeft s.reverse = s.reverse := by
    apply trimLeft_eq_self
    intro c hc
    rw [List.head?_reverse] at hc
    exact h c hc
  have h := congrArg List.reverse hreverse
  rwa [List.reverse_reverse] at h

/-- Trimming the end keeps the first character, unless all is blank. -/
theorem head?_trimRight {s : List Char} (h : ∀ c ∈ s.head?, isBlank c = false) :
    (trimRight s).head? = s.head? := by
  cases s with
  | nil => rfl
  | cons c cs =>
      obtain ⟨rest, hrest⟩ := exists_trimRight_cons (h c rfl) cs
      rw [hrest]
      rfl

theorem head?_trimChars (s : List Char) : ∀ c ∈ (trimChars s).head?, isBlank c = false := by
  rw [trimChars, head?_trimRight (head?_trimLeft s)]
  exact head?_trimLeft s

theorem getLast?_trimChars (s : List Char) : ∀ c ∈ (trimChars s).getLast?, isBlank c = false :=
  getLast?_trimRight (trimLeft s)

/-- A text is its own trimmed form exactly if it begins and ends with no blank. -/
theorem trimChars_eq_self_iff {s : List Char} :
    trimChars s = s ↔
      (∀ c ∈ s.head?, isBlank c = false) ∧ ∀ c ∈ s.getLast?, isBlank c = false := by
  constructor
  · intro h
    rw [← h]
    exact ⟨head?_trimChars s, getLast?_trimChars s⟩
  · rintro ⟨hhead, hlast⟩
    rw [trimChars, trimLeft_eq_self hhead, trimRight_eq_self hlast]

/-! ## Cutting -/

theorem cut?_eq_none_iff {mark s : List Char} : cut? mark s = none ↔ ¬ mark <:+: s := by
  induction s with
  | nil =>
      unfold cut?
      simp [List.infix_nil]
  | cons c cs ih =>
      unfold cut?
      rw [List.infix_cons_iff, ← List.isPrefixOf_iff_prefix]
      split
      · next h => simp [h]
      · next h => simp [h, ih]

theorem cut?_eq_some_iff {mark : List Char} (hmark : mark ≠ []) {s before after : List Char} :
    cut? mark s = some (before, after) ↔
      s = before ++ mark ++ after ∧ ¬ mark <:+: before ++ mark.dropLast := by
  have hlength : 0 < mark.length := List.length_pos_iff.2 hmark
  induction before generalizing s with
  | nil =>
      constructor
      · intro h
        refine ⟨cut?_eq_append h, fun hwithin => ?_⟩
        have hle := hwithin.length_le
        rw [List.nil_append, List.length_dropLast] at hle
        omega
      · rintro ⟨rfl, -⟩
        obtain ⟨c, mark, rfl⟩ := List.exists_cons_of_ne_nil hmark
        simp [cut?]
  | cons b before ih =>
      -- behind `b` what is left of the text is looked through in the same way
      have hstart : b :: (before ++ mark.dropLast) <+: b :: (before ++ mark ++ after) := by
        rw [List.append_assoc]
        refine (List.prefix_cons_inj b).2 ((List.prefix_append_right_inj before).2 ?_)
        exact (List.dropLast_prefix mark).trans (List.prefix_append mark after)
      simp only [List.cons_append, List.infix_cons_iff, not_or]
      constructor
      · intro h
        cases s with
        | nil => simp [cut?, hmark] at h
        | cons c cs =>
            unfold cut? at h
            split at h
            · cases h
            · next hprefix =>
              obtain ⟨cut, hcs, heq⟩ := Option.map_eq_some_iff.1 h
              cases heq
              obtain ⟨rfl, hbefore⟩ := ih.1 hcs
              refine ⟨rfl, fun hmark => hprefix ?_, hbefore⟩
              exact List.isPrefixOf_iff_prefix.2 (hmark.trans hstart)
      · rintro ⟨rfl, hfirst, hbefore⟩
        have hprefix : mark.isPrefixOf (b :: (before ++ mark ++ after)) = false := by
          refine Bool.eq_false_iff.2 fun h => hfirst ?_
          refine List.prefix_of_prefix_length_le (List.isPrefixOf_iff_prefix.1 h) hstart ?_
          simp
          omega
        rw [cut?, hprefix, ih.2 ⟨rfl, hbefore⟩]
        rfl

theorem stripTail?_eq_some_iff {tail s before : List Char} :
    stripTail? tail s = some before ↔ s = before ++ tail := by
  unfold stripTail? stripLead?
  constructor
  · intro h
    obtain ⟨rest, hrest, rfl⟩ := Option.map_eq_some_iff.1 h
    split at hrest
    · next hprefix =>
      obtain ⟨t, ht⟩ := List.isPrefixOf_iff_prefix.1 hprefix
      rw [← ht, List.drop_left] at hrest
      cases hrest
      have hs := congrArg List.reverse ht
      simpa using hs.symm
    · cases hrest
  · rintro rfl
    rw [List.reverse_append, if_pos (List.isPrefixOf_iff_prefix.2 (List.prefix_append _ _)),
      List.drop_left]
    simp

/-! ## Splitting and joining -/

theorem splitAll_eq_splitOn (sep : Char) (cs : List Char) : splitAll sep cs = cs.splitOn sep := by
  induction cs with
  | nil => rfl
  | cons c cs ih =>
      obtain ⟨piece, pieces, hpieces⟩ := List.exists_cons_of_ne_nil (List.splitOn_ne_nil sep cs)
      rw [splitAll, ih, List.splitOn_cons_eq_if_modifyHead, hpieces]
      rfl

theorem joinChars_eq_intercalate (glue : List Char) (pieces : List (List Char)) :
    joinChars glue pieces = glue.intercalate pieces := by
  fun_induction joinChars glue pieces with
  | case1 => rfl
  | case2 piece => rw [List.intercalate_singleton]
  | case3 piece pieces hne ih => rw [ih, List.intercalate_cons_of_ne_nil hne]

/-- Pieces without the character at which they are joined are found again. -/
theorem splitAll_joinChars {sep : Char} {pieces : List (List Char)} (hne : pieces ≠ [])
    (h : ∀ piece ∈ pieces, sep ∉ piece) : splitAll sep (joinChars [sep] pieces) = pieces := by
  rw [splitAll_eq_splitOn, joinChars_eq_intercalate]
  exact List.splitOn_intercalate sep h hne

/-- What is joined is made of the pieces and of what stands between them. -/
theorem mem_intercalate {glue : List Char} {pieces : List (List Char)} {c : Char}
    (h : c ∈ glue.intercalate pieces) : c ∈ glue ∨ ∃ piece ∈ pieces, c ∈ piece := by
  induction pieces with
  | nil => cases h
  | cons piece pieces ih =>
      by_cases hne : pieces = []
      · rw [hne, List.intercalate_singleton] at h
        exact .inr ⟨piece, List.mem_cons_self, h⟩
      · rw [List.intercalate_cons_of_ne_nil hne, List.append_assoc] at h
        rcases List.mem_append.1 h with h | h
        · exact .inr ⟨piece, List.mem_cons_self, h⟩
        · rcases List.mem_append.1 h with h | h
          · exact .inl h
          · exact (ih h).imp id fun ⟨other, hother, hc⟩ => ⟨other, List.mem_cons_of_mem _ hother, hc⟩

/-! ## Replacing -/

/-- A text with another in the stead of every occurrence of a character. -/
def replace (c : Char) (other s : String) : String :=
  other.intercalate (split c s)

theorem intercalate_splitAll (glue : List Char) (sep : Char) (cs : List Char) :
    glue.intercalate (splitAll sep cs) = cs.flatMap fun c => if c = sep then glue else [c] := by
  induction cs with
  | nil => rfl
  | cons c cs ih =>
      obtain ⟨piece, pieces, hpieces⟩ : ∃ piece pieces, splitAll sep cs = piece :: pieces := by
        rw [splitAll_eq_splitOn]
        exact List.exists_cons_of_ne_nil (List.splitOn_ne_nil sep cs)
      rw [List.flatMap_cons, ← ih, splitAll, hpieces]
      by_cases hc : c = sep
      · simp [hc]
      · cases pieces <;> simp [hc]

theorem toList_replace (c : Char) (other s : String) :
    (replace c other s).toList = s.toList.flatMap fun d => if d = c then other.toList else [d] := by
  have hpieces : (split c s).map String.toList = splitAll c s.toList := by
    simp [split]
  rw [replace, String.toList_intercalate, hpieces, intercalate_splitAll]

end Sluice.Text
