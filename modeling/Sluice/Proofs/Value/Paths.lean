import Sluice.Path
import Sluice.Proofs.Results
import Sluice.Proofs.Text.Pieces
import Sluice.Proofs.Token.Words

/-!
# How paths are written

A text can be read as a path exactly if, blanks around it put aside, it is an identifier with steps
behind it: a point and a name, or brackets with an index between them (`Path.read_eq_ok_iff`). An
index may be written with blanks around it, with a plus and with leading zeros, so that one path has
many texts. The text that `Path.display` writes is one of them, and the only one among those that are
written for paths (`Path.display_canonical`).

* `Path.SpellsIndex`, `Path.SpellsSteps`, `Path.Spells` : the texts of a path;
* `Path.SpellsSteps.display` : the steps of a path that has been read are spelled as displayed;
* `Path.SpellsSteps.getLast?_display` : the last character stays, and with it that it is no blank.
-/

namespace Sluice.Path

/-! ## Spellings -/

/-- The texts of an index: decimal digits of a number of at most 64 bits, perhaps behind a plus, with
blanks around them. -/
structure SpellsIndex (inside : List Char) (n : Nat) : Prop where
  digits : ∃ ds, ds ≠ [] ∧ (∀ c ∈ ds, Text.isDigit c = true) ∧ Nat.ofDigitChars 10 ds 0 = n ∧
    (Text.trimChars inside = ds ∨ Text.trimChars inside = '+' :: ds)
  fits : n < 0x10000000000000000

/-- The texts of steps: a field is a point and a name in which no further step begins, an index
stands between a bracket and the first that closes. -/
inductive SpellsSteps : List Char → List Step → Prop where
  | nil : SpellsSteps [] []
  | field {name rest : List Char} {steps : List Step} (hne : name ≠ [])
      (hname : ∀ c ∈ name, c ≠ '.' ∧ c ≠ '[') (hrest : SpellsSteps rest steps) :
      SpellsSteps ('.' :: (name ++ rest)) (.field (String.ofList name) :: steps)
  | index {inside rest : List Char} {n : Nat} {steps : List Step} (hclose : ']' ∉ inside)
      (hindex : SpellsIndex inside n) (hrest : SpellsSteps rest steps) :
      SpellsSteps ('[' :: (inside ++ ']' :: rest)) (.index n :: steps)

/-- The texts of a path: an identifier and steps. -/
structure Spells (text : List Char) (p : Path) : Prop where
  root : Text.isIdentifier p.root = true
  steps : ∃ rest, text = p.root.toList ++ rest ∧ SpellsSteps rest p.steps

/-! ## Names -/

theorem endsName_eq_false_iff {c : Char} : endsName c = false ↔ c ≠ '.' ∧ c ≠ '[' := by
  rw [endsName, Bool.or_eq_false_iff, beq_eq_false_iff_ne, beq_eq_false_iff_ne]

/-- A name goes on to the character that begins a step. -/
theorem takeName_append {name rest : List Char} (hname : ∀ c ∈ name, endsName c = false)
    (hrest : ∀ c ∈ rest.head?, endsName c = true) : takeName (name ++ rest) = (name, rest) := by
  have hkeep : ∀ c ∈ name, (!endsName c) = true := by
    intro c hc
    rw [hname c hc]
    rfl
  have hstop : rest.takeWhile (fun c => !endsName c) = [] ∧
      rest.dropWhile (fun c => !endsName c) = rest := by
    cases rest with
    | nil => exact ⟨rfl, rfl⟩
    | cons c cs => simp [hrest c rfl]
  unfold takeName
  rw [List.takeWhile_append_of_pos hkeep, List.dropWhile_append_of_pos hkeep, hstop.1, hstop.2,
    List.append_nil]

theorem takeName_fst_append_snd (cs : List Char) : (takeName cs).1 ++ (takeName cs).2 = cs :=
  List.takeWhile_append_dropWhile

theorem endsName_of_mem_takeName {cs : List Char} {c : Char} (h : c ∈ (takeName cs).1) :
    endsName c = false := by
  have hkeep : (!endsName c) = true := List.all_eq_true.1 List.all_takeWhile c h
  simpa using hkeep

theorem SpellsSteps.endsName_head {cs : List Char} {steps : List Step} (h : SpellsSteps cs steps) :
    ∀ c ∈ cs.head?, endsName c = true := by
  intro c hc
  cases h with
  | nil => cases hc
  | field => cases hc; rfl
  | index => cases hc; rfl

/-! ## Indices -/

theorem foldl_digits_eq (ds : List Char) (n : Nat) :
    ds.foldl (fun n c => n * 10 + (c.toNat - 48)) n = Nat.ofDigitChars 10 ds n := by
  induction ds generalizing n with
  | nil => rfl
  | cons d ds ih =>
      rw [List.foldl_cons, ih, Nat.ofDigitChars_cons, Nat.mul_comm n 10]
      rfl

/-- A text without the plus that may stand in front. -/
def behindPlus : List Char → List Char
  | '+' :: ds => ds
  | ds => ds

theorem eq_behindPlus (cs : List Char) : cs = behindPlus cs ∨ cs = '+' :: behindPlus cs := by
  unfold behindPlus
  split
  · exact .inr rfl
  · exact .inl rfl

theorem behindPlus_of_digits {ds : List Char} (h : ∀ c ∈ ds, Text.isDigit c = true) :
    behindPlus ds = ds := by
  unfold behindPlus
  split
  · exact absurd (h '+' List.mem_cons_self) (by decide)
  · rfl

theorem readIndex?_eq (cs : List Char) :
    readIndex? cs =
      if (behindPlus (Text.trimChars cs)).isEmpty ||
          !(behindPlus (Text.trimChars cs)).all Text.isDigit then none
      else if Nat.ofDigitChars 10 (behindPlus (Text.trimChars cs)) 0 < 0x10000000000000000 then
        some (Nat.ofDigitChars 10 (behindPlus (Text.trimChars cs)) 0)
      else none := by
  rw [← foldl_digits_eq]
  rfl

theorem readIndex?_eq_some_iff {cs : List Char} {n : Nat} :
    readIndex? cs = some n ↔ SpellsIndex cs n := by
  rw [readIndex?_eq]
  constructor
  · intro h
    split at h
    · cases h
    · next hdigits =>
      split at h
      · next hfits =>
        cases h
        have hdigits : behindPlus (Text.trimChars cs) ≠ [] ∧
            ∀ c ∈ behindPlus (Text.trimChars cs), Text.isDigit c = true := by
          simpa using hdigits
        exact ⟨⟨_, hdigits.1, hdigits.2, rfl, eq_behindPlus _⟩, hfits⟩
      · cases h
  · rintro ⟨⟨ds, hne, hds, rfl, htrim⟩, hfits⟩
    have hbehind : behindPlus (Text.trimChars cs) = ds := by
      rcases htrim with htrim | htrim
      · rw [htrim, behindPlus_of_digits hds]
      · rw [htrim]
        rfl
    have hdigits : (ds.isEmpty || !ds.all Text.isDigit) = false := by
      rw [List.all_eq_true.2 hds, List.isEmpty_eq_false_iff.2 hne]
      rfl
    rw [hbehind, hdigits, if_neg Bool.false_ne_true, if_pos hfits]

/-- The shortest text of an index is one of its texts. -/
theorem spellsIndex_toDigits {n : Nat} (h : n < 0x10000000000000000) :
    SpellsIndex (Nat.toDigits 10 n) n := by
  have hdigits : ∀ c ∈ Nat.toDigits 10 n, Text.isDigit c = true := by
    intro c hc
    have hdigit : c.isDigit = true := Nat.isDigit_of_mem_toDigits (by decide) (by decide) hc
    simpa [Char.isDigit, Text.isDigit, Char.le_def] using hdigit
  have hblank : ∀ c ∈ Nat.toDigits 10 n, Text.isBlank c = false := by
    intro c hc
    apply Token.not_isBlank_of_isNameChar
    rw [Token.isNameChar, hdigits c hc, Bool.or_true, Bool.true_or]
  have htrim : Text.trimChars (Nat.toDigits 10 n) = Nat.toDigits 10 n := by
    refine Text.trimChars_eq_self_iff.2 ⟨?_, ?_⟩
    · intro c hc
      exact hblank c (List.mem_of_head? hc)
    · intro c hc
      exact hblank c (List.mem_of_getLast? hc)
  exact ⟨⟨_, Nat.toDigits_ne_nil, hdigits, Nat.ofDigitChars_ten_toDigits, .inl htrim⟩, h⟩

/-! ## Steps -/

theorem readSteps_sound {cs : List Char} {steps : List Step} (h : readSteps cs = .ok steps) :
    SpellsSteps cs steps := by
  fun_induction readSteps cs generalizing steps with
  | case1 =>
      cases h
      exact .nil
  | case2 => cases h
  | case3 after _ hne ih =>
      obtain ⟨steps, hrest, rfl⟩ := map_eq_ok h
      have hname : ∀ c ∈ (takeName after).1, c ≠ '.' ∧ c ≠ '[' := by
        intro c hc
        exact endsName_eq_false_iff.1 (endsName_of_mem_takeName hc)
      have hfield := SpellsSteps.field (by simpa using hne) hname (ih hrest)
      rwa [takeName_fst_append_snd] at hfield
  | case4 => cases h
  | case5 => cases h
  | case6 after inside rest hcut _ n hn ih =>
      obtain ⟨steps, hrest, rfl⟩ := map_eq_ok h
      obtain ⟨rfl, hfirst⟩ := (Text.cut?_eq_some_iff (by decide)).1 hcut
      have hclose : ']' ∉ inside := by
        intro hmem
        obtain ⟨before, after, rfl⟩ := List.append_of_mem hmem
        exact hfirst ⟨before, after, by simp⟩
      have hindex := SpellsSteps.index hclose (readIndex?_eq_some_iff.1 hn) (ih hrest)
      simpa using hindex
  | case7 => cases h

theorem SpellsSteps.readSteps_eq {cs : List Char} {steps : List Step} (h : SpellsSteps cs steps) :
    readSteps cs = .ok steps := by
  induction h with
  | nil => rw [readSteps]
  | @field name rest steps hne hname hrest ih =>
      have htake : takeName (name ++ rest) = (name, rest) :=
        takeName_append (fun c hc => endsName_eq_false_iff.2 (hname c hc)) hrest.endsName_head
      have hempty : name.isEmpty = false := List.isEmpty_eq_false_iff.2 hne
      rw [readSteps, htake]
      dsimp only
      rw [hempty, ih]
      rfl
  | @index inside rest n steps hclose hindex hrest ih =>
      have hcut : Text.cut? [']'] (inside ++ ']' :: rest) = some (inside, rest) :=
        Text.cut?_append hclose rest
      rw [readSteps]
      split
      · next hnone =>
        rw [hcut] at hnone
        cases hnone
      · next hsome =>
        rw [hcut] at hsome
        cases hsome
        rw [readIndex?_eq_some_iff.2 hindex, ih]
        rfl

theorem readSteps_eq_ok_iff {cs : List Char} {steps : List Step} :
    readSteps cs = .ok steps ↔ SpellsSteps cs steps :=
  ⟨readSteps_sound, SpellsSteps.readSteps_eq⟩

/-! ## Paths -/

/-- A text is read as a path exactly if, blanks around it put aside, it is one of the path's texts. -/
theorem read_eq_ok_iff {text : String} {p : Path} :
    read text = .ok p ↔ Spells (Text.trimChars text.toList) p := by
  unfold read
  constructor
  · intro h
    dsimp only at h
    split at h
    · cases h
    · next hroot =>
      obtain ⟨steps, hsteps, rfl⟩ := map_eq_ok h
      have hroot : Text.isIdentifierChars (takeName (Text.trimChars text.toList)).1 = true := by
        simpa using hroot
      refine ⟨?_, (takeName (Text.trimChars text.toList)).2, ?_, readSteps_eq_ok_iff.1 hsteps⟩
      · rwa [Text.isIdentifier, String.toList_ofList]
      · rw [String.toList_ofList, takeName_fst_append_snd]
  · rintro ⟨hroot, rest, htext, hsteps⟩
    have hname : ∀ c ∈ p.root.toList, endsName c = false := by
      intro c hc
      have hnameChar := Token.isNameChar_of_isIdentifierChars hroot c hc
      exact endsName_eq_false_iff.2
        ⟨Token.ne_of_isNameChar hnameChar rfl, Token.ne_of_isNameChar hnameChar rfl⟩
    have htake := takeName_append hname hsteps.endsName_head
    have hroot : Text.isIdentifierChars p.root.toList = true := hroot
    rw [htext, htake]
    dsimp only
    rw [hroot, readSteps_eq_ok_iff.2 hsteps, String.ofList_toList]
    rfl

/-! ## Display -/

def stepsChars (steps : List Step) : List Char :=
  steps.flatMap fun step => step.display.toList

theorem toList_display_field (name : String) :
    (Step.field name).display.toList = '.' :: name.toList := by
  rw [Step.display, String.toList_append]
  rfl

theorem toList_display_index (n : Nat) :
    (Step.index n).display.toList = '[' :: (Nat.toDigits 10 n ++ [']']) := by
  rw [Step.display, String.toList_append, String.toList_append, Nat.toString_eq_ofList_toDigits,
    String.toList_ofList]
  rfl

theorem toList_display (p : Path) : p.display.toList = p.root.toList ++ stepsChars p.steps := by
  suffices hrun : ∀ (steps : List Step) (text : String),
      (steps.foldl (fun text step => text ++ step.display) text).toList =
        text.toList ++ stepsChars steps from hrun p.steps p.root
  intro steps
  induction steps with
  | nil => simp [stepsChars]
  | cons step steps ih =>
      intro text
      rw [List.foldl_cons, ih, String.toList_append, List.append_assoc]
      rfl

theorem stepsChars_field (name : List Char) (steps : List Step) :
    stepsChars (.field (String.ofList name) :: steps) = '.' :: (name ++ stepsChars steps) := by
  rw [stepsChars, List.flatMap_cons, toList_display_field, String.toList_ofList, List.cons_append]
  rfl

theorem stepsChars_index (n : Nat) (steps : List Step) :
    stepsChars (.index n :: steps) = '[' :: (Nat.toDigits 10 n ++ ']' :: stepsChars steps) := by
  rw [stepsChars, List.flatMap_cons, toList_display_index, List.cons_append, List.append_assoc]
  rfl

/-- Steps that have a text are spelled as they are displayed. -/
theorem SpellsSteps.display {cs : List Char} {steps : List Step} (h : SpellsSteps cs steps) :
    SpellsSteps (stepsChars steps) steps := by
  induction h with
  | nil => exact .nil
  | field hne hname _ ih =>
      rw [stepsChars_field]
      exact .field hne hname ih
  | @index inside rest n steps _ hindex _ ih =>
      rw [stepsChars_index]
      have hclose : ']' ∉ Nat.toDigits 10 n := by
        intro hmem
        exact absurd (Nat.isDigit_of_mem_toDigits (by decide) (by decide) hmem) (by decide)
      exact .index hclose (spellsIndex_toDigits hindex.fits) ih

/-- What is displayed ends in the character in which the text of the steps ends. -/
theorem SpellsSteps.getLast?_display {cs : List Char} {steps : List Step}
    (h : SpellsSteps cs steps) : (stepsChars steps).getLast? = cs.getLast? := by
  induction h with
  | nil => rfl
  | @field name rest steps _ _ _ ih =>
      rw [stepsChars_field, List.getLast?_cons, List.getLast?_cons, List.getLast?_append,
        List.getLast?_append, ih]
  | @index inside rest n steps _ _ _ ih =>
      rw [stepsChars_index, List.getLast?_cons, List.getLast?_cons, List.getLast?_append,
        List.getLast?_append, List.getLast?_cons, List.getLast?_cons, ih]
      rfl

/-- The displayed form of a path that has been read is one of its texts, and is trimmed. -/
theorem spells_display {text : String} {p : Path} (h : read text = .ok p) :
    Spells (Text.trimChars p.display.toList) p := by
  obtain ⟨hroot, rest, htext, hsteps⟩ := read_eq_ok_iff.1 h
  obtain ⟨c, cs, hcs⟩ : ∃ c cs, p.root.toList = c :: cs := by
    cases hlist : p.root.toList with
    | nil =>
        rw [Text.isIdentifier, hlist] at hroot
        cases hroot
    | cons c cs => exact ⟨c, cs, rfl⟩
  have hhead : p.display.toList.head? = some c := by
    rw [toList_display, hcs]
    rfl
  have hfirst : Text.isBlank c = false := by
    apply Token.not_isBlank_of_isNameChar
    exact Token.isNameChar_of_isIdentifierChars hroot c (hcs ▸ List.mem_cons_self)
  have hlast : p.display.toList.getLast? = (Text.trimChars text.toList).getLast? := by
    rw [toList_display, htext, List.getLast?_append, List.getLast?_append, hsteps.getLast?_display]
  have htrim : Text.trimChars p.display.toList = p.display.toList := by
    refine Text.trimChars_eq_self_iff.2 ⟨?_, ?_⟩
    · intro d hd
      rw [hhead] at hd
      cases hd
      exact hfirst
    · rw [hlast]
      exact Text.getLast?_trimChars text.toList
  rw [htrim]
  exact ⟨hroot, stepsChars p.steps, toList_display p, hsteps.display⟩

theorem read_display {text : String} {p : Path} (h : read text = .ok p) :
    read p.display = .ok p :=
  read_eq_ok_iff.2 (spells_display h)

/-- A text is read as a path exactly if, blanks around it put aside, it is an identifier followed by
the texts of the path's steps. Its displayed form is then read as the same path, so that paths that
have been read are displayed differently if they differ. -/
theorem display_canonical :
    (∀ (text : String) (p : Path), read text = .ok p ↔ Spells (Text.trimChars text.toList) p) ∧
    (∀ (text : String) (p : Path), read text = .ok p → read p.display = .ok p) ∧
    ∀ (text text' : String) (p p' : Path), read text = .ok p → read text' = .ok p' →
      p.display = p'.display → p = p' := by
  refine ⟨fun _ _ => read_eq_ok_iff, fun _ _ => read_display, ?_⟩
  intro text text' p p' h h' heq
  have hback : read p.display = .ok p' := heq ▸ read_display h'
  rw [read_display h] at hback
  exact Except.ok.inj hback

/-- Two texts of one path: an index with blanks, a plus and a leading zero, and one with two leading
zeros, in front of a field with a blank and a bracket. -/
theorem display_canonical_looseIndex :
    ∃ p p' : Path, read " pets[ +07 ].first name] " = .ok p ∧
      read "pets[007].first name]" = .ok p' ∧ p.display = "pets[7].first name]" ∧
      read p.display = .ok p ∧ p = p' := by
  have hread : read " pets[ +07 ].first name] " =
      .ok ⟨"pets", [.index 7, .field "first name]"]⟩ := eq_ok_of_toOption (by decide +kernel)
  have hread' : read "pets[007].first name]" =
      .ok ⟨"pets", [.index 7, .field "first name]"]⟩ := eq_ok_of_toOption (by decide +kernel)
  refine ⟨_, _, hread, hread', by decide +kernel, ?_, ?_⟩
  · exact display_canonical.2.1 _ _ hread
  · exact display_canonical.2.2 _ _ _ _ hread hread' rfl

end Sluice.Path
