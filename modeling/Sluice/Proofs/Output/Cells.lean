import Sluice.Proofs.Output.Tables

/-!
# The width of cut texts

A text that is too wide for its cell is cut by the columns of its characters by themselves, and it is
measured as a whole. The two agree on characters that make no text wider than they are
(`Text.Width.Steady`), and on no others: with a control among them, or a selector next to a character
that it makes wider, there is a text that is still too wide after it has been cut.

* `fit_cases` : what cutting keeps to, whatever the characters;
* `fit_le`, `steady_of_fit_le` : the characters of which texts are cut to the greatest width;
* `Table.columns_le_iff` : the same for the columns of tables.
-/

namespace Sluice

open Text.Width (After Fills Steady emojiOnRequest isControl isQuotation ofChars own ownSum scan step
  within)

/-! ## Cutting -/

theorem fills_ellipsis : Fills 1 ['…'] := by
  decide +kernel

/-- A text stays as it is on its line, or its beginning stays, as far as its characters by themselves
leave a column for the ellipsis. -/
theorem fit_cases {max : Nat} (hmax : 1 ≤ max) (text : String) :
    ((fit max text).toList = oneLine text ∧ Text.width (fit max text) ≤ max) ∨
      ∃ kept, kept <+: oneLine text ∧ ownSum kept + 1 ≤ max ∧
        (fit max text).toList = kept ++ ['…'] := by
  unfold fit
  dsimp only
  split
  · next hfits =>
    left
    rw [Text.width, String.toList_ofList]
    exact ⟨rfl, hfits⟩
  · right
    obtain ⟨rest, hrest, hroom, -⟩ := clip_longest (max - 1) (oneLine text)
    exact ⟨clip (max - 1) (oneLine text), ⟨rest, hrest.symm⟩, by omega, String.toList_ofList⟩

/-! ## Texts that fit -/

/-- Lines of steady characters hold no controls: those that there may be have become spaces. -/
theorem steady_of_mem_oneLine {S : Char → Prop} (hS : Steady S) {text : String}
    (htext : ∀ c ∈ text.toList, S c) :
    ∀ c ∈ oneLine text, (S c ∨ c = ' ') ∧ isControl c = false := by
  intro c hc
  obtain ⟨d, hd, rfl⟩ := List.mem_map.1 hc
  split
  · exact ⟨.inr rfl, by decide⟩
  · next hbreak =>
    refine ⟨.inl (htext d hd), ?_⟩
    rw [Bool.eq_false_iff]
    intro hcontrol
    apply hbreak
    simpa [or_assoc] using hS.control d (htext d hd) hcontrol

theorem fit_le {S : Char → Prop} (hS : Steady S) {max : Nat} (hmax : 1 ≤ max) {text : String}
    (htext : ∀ c ∈ text.toList, S c) : Text.width (fit max text) ≤ max := by
  rcases fit_cases hmax text with ⟨_, hle⟩ | ⟨kept, hkept, hroom, hfit⟩
  · exact hle
  · have hsteady := steady_of_mem_oneLine hS htext
    have hle := hS.or_space.ofChars_le fun c hc => hsteady c (hkept.subset hc)
    rw [Text.width, hfit, Text.Width.ofChars_append fills_ellipsis]
    omega

/-! ## Texts that do not fit -/

/-- What is left of a text that is too wide, with its ellipsis. -/
theorem width_fit_ofList {max : Nat} {cs : List Char}
    (hline : ∀ c ∈ cs, ¬ (c = '\n' ∨ c = '\r' ∨ c = '\t')) (hwide : max < ofChars cs) :
    Text.width (fit max (String.ofList cs)) = ofChars (clip (max - 1) cs) + 1 := by
  have hcs : oneLine (String.ofList cs) = cs := by
    rw [oneLine, String.toList_ofList]
    refine (List.map_congr_left fun c hc => ?_).trans (List.map_id cs)
    rw [if_neg]
    · rfl
    · simpa [or_assoc] using hline c hc
  rw [fit, hcs, if_neg (Nat.not_le.2 hwide), Text.width, String.toList_ofList,
    Text.Width.ofChars_append fills_ellipsis]

theorem fills_control {c : Char} (hcontrol : isControl c = true)
    (hbreak : ¬ (c = '\n' ∨ c = '\r' ∨ c = '\t')) : Fills 1 [c] := by
  have hlow : c.toNat ≤ 0xa0 := by
    rw [isControl, Bool.or_eq_true, Bool.and_eq_true, decide_eq_true_eq, decide_eq_true_eq,
      decide_eq_true_eq] at hcontrol
    omega
  show (0 + (step c .nothing).1, (step c .nothing).2) = (1, .nothing)
  simp only [not_or] at hbreak
  rw [step, Text.Width.alone]
  simp [After.nothing, hlow, hbreak]

/-- Controls take a column each in a text and none by themselves. -/
theorem exceeds_control {c : Char} (hcontrol : isControl c = true)
    (hbreak : ¬ (c = '\n' ∨ c = '\r' ∨ c = '\t')) :
    1 < Text.width (fit 1 (String.ofList [c, c])) := by
  have hown : own c = 0 := by rw [own, Text.Width.ofChar?, hcontrol]; rfl
  have hone := fills_control hcontrol hbreak
  have hfills : Fills 2 [c, c] := hone.append hone
  rw [width_fit_ofList, clip_cons, clip_cons, hown]
  · show 1 < ofChars [c, c] + 1
    rw [hfills.ofChars_eq]
    decide
  · simpa using hbreak
  · rw [hfills.ofChars_eq]
    decide

/-- A character of one column by itself that takes two in front of a selector: there is room for it and
the selector in what the ellipsis leaves of two columns, and they take both. -/
theorem exceeds_selector {c selector : Char} {a b : After} (hc : isControl c = false)
    (hselector : isControl selector = false) (hown : own c = 1) (hnone : own selector = 0)
    (hfirst : scan [selector] = (0, a)) (hwide : step c a = (2, b))
    (hnext : step selector b = (0, a)) :
    2 < Text.width (fit 2 (String.ofList [c, selector, c, selector])) := by
  have hpair : scan [c, selector] = (2, b) := by
    rw [Text.Width.scan_cons, hfirst, hwide]
    rfl
  have hall : scan [c, selector, c, selector] = (4, b) := by
    rw [Text.Width.scan_cons, Text.Width.scan_cons, hpair, hnext, hwide]
    rfl
  have hline : ∀ d, isControl d = false → ¬ (d = '\n' ∨ d = '\r' ∨ d = '\t') := by
    rintro d hd (rfl | rfl | rfl)
    · exact absurd hd (by decide)
    · exact absurd hd (by decide)
    · exact absurd hd (by decide)
  rw [width_fit_ofList, clip_cons, clip_cons, clip_cons, hown, hnone]
  · show 2 < ofChars [c, selector] + 1
    rw [ofChars, hpair]
    show 2 < 2 + 1
    decide
  · intro d hd
    apply hline
    simp only [List.mem_cons, List.not_mem_nil, or_false] at hd
    rcases hd with rfl | rfl | rfl | rfl <;> assumption
  · rw [ofChars, hall]
    show 2 < 4
    decide

theorem exceeds_emoji {c : Char} (hc : within emojiOnRequest c = true) (hown : own c < 2) :
    2 < Text.width (fit 2 (String.ofList [c, '\ufe0f', c, '\ufe0f'])) := by
  have hcontrol := Text.Width.isControl_of_emojiOnRequest hc
  have hpos : 1 ≤ own c := Text.Width.own_pos hcontrol (by simp [Text.Width.shown]) hc
  have hstep : step c ⟨.plain, .emoji⟩ = (2, .bare .emoji) := by
    rw [step, hc]
    rfl
  exact exceeds_selector hcontrol (by decide) (by omega) (by decide +kernel) (by decide +kernel)
    hstep (by decide +kernel)

theorem exceeds_quotation {c : Char} (hc : isQuotation c = true) :
    2 < Text.width (fit 2 (String.ofList [c, '\ufe01', c, '\ufe01'])) := by
  have hrange : 0x2018 ≤ c.toNat ∧ c.toNat ≤ 0x201d := by
    simp only [isQuotation, Bool.or_eq_true, decide_eq_true_eq] at hc
    omega
  have hcontrol : isControl c = false := Text.Width.isControl_eq_false (by omega)
  have hwithin : within [(0x2018, 0x201d)] c = true :=
    Text.Width.within_iff.2 ⟨_, List.mem_singleton_self _, hrange⟩
  have hown : own c = 1 := by
    rw [Text.Width.own_eq hcontrol]
    exact Text.Width.ofPlainChar_eq_one (by decide +kernel) hwithin (by omega)
  have hstep : step c ⟨.plain, .quotation⟩ = (2, .nothing) := by
    rw [step, hc]
    rfl
  exact exceeds_selector hcontrol (by decide) hown (by decide +kernel) (by decide +kernel) hstep
    (by decide +kernel)

/-! ## Where the two agree -/

theorem steady_of_fit_le {S : Char → Prop}
    (h : ∀ text max, 1 ≤ max → (∀ c ∈ text.toList, S c) → Text.width (fit max text) ≤ max) :
    Steady S := by
  constructor
  · intro c hc hcontrol
    by_contra hbreak
    have hle := h (String.ofList [c, c]) 1 (by decide) (by simp [hc])
    have hlt := exceeds_control hcontrol hbreak
    omega
  · intro hselector c hc hwithin
    by_contra hown
    have hle := h (String.ofList [c, '\ufe0f', c, '\ufe0f']) 2 (by decide) (by simp [hc, hselector])
    have hlt := exceeds_emoji hwithin (by omega)
    omega
  · intro hselector c hc
    rw [Bool.eq_false_iff]
    intro hquotation
    have hle := h (String.ofList [c, '\ufe01', c, '\ufe01']) 2 (by decide) (by simp [hc, hselector])
    have hlt := exceeds_quotation hquotation
    omega

namespace Table

/-- No text in the table has another character. -/
def Over (S : Char → Prop) (t : Table) : Prop :=
  ∀ row ∈ t.headers :: t.rows, ∀ cell ∈ row, ∀ c ∈ cell.toList, S c

theorem fitted_widths_le {S : Char → Prop} (hS : Steady S) {t : Table} (ht : t.Over S) {max : Nat}
    (hmax : 1 ≤ max) : ∀ w ∈ (t.fitted max).widths, w ≤ max := by
  intro w hw
  obtain ⟨i, hi⟩ := List.mem_iff_getElem?.1 hw
  obtain ⟨cell, hcolumn, rfl⟩ := (isGreatest_widths hi).1
  obtain ⟨row, hrow, hcell⟩ := exists_of_mem_column hcolumn
  obtain ⟨whole, hwhole, text, htext, rfl⟩ := exists_of_mem_fitted hrow hcell
  exact fit_le hS hmax (ht whole hwhole text htext)

theorem steady_of_widths_le {S : Char → Prop}
    (h : ∀ t : Table, t.Over S → ∀ maxWidth, ∀ w ∈ (t.fitted (max maxWidth 1)).widths,
      w ≤ max maxWidth 1) : Steady S := by
  apply steady_of_fit_le
  intro text maxWidth hmax htext
  have hover : Over S ⟨[text], []⟩ := by
    intro row hrow cell hcell
    cases List.mem_singleton.1 hrow
    cases List.mem_singleton.1 hcell
    exact htext
  have hle := h ⟨[text], []⟩ hover maxWidth (Text.width (fit (max maxWidth 1) text))
    (List.mem_singleton_self _)
  rwa [Nat.max_eq_left hmax] at hle

/-- What a cell holds is on one line, and is cut in front of what has no room beside the ellipsis, as
the characters count by themselves. The greatest width is kept to by all texts of some characters, and
by the columns of all tables with them, exactly if the characters are steady. -/
theorem columns_le_iff (S : Char → Prop) :
    (∀ text max, 1 ≤ max →
      ((fit max text).toList = oneLine text ∧ Text.width (fit max text) ≤ max) ∨
        ∃ kept, kept <+: oneLine text ∧ ownSum kept + 1 ≤ max ∧
          (fit max text).toList = kept ++ ['…']) ∧
      ((∀ text max, 1 ≤ max → (∀ c ∈ text.toList, S c) → Text.width (fit max text) ≤ max) ↔
        Steady S) ∧
      ((∀ t : Table, t.Over S → ∀ maxWidth, ∀ w ∈ (t.fitted (max maxWidth 1)).widths,
        w ≤ max maxWidth 1) ↔ Steady S) := by
  refine ⟨fun text max hmax => fit_cases hmax text, ⟨steady_of_fit_le, ?_⟩, steady_of_widths_le, ?_⟩
  · intro hS text max hmax htext
    exact fit_le hS hmax htext
  · intro hS t ht maxWidth
    exact fitted_widths_le hS ht (Nat.le_max_right maxWidth 1)

/-- Among all characters there are some of which too wide columns are made; without the controls and
the two selectors there are none. -/
theorem columns_le_iff_withoutSelectors :
    (¬ ∀ t : Table, ∀ maxWidth, ∀ w ∈ (t.fitted (max maxWidth 1)).widths, w ≤ max maxWidth 1) ∧
      ∀ t : Table, t.Over (fun c => isControl c = false ∧ c ≠ '\ufe0f' ∧ c ≠ '\ufe01') →
        ∀ maxWidth, ∀ w ∈ (t.fitted (max maxWidth 1)).widths, w ≤ max maxWidth 1 := by
  constructor
  · intro h
    have hsteady := (columns_le_iff fun _ => True).2.2.1 fun t _ => h t
    exact absurd (hsteady.control '\x01' trivial (by decide)) (by decide)
  · apply (columns_le_iff _).2.2.2
    constructor
    · intro c hc hcontrol
      rw [hc.1] at hcontrol
      cases hcontrol
    · intro hselector
      exact absurd rfl hselector.2.1
    · intro hselector
      exact absurd rfl hselector.2.2

end Table

end Sluice
