import Mathlib.Logic.Basic
import Sluice.Text.Width.Basic

/-!
# Columns of texts and of characters

The columns of a text are counted from its end, one character after the other, and what stands behind
a character may change what it adds. The count never falls below zero (`Width.scan_nonneg`): where a
character takes a column back, the one behind it has added one that is still owed (`Width.owed`).

The columns of a text are at most those of its characters by themselves, unless one of three things
is in it: a control, a character that is narrow by itself and wide in front of a selector for emoji,
or a quotation mark in front of a selector that makes it wide (`Width.Steady.ofChars_le`). In front
of a joiner, regional indicators add one column and take it back, then three of which they take one
back, and so on; what they have left to spare is counted in (`Width.spare`).

* `Width.step_cases` : what a step can add, by the columns of the character and what is owed;
* `Width.scan_append` : the columns of a text in front of one at whose beginning nothing joins;
* `Width.Steady` : the characters of which no text is wider than they are.
-/

namespace Sluice.Text.Width

/-! ## Ranges -/

theorem within_iff {xs : List (Nat × Nat)} {c : Char} :
    within xs c = true ↔ ∃ x ∈ xs, x.1 ≤ c.toNat ∧ c.toNat ≤ x.2 := by
  simp [within]

/-- Every range of the first list lies within one of the second. -/
def inside (xs ys : List (Nat × Nat)) : Bool :=
  xs.all fun x => ys.any fun y => Nat.ble y.1 x.1 && Nat.ble x.2 y.2

theorem within_of_inside {xs ys : List (Nat × Nat)} {c : Char} (h : inside xs ys = true)
    (hc : within xs c = true) : within ys c = true := by
  obtain ⟨x, hx, hxc⟩ := within_iff.1 hc
  obtain ⟨y, hy, hyx⟩ := List.any_eq_true.1 (List.all_eq_true.1 h x hx)
  rw [Bool.and_eq_true, Nat.ble_eq, Nat.ble_eq] at hyx
  exact within_iff.2 ⟨y, hy, by omega, by omega⟩

/-- The ranges begin one behind the other. -/
def ascends : List (Nat × Nat) → Bool
  | x :: y :: rest => Nat.ble x.1 y.1 && ascends (y :: rest)
  | _ => true

theorem pairwise_of_ascends {xs : List (Nat × Nat)} (h : ascends xs = true) :
    xs.Pairwise fun x y => x.1 ≤ y.1 := by
  fun_induction ascends xs with
  | case1 x y rest ih =>
      rw [Bool.and_eq_true, Nat.ble_eq] at h
      have hrest := ih h.2
      refine List.pairwise_cons.2 ⟨?_, hrest⟩
      intro z hz
      rcases List.mem_cons.1 hz with rfl | hz
      · exact h.1
      · exact Nat.le_trans h.1 (List.rel_of_pairwise_cons hrest hz)
  | case2 xs hxs =>
      cases xs with
      | nil => exact .nil
      | cons x xs =>
          cases xs with
          | nil => exact List.pairwise_singleton ..
          | cons y xs => exact absurd rfl (hxs x y xs)

/-- No number is in a range of both lists, if both ascend: what ends in front of a range is left
behind, and what comes next begins behind the range. -/
def apart : List (Nat × Nat) → List (Nat × Nat) → Bool
  | [], _ => true
  | x :: xs, ys =>
    match ys.dropWhile fun y => Nat.blt y.2 x.1 with
    | [] => true
    | y :: rest => Nat.blt x.2 y.1 && apart xs (y :: rest)

theorem not_within_of_apart {xs ys : List (Nat × Nat)} {c : Char} (h : apart xs ys = true)
    (hxs : ascends xs = true) (hys : ascends ys = true) (hc : within xs c = true) :
    within ys c = false := by
  suffices hrun : ∀ x ∈ xs, ∀ y ∈ ys, x.1 ≤ c.toNat → c.toNat ≤ x.2 → y.1 ≤ c.toNat →
      c.toNat ≤ y.2 → False by
    rw [Bool.eq_false_iff]
    intro hcys
    obtain ⟨x, hx, hxc⟩ := within_iff.1 hc
    obtain ⟨y, hy, hyc⟩ := within_iff.1 hcys
    exact hrun x hx y hy hxc.1 hxc.2 hyc.1 hyc.2
  replace hxs := pairwise_of_ascends hxs
  replace hys := pairwise_of_ascends hys
  clear hc
  induction xs generalizing ys with
  | nil => nofun
  | cons x xs ih =>
      intro x' hx' y hy hlow hhigh hylow hyhigh
      have hxle : x.1 ≤ x'.1 := by
        rcases List.mem_cons.1 hx' with rfl | hx'
        · exact Nat.le_refl _
        · exact List.rel_of_pairwise_cons hxs hx'
      -- what is left behind ends in front of the number
      have hleft : y ∈ ys.dropWhile fun y => Nat.blt y.2 x.1 := by
        have hsplit : y ∈ (ys.takeWhile fun y => Nat.blt y.2 x.1) ++
            ys.dropWhile fun y => Nat.blt y.2 x.1 := by
          rwa [List.takeWhile_append_dropWhile]
        rcases List.mem_append.1 hsplit with hpast | hleft
        · have hblt := List.all_eq_true.1 List.all_takeWhile y hpast
          rw [Nat.blt_eq] at hblt
          omega
        · exact hleft
      have hsorted : (ys.dropWhile fun y => Nat.blt y.2 x.1).Pairwise fun x y => x.1 ≤ y.1 :=
        hys.sublist (List.dropWhile_sublist _)
      rw [apart] at h
      cases hrest : ys.dropWhile fun y => Nat.blt y.2 x.1 with
      | nil =>
          rw [hrest] at hleft
          cases hleft
      | cons z rest =>
          rw [hrest] at h hleft hsorted
          rw [Bool.and_eq_true, Nat.blt_eq] at h
          rcases List.mem_cons.1 hx' with rfl | hx'
          · have hzle : z.1 ≤ y.1 := by
              rcases List.mem_cons.1 hleft with rfl | hleft
              · exact Nat.le_refl _
              · exact List.rel_of_pairwise_cons hsorted hleft
            omega
          · exact ih h.2 (List.pairwise_cons.1 hxs).2 hsorted x' hx' y hleft hlow hhigh hylow hyhigh

/-! ## Characters by themselves -/

/-- The columns of a character by itself; a control has none. -/
def own (c : Char) : Nat :=
  (ofChar? c).getD 0

/-- The columns of the characters by themselves, together. -/
def ownSum : List Char → Nat
  | [] => 0
  | c :: cs => own c + ownSum cs

theorem own_eq {c : Char} (h : isControl c = false) : own c = ofPlainChar c := by
  rw [own, ofChar?, h]
  rfl

theorem isControl_eq_false {c : Char} (h : 0xa0 ≤ c.toNat) : isControl c = false := by
  rw [isControl, Bool.or_eq_false_iff, Bool.and_eq_false_iff, decide_eq_false_iff_not,
    decide_eq_false_iff_not, decide_eq_false_iff_not]
  omega

/-- Classes of characters that have columns of their own and a special relation to what stands behind
them. -/
def shown : List (List (Nat × Nat)) :=
  [alef, stackable, tifinagh, textOnRequest, emojiOnRequest, emojiByDefault, [(0x1f1e6, 0x1f1ff)],
    [(0x1f3fb, 0x1f3ff)], [(0x5dc, 0x5dc), (0x1a10, 0x1a10), (0x2d7f, 0x2d7f), (0xa4fc, 0xa4fd),
      (0x10c03, 0x10c03), (0x16d67, 0x16d68)]]

/-- The classes have no character in common with the table of no width, and the wide ones among them
lie within the table of two columns. -/
theorem shown_tables :
    ascends zeroWidth = true ∧ (∀ xs ∈ shown, apart xs zeroWidth = true ∧ ascends xs = true) ∧
      ∀ xs ∈ [emojiByDefault, [(0x1f3fb, 0x1f3ff)]], inside xs doubleWidth = true := by
  decide +kernel

theorem not_zeroWidth_of_shown {xs : List (Nat × Nat)} {c : Char} (hxs : xs ∈ shown)
    (hc : within xs c = true) : within zeroWidth c = false :=
  have hclass := shown_tables.2.1 xs hxs
  not_within_of_apart hclass.1 hclass.2 shown_tables.1 hc

theorem own_pos {xs : List (Nat × Nat)} {c : Char} (hc : isControl c = false) (hxs : xs ∈ shown)
    (h : within xs c = true) : 1 ≤ own c := by
  rw [own_eq hc, ofPlainChar, not_zeroWidth_of_shown hxs h, if_neg Bool.false_ne_true]
  split
  · decide
  · split
    · decide
    · split <;> decide

theorem own_wide {xs : List (Nat × Nat)} {c : Char} (hc : 0xa0 ≤ c.toNat)
    (hxs : xs ∈ [emojiByDefault, [(0x1f3fb, 0x1f3ff)]]) (h : within xs c = true) : own c = 2 := by
  have hshown : xs ∈ shown := by
    simp only [List.mem_cons, List.not_mem_nil, or_false] at hxs
    rcases hxs with rfl | rfl
    · simp [shown]
    · simp [shown]
  rw [own_eq (isControl_eq_false hc), ofPlainChar, not_zeroWidth_of_shown hshown h,
    within_of_inside (shown_tables.2.2 xs hxs) h, if_neg (Nat.not_lt.2 hc)]
  rfl

theorem own_low {c : Char} (hlow : c.toNat ≤ 0xa0) (hc : isControl c = false) : own c = 1 := by
  rw [own_eq hc, ofPlainChar]
  split
  · rfl
  · next hge =>
    have hnbsp : c = '\u00a0' := by
      rw [← Char.ofNat_toNat c, show c.toNat = 0xa0 by omega]
    subst hnbsp
    decide +kernel

/-- A control is wide in front of no selector. -/
theorem isControl_of_emojiOnRequest {c : Char} (h : within emojiOnRequest c = true) :
    isControl c = false := by
  rw [Bool.eq_false_iff]
  intro hcontrol
  have hwithin : within [(0, 0x1f), (0x7f, 0x9f)] c = true := by
    rw [isControl, Bool.or_eq_true, Bool.and_eq_true, decide_eq_true_eq, decide_eq_true_eq,
      decide_eq_true_eq] at hcontrol
    rcases hcontrol with hlow | ⟨hlow, hhigh⟩
    · exact within_iff.2 ⟨(0, 0x1f), by simp, Nat.zero_le _, Nat.le_of_lt_succ hlow⟩
    · exact within_iff.2 ⟨(0x7f, 0x9f), by simp, hlow, Nat.le_of_lt_succ hhigh⟩
  have hclasses : apart [(0, 0x1f), (0x7f, 0x9f)] emojiOnRequest = true ∧
      ascends emojiOnRequest = true := by
    decide +kernel
  rw [not_within_of_apart hclasses.1 rfl hclasses.2 hwithin] at h
  cases h

theorem own_of_indicator {c : Char} (h : isIndicator c = true) : 1 ≤ own c := by
  have hwithin : within [(0x1f1e6, 0x1f1ff)] c = true := by
    simpa [within, isIndicator] using h
  obtain ⟨_, hrange, hlow, _⟩ := within_iff.1 hwithin
  cases List.mem_singleton.1 hrange
  exact own_pos (isControl_eq_false (by omega)) (by simp [shown]) hwithin

theorem own_of_tone {c : Char} (h : isTone c = true) : own c = 2 := by
  have hwithin : within [(0x1f3fb, 0x1f3ff)] c = true := by
    simpa [within, isTone] using h
  obtain ⟨_, hrange, hlow, _⟩ := within_iff.1 hwithin
  cases List.mem_singleton.1 hrange
  exact own_wide (by omega) (by simp) hwithin

theorem own_pos_of_single {c : Char} {n : Nat} (hc : c.toNat = n) (hhigh : 0xa0 < c.toNat)
    (hn : within [(0x5dc, 0x5dc), (0x1a10, 0x1a10), (0x2d7f, 0x2d7f), (0xa4fc, 0xa4fd),
      (0x10c03, 0x10c03), (0x16d67, 0x16d68)] (Char.ofNat n) = true) : 1 ≤ own c := by
  subst hc
  rw [Char.ofNat_toNat] at hn
  exact own_pos (isControl_eq_false (by omega)) (by simp [shown]) hn

/-- Characters of a range that has no part in the tables of widths have one column. -/
theorem ofPlainChar_eq_one {xs : List (Nat × Nat)} {c : Char}
    (hxs : ascends xs = true ∧ apart xs zeroWidth = true ∧ apart xs doubleWidth = true ∧
      ascends doubleWidth = true)
    (h : within xs c = true) (hkhmer : c.toNat ≠ 0x17a4 ∧ c.toNat ≠ 0x17d8) :
    ofPlainChar c = 1 := by
  obtain ⟨hascends, hzero, hdouble, hdoubles⟩ := hxs
  rw [ofPlainChar, not_within_of_apart hzero hascends shown_tables.1 h,
    not_within_of_apart hdouble hascends hdoubles h]
  simp [hkhmer]

/-! ## What a step comes to -/

/-- What the columns of some tail can still be reduced by. -/
def owed : Tail → Int
  | .letter .khmer _ | .letter .tifinaghAfterJoiner _ | .joinedIndicator | .joinedOdd => 1
  | _ => 0

/-- By how much the columns of some tail stay below those of its characters by themselves. -/
def spare : Tail → Int
  | .joinedEven => 2
  | _ => 0

theorem owed_nonneg (tail : Tail) : 0 ≤ owed tail := by
  unfold owed
  split <;> decide

theorem spare_nonneg (tail : Tail) : 0 ≤ spare tail := by
  unfold spare
  split <;> decide

theorem owed_letter (l : Letter) (joined joined' : Bool) :
    owed (.letter l joined) = owed (.letter l joined') := by
  cases l <;> rfl

/-- The style that a selector asks for. -/
def asked (c : Char) : Style :=
  if c.toNat = 0xfe0f then .emoji
  else if c.toNat = 0xfe0e then .text
  else if c.toNat = 0xfe01 then .quotation
  else .unset

theorem asked_emoji {c : Char} (h : c.toNat = 0xfe0f) : asked c = .emoji :=
  if_pos h

theorem asked_text {c : Char} (h : c.toNat = 0xfe0e) : asked c = .text := by
  rw [asked, h]
  rfl

theorem asked_quotation {c : Char} (h : c.toNat = 0xfe01) : asked c = .quotation := by
  rw [asked, h]
  rfl

/-- What is added leaves enough for what is owed then, and the character has as many columns by itself
as are added, what was and what is to spare counted in; a control has none. A style is asked for by a
selector only. -/
structure Fair (c : Char) (tail : Tail) (added : Int × After) : Prop where
  owes : owed added.2.tail ≤ added.1 + owed tail
  costs : isControl c = false → added.1 + spare added.2.tail ≤ own c + spare tail
  asks : added.2.style = .unset ∨ added.2.style = asked c

theorem Fair.mono {c : Char} {tail tail' : Tail} {added : Int × After} (h : Fair c tail added)
    (howed : owed tail ≤ owed tail') (hspare : spare tail ≤ spare tail') : Fair c tail' added := by
  constructor
  · have howes := h.owes
    omega
  · intro hc
    have hcosts := h.costs hc
    omega
  · exact h.asks

/-- Nothing is added, and no more is owed than before. -/
theorem Fair.zero {c : Char} {tail : Tail} {a : After} (howed : owed a.tail ≤ owed tail)
    (hspare : spare a.tail ≤ spare tail) (hasks : a.style = .unset ∨ a.style = asked c) :
    Fair c tail (0, a) := by
  constructor
  · show owed a.tail ≤ 0 + owed tail
    omega
  · intro _
    show 0 + spare a.tail ≤ own c + spare tail
    omega
  · exact hasks

/-- A character that is drawn together with what stands behind it adds nothing. -/
theorem Fair.together {c : Char} {tail tail' : Tail} (howed : owed tail' ≤ owed tail)
    (hspare : spare tail' ≤ spare tail) : Fair c tail (0, .bare tail') :=
  .zero howed hspare (.inl rfl)

theorem Fair.merged {c : Char} {tail : Tail} : Fair c tail (0, .nothing) :=
  .together (owed_nonneg tail) (spare_nonneg tail)

/-- A character takes back a column that is owed. -/
theorem Fair.back {c : Char} {tail : Tail} (howed : owed tail = 1) :
    Fair c tail (-1, .nothing) := by
  constructor
  · show (0 : Int) ≤ -1 + owed tail
    omega
  · intro _
    have hspare := spare_nonneg tail
    show -1 + 0 ≤ (own c : Int) + spare tail
    omega
  · exact .inl rfl

/-- A character is counted with no more columns than it has by itself. -/
theorem Fair.counted {c : Char} {tail tail' : Tail} {n : Int} (hown : n ≤ own c)
    (howed : owed tail' ≤ n) (hspare : spare tail' = 0) : Fair c tail (n, .bare tail') := by
  have htail := owed_nonneg tail
  have htail' := spare_nonneg tail
  constructor
  · show owed tail' ≤ n + owed tail
    omega
  · intro _
    show n + spare tail' ≤ own c + spare tail
    omega
  · exact .inl rfl

theorem Fair.letter {c : Char} {l : Letter} {tail : Tail} (hown : 1 ≤ own c) :
    Fair c tail (1, .bare (.letter l false)) := by
  refine .counted (by omega) ?_ rfl
  cases l <;> decide

/-- A regional indicator has one column by itself. -/
theorem Fair.indicator {c : Char} {tail tail' : Tail} {n : Int} (hc : isIndicator c = true)
    (howed : owed tail' ≤ n + owed tail) (hcount : n + spare tail' ≤ 1 + spare tail) :
    Fair c tail (n, .bare tail') := by
  have hown := own_of_indicator hc
  constructor
  · exact howed
  · intro _
    show n + spare tail' ≤ own c + spare tail
    omega
  · exact .inl rfl

theorem Fair.ite {c : Char} {tail : Tail} {p : Prop} [Decidable p] {added added' : Int × After}
    (hpos : p → Fair c tail added) (hneg : ¬ p → Fair c tail added') :
    Fair c tail (if p then added else added') := by
  split
  · next hp => exact hpos hp
  · next hp => exact hneg hp

theorem fair_alone (c : Char) : Fair c .plain (alone c) := by
  refine .ite (fun hc => ?_) fun _ => .ite (fun hlow => ?_) fun hhigh => ?_
  · subst hc
    exact ⟨by decide, by decide, .inl rfl⟩
  · refine ⟨by decide, fun hc => ?_, .inl rfl⟩
    rw [own_low hlow hc]
    decide
  rw [Nat.not_le] at hhigh
  have hcontrol := isControl_eq_false (Nat.le_of_lt hhigh)
  refine .ite (fun hc => .letter (own_pos_of_single hc hhigh (by decide))) fun _ => ?_
  refine .ite (fun hc => .letter (own_pos hcontrol (by simp [shown]) hc)) fun _ => ?_
  refine .ite (fun hc => .letter (own_pos hcontrol (by simp [shown]) hc)) fun _ => ?_
  refine .ite (fun hc => .letter (own_pos_of_single hc hhigh (by decide))) fun _ => ?_
  refine .ite (fun hc => .letter (own_pos hcontrol (by simp [shown]) hc)) fun _ => ?_
  refine .ite (fun hc => ?_) fun _ => ?_
  · rw [Bool.or_eq_true, decide_eq_true_eq, decide_eq_true_eq] at hc
    rcases hc with hc | hc
    · exact .letter (own_pos_of_single hc hhigh (by decide))
    · exact .letter (own_pos_of_single hc hhigh (by decide))
  refine .ite (fun hc => .letter (own_pos_of_single hc hhigh (by decide))) fun _ => ?_
  refine .ite (fun hc => .letter (own_pos_of_single hc hhigh (by decide))) fun _ => ?_
  refine .ite (fun hc => .letter (own_pos_of_single hc hhigh (by decide))) fun _ => ?_
  refine .ite (fun hc => .zero (by decide) (by decide) (.inr (asked_emoji hc).symm)) fun _ => ?_
  refine .ite (fun hc => .zero (by decide) (by decide) (.inr (asked_text hc).symm)) fun _ => ?_
  refine .ite (fun hc => .zero (by decide) (by decide) (.inr (asked_quotation hc).symm)) fun _ => ?_
  refine .ite (fun hc => ?_) fun _ => .ite (fun hc => ?_) fun _ => .ite (fun hc => ?_) fun _ => ?_
  · exact .indicator hc (by decide) (by decide)
  · have hown : own c = 2 := own_of_tone hc
    exact .counted (by omega) (by decide) rfl
  · have hown := own_wide (by omega) (by simp) hc
    exact .counted (by omega) (by decide) rfl
  · have hown := own_eq hcontrol
    refine .counted (by omega) ?_ rfl
    show (0 : Int) ≤ ofPlainChar c
    omega

theorem Fair.of_ite {c : Char} {tail : Tail} {p : Prop} [Decidable p] {added added' : Int × After}
    {rest : Option (Int × After)} (h : (if p then some added else rest) = some added')
    (hpos : p → Fair c tail added) (hneg : rest = some added' → Fair c tail added') :
    Fair c tail added' := by
  split at h
  · next hp =>
    cases h
    exact hpos hp
  · exact hneg h

theorem fair_beforeLetter? {c : Char} {l : Letter} {joined : Bool} {added : Int × After}
    (hhigh : 0xa0 < c.toNat) (h : beforeLetter? c l joined = some added) :
    Fair c (.letter l joined) added := by
  cases l with
  | alef =>
      refine .of_ite h (fun _ => .merged) fun h => .of_ite h (fun _ => ?_) nofun
      exact .together (Int.le_refl _) (Int.le_refl _)
  | lamed => exact .of_ite h (fun _ => .merged) nofun
  | khmer => exact .of_ite h (fun _ => .back rfl) nofun
  | ya =>
      refine .of_ite h (fun _ => ?_) nofun
      exact .together (Int.le_refl _) (Int.le_refl _)
  | yaAfterVowel => exact .of_ite h (fun _ => .merged) nofun
  | tifinagh =>
      refine .of_ite h (fun hc => ?_) fun h => .of_ite h (fun _ => .merged) nofun
      have hown := own_pos_of_single hc hhigh (by decide)
      exact .counted (by omega) (by decide) rfl
  | tifinaghAfterJoiner => exact .of_ite h (fun _ => .back rfl) nofun
  | lisuTone => exact .of_ite h (fun _ => .merged) nofun
  | orkhon => exact .of_ite h (fun _ => .merged) nofun
  | kiratE =>
      refine .of_ite h (fun _ => .merged) fun h => .of_ite h (fun _ => ?_) nofun
      exact .together (Int.le_refl _) (Int.le_refl _)
  | kiratAi => exact .of_ite h (fun _ => .merged) nofun

theorem fair_beforeTail? {c : Char} {tail : Tail} {added : Int × After} (hhigh : 0xa0 < c.toNat)
    (h : beforeTail? c tail = some added) : Fair c tail added := by
  cases tail with
  | plain => cases h
  | lineFeed => cases h
  | letter l joined =>
      refine .of_ite h (fun _ => ?_) fun h => .of_ite h (fun _ => ?_) (fair_beforeLetter? hhigh)
      · exact .together (Int.le_of_eq (owed_letter l true joined)) (Int.le_refl _)
      · exact .together (Int.le_refl _) (Int.le_refl _)
  | emoji => exact .of_ite h (fun _ => .together (by decide) (by decide)) nofun
  | tone =>
      refine .of_ite h (fun _ => .together (by decide) (by decide)) fun h => ?_
      exact .of_ite h (fun _ => .together (by decide) (by decide)) nofun
  | indicator =>
      exact .of_ite h (fun hc => .indicator hc (by decide) (by decide)) nofun
  | indicators =>
      refine .of_ite h (fun hc => .indicator hc (by decide) (by decide)) fun h => ?_
      exact .of_ite h (fun _ => .together (by decide) (by decide)) nofun
  | joined =>
      refine .of_ite h (fun _ => .together (by decide) (by decide)) fun h => ?_
      refine .of_ite h (fun hc => .indicator hc (by decide) (by decide)) fun h => ?_
      refine .of_ite h (fun _ => .together (by decide) (by decide)) fun h => ?_
      refine .of_ite h (fun _ => .together (by decide) (by decide)) fun h => ?_
      exact .of_ite h (fun _ => .together (by decide) (by decide)) nofun
  | joinedKeycap => cases h
  | joinedTags =>
      refine .of_ite h (fun _ => .together (by decide) (by decide)) fun h => ?_
      exact .of_ite h (fun _ => .together (by decide) (by decide)) nofun
  | joinedIndicator =>
      -- the two indicators have a column each by themselves, and none in the count
      exact .of_ite h (fun hc => .indicator hc (by decide) (by decide)) nofun
  | joinedEven =>
      refine .of_ite h (fun hc => .indicator hc (by decide) (by decide)) fun h => ?_
      exact .of_ite h (fun _ => .together (by decide) (by decide)) nofun
  | joinedOdd =>
      refine .of_ite h (fun hc => .indicator hc (by decide) (by decide)) fun h => ?_
      exact .of_ite h (fun _ => .together (by decide) (by decide)) nofun

theorem owed_dropStyle (a : After) : owed a.dropStyle.tail ≤ owed a.tail := by
  unfold After.dropStyle
  split
  · exact Int.le_refl _
  · exact Int.le_refl _
  · exact owed_nonneg _

theorem spare_dropStyle (a : After) : spare a.dropStyle.tail ≤ spare a.tail := by
  unfold After.dropStyle
  split
  · exact Int.le_refl _
  · exact Int.le_refl _
  · exact spare_nonneg _

theorem askEmoji_eq (a : After) : a.askEmoji = ⟨a.tail, .emoji⟩ ∨ a.askEmoji = ⟨.plain, .emoji⟩ := by
  unfold After.askEmoji
  split
  · exact .inl rfl
  · exact .inl rfl
  · exact .inl rfl
  · exact .inr rfl

theorem askText_eq (a : After) : a.askText = ⟨a.tail, .text⟩ ∨ a.askText = ⟨.plain, .text⟩ := by
  unfold After.askText
  split
  · exact .inl rfl
  · exact .inr rfl

/-- A selector leaves the tail behind it as it is, or hides it. -/
theorem Fair.selects {c : Char} {a b a' : After} {style : Style} (hb : b = a.dropStyle ∨ b = a)
    (ha' : a' = ⟨b.tail, style⟩ ∨ a' = ⟨.plain, style⟩) (hstyle : style = asked c) :
    Fair c a.tail (0, a') := by
  have hbehind : owed b.tail ≤ owed a.tail ∧ spare b.tail ≤ spare a.tail := by
    rcases hb with rfl | rfl
    · exact ⟨owed_dropStyle a, spare_dropStyle a⟩
    · exact ⟨Int.le_refl _, Int.le_refl _⟩
  rcases ha' with rfl | rfl
  · exact .zero hbehind.1 hbehind.2 (.inr hstyle)
  · exact .zero (owed_nonneg a.tail) (spare_nonneg a.tail) (.inr hstyle)

/-- Only a selector for emoji and one for quotation marks make a character wider than it is by
itself. -/
theorem step_cases (c : Char) (a : After) :
    (a.style = .emoji ∧ within emojiOnRequest c = true ∧
      step c a = (if a.joinsEmoji then 0 else 2, .bare .emoji)) ∨
    (a.style = .quotation ∧ isQuotation c = true ∧ step c a = (2, .nothing)) ∨
    Fair c a.tail (step c a) := by
  have hplain : Fair c a.tail (alone c) :=
    (fair_alone c).mono (owed_nonneg a.tail) (spare_nonneg a.tail)
  by_cases hemoji : (a.style = .emoji && within emojiOnRequest c) = true
  · left
    rw [step, if_pos hemoji]
    rw [Bool.and_eq_true, decide_eq_true_eq] at hemoji
    exact ⟨hemoji.1, hemoji.2, rfl⟩
  by_cases hquotation : (a.style = .quotation && isQuotation c) = true
  · right; left
    rw [step, if_neg hemoji, if_pos hquotation]
    rw [Bool.and_eq_true, decide_eq_true_eq] at hquotation
    exact ⟨hquotation.1, hquotation.2, rfl⟩
  right; right
  rw [step, if_neg hemoji, if_neg hquotation]
  refine .ite (fun _ => .ite (fun _ => .merged) fun _ => hplain) fun hhigh => ?_
  rw [Nat.not_le] at hhigh
  refine .ite (fun hc => ?_) fun _ => .ite (fun hc => ?_) fun _ => .ite (fun hc => ?_) fun _ => ?_
  · exact .selects (ite_eq_or_eq ..) (askEmoji_eq _) (asked_emoji hc).symm
  · exact .selects (ite_eq_or_eq ..) (askText_eq _) (asked_text hc).symm
  · rw [Bool.and_eq_true] at hc
    have hown := own_pos (isControl_eq_false (by omega)) (by simp [shown]) hc.2
    exact .counted (by omega) (by decide) rfl
  · split
    · next hadded =>
      exact (fair_beforeTail? hhigh hadded).mono (owed_dropStyle a) (spare_dropStyle a)
    · exact hplain

/-! ## The columns of a text -/

theorem scan_cons (c : Char) (cs : List Char) :
    scan (c :: cs) = ((scan cs).1 + (step c (scan cs).2).1, (step c (scan cs).2).2) :=
  rfl

/-- What is still owed has been counted. -/
theorem owed_le_scan (cs : List Char) : owed (scan cs).2.tail ≤ (scan cs).1 := by
  induction cs with
  | nil => decide
  | cons c cs ih =>
      rw [scan_cons]
      rcases step_cases c (scan cs).2 with ⟨_, _, hstep⟩ | ⟨_, _, hstep⟩ | hfair
      · have howed := owed_nonneg (scan cs).2.tail
        rw [hstep]
        show 0 ≤ (scan cs).1 + if (scan cs).2.joinsEmoji then 0 else 2
        split <;> omega
      · have howed := owed_nonneg (scan cs).2.tail
        rw [hstep]
        show 0 ≤ (scan cs).1 + 2
        omega
      · have howes := hfair.owes
        show owed (step c (scan cs).2).2.tail ≤ (scan cs).1 + (step c (scan cs).2).1
        omega

theorem scan_nonneg (cs : List Char) : 0 ≤ (scan cs).1 :=
  Int.le_trans (owed_nonneg _) (owed_le_scan cs)

theorem ofChars_eq (cs : List Char) : (ofChars cs : Int) = (scan cs).1 :=
  Int.toNat_of_nonneg (scan_nonneg cs)

/-- The columns of a text in front of one at whose beginning nothing joins. -/
theorem scan_append {cs ds : List Char} (h : (scan ds).2 = .nothing) :
    scan (cs ++ ds) = ((scan cs).1 + (scan ds).1, (scan cs).2) := by
  induction cs with
  | nil =>
      rw [List.nil_append]
      show scan ds = (0 + (scan ds).1, .nothing)
      rw [Int.zero_add, ← h]
  | cons c cs ih =>
      rw [List.cons_append, scan_cons, ih, scan_cons]
      ext
      · show (scan cs).1 + (scan ds).1 + (step c (scan cs).2).1 =
          (scan cs).1 + (step c (scan cs).2).1 + (scan ds).1
        omega
      · rfl

/-- A text of some columns, at whose beginning nothing joins what stands in front. -/
def Fills (n : Nat) (cs : List Char) : Prop :=
  scan cs = ((n : Int), .nothing)

instance (n : Nat) (cs : List Char) : Decidable (Fills n cs) :=
  inferInstanceAs (Decidable (scan cs = _))

section Fills

variable {m n : Nat} {cs ds : List Char}

theorem Fills.ofChars_eq (h : Fills n cs) : ofChars cs = n := by
  rw [ofChars, h]
  exact Int.toNat_natCast n

theorem Fills.append (hcs : Fills m cs) (hds : Fills n ds) : Fills (m + n) (cs ++ ds) := by
  unfold Fills at *
  rw [scan_append (congrArg Prod.snd hds), hcs, hds, Int.natCast_add]

theorem Fills.replicate {c : Char} (h : Fills 1 [c]) (n : Nat) :
    Fills n (List.replicate n c) := by
  induction n with
  | zero => rfl
  | succ n ih =>
      rw [List.replicate_succ, Nat.add_comm]
      exact Fills.append h ih

theorem not_emojiOnRequest_space : within emojiOnRequest ' ' = false := by
  decide +kernel

theorem step_space (a : After) : step ' ' a = (1, .nothing) := by
  rw [step, not_emojiOnRequest_space, Bool.and_false]
  simp [isQuotation, alone]

theorem fills_spaces (n : Nat) : Fills n (List.replicate n ' ') := by
  refine Fills.replicate ?_ n
  rw [Fills, scan_cons, step_space]
  rfl

/-- A space keeps what stands behind it from what stands in front. -/
theorem fills_space_cons (cs : List Char) : Fills (ofChars cs + 1) (' ' :: cs) := by
  unfold Fills
  rw [scan_cons, step_space, Int.natCast_add, Width.ofChars_eq]
  rfl

theorem ofChars_append (hds : Fills n ds) : ofChars (cs ++ ds) = ofChars cs + n := by
  have hcs := Width.ofChars_eq cs
  have happend := Width.ofChars_eq (cs ++ ds)
  rw [scan_append (congrArg Prod.snd hds), hds] at happend
  omega

/-- A character for drawing lines and boxes. -/
def drawsBoxes (c : Char) : Bool :=
  within [(0x2500, 0x257f)] c

theorem toNat_of_drawsBoxes {c : Char} (h : drawsBoxes c = true) :
    0x2500 ≤ c.toNat ∧ c.toNat ≤ 0x257f := by
  obtain ⟨_, hrange, hc⟩ := within_iff.1 h
  cases List.mem_singleton.1 hrange
  exact hc

theorem fills_drawsBoxes {c : Char} (h : drawsBoxes c = true) : Fills 1 [c] := by
  obtain ⟨hlow, hhigh⟩ := toNat_of_drawsBoxes h
  have hclasses : ∀ xs ∈ [alef, stackable, Width.tifinagh, emojiByDefault],
      apart [(0x2500, 0x257f)] xs = true ∧ ascends xs = true := by
    decide +kernel
  have hplain : ∀ xs ∈ [alef, stackable, Width.tifinagh, emojiByDefault], within xs c = false :=
    fun xs hxs => not_within_of_apart (hclasses xs hxs).1 rfl (hclasses xs hxs).2 h
  have hone : ofPlainChar c = 1 := ofPlainChar_eq_one (by decide +kernel) h (by omega)
  have hne : ∀ n, n < 0x2500 ∨ 0x257f < n → c.toNat ≠ n := by
    intro n hn
    omega
  have hbreak : c ≠ '\n' := by
    rintro rfl
    exact absurd hlow (by decide)
  have hlow : ¬ c.toNat ≤ 0xa0 := by omega
  have hindicator : isIndicator c = false := by
    rw [isIndicator, Bool.and_eq_false_iff, decide_eq_false_iff_not]
    exact .inl (by omega)
  have htone : isTone c = false := by
    rw [isTone, Bool.and_eq_false_iff, decide_eq_false_iff_not]
    exact .inl (by omega)
  have halone : alone c = (1, .nothing) := by
    unfold alone
    simp only [List.mem_cons, List.not_mem_nil, or_false, forall_eq_or_imp, forall_eq] at hplain
    simp [hbreak, hlow, hne, hplain, hindicator, htone, hone]
  show (0 + (step c .nothing).1, (step c .nothing).2) = (1, .nothing)
  have hstep : step c .nothing = alone c := by
    unfold step
    simp [After.nothing, After.dropStyle, beforeTail?, hlow, hne]
  rw [hstep, halone]
  rfl

end Fills

/-! ## Characters that make no text wider than they are -/

theorem asked_eq_emoji {c : Char} (h : .emoji = asked c) : c = '\ufe0f' := by
  unfold asked at h
  split at h
  · next hc => rw [← Char.ofNat_toNat c, hc]
  · split at h
    · cases h
    · split at h <;> cases h

theorem asked_eq_quotation {c : Char} (h : .quotation = asked c) : c = '\ufe01' := by
  unfold asked at h
  split at h
  · cases h
  · split at h
    · cases h
    · split at h
      · next hc => rw [← Char.ofNat_toNat c, hc]
      · cases h

/-- Characters without a control, other than those that end lines or set tabs, and with no selector
next to one that it makes wider. -/
structure Steady (S : Char → Prop) : Prop where
  control : ∀ c, S c → isControl c = true → c = '\n' ∨ c = '\r' ∨ c = '\t'
  emoji : S '\ufe0f' → ∀ c, S c → within emojiOnRequest c = true → 2 ≤ own c
  quotation : S '\ufe01' → ∀ c, S c → isQuotation c = false

theorem Steady.or_space {S : Char → Prop} (h : Steady S) : Steady fun c => S c ∨ c = ' ' := by
  constructor
  · rintro c (hc | rfl) hcontrol
    · exact h.control c hc hcontrol
    · exact absurd hcontrol (by decide)
  · rintro (hselector | hselector) c (hc | rfl) hwithin
    · exact h.emoji hselector c hc hwithin
    · exact absurd hwithin (Bool.eq_false_iff.1 not_emojiOnRequest_space)
    · exact absurd hselector (by decide)
    · exact absurd hselector (by decide)
  · rintro (hselector | hselector) c (hc | rfl)
    · exact h.quotation hselector c hc
    · rfl
    · exact absurd hselector (by decide)
    · rfl

section Steady

variable {S : Char → Prop} {cs : List Char}

theorem scan_style (hcs : ∀ c ∈ cs, S c) :
    (scan cs).2.style = .unset ∨ ∃ c, S c ∧ (scan cs).2.style = asked c := by
  cases cs with
  | nil => exact .inl rfl
  | cons c cs =>
      rw [scan_cons]
      rcases step_cases c (scan cs).2 with ⟨_, _, hstep⟩ | ⟨_, _, hstep⟩ | hfair
      · exact .inl (congrArg (·.2.style) hstep)
      · exact .inl (congrArg (·.2.style) hstep)
      · rcases hfair.asks with hunset | hasked
        · exact .inl hunset
        · exact .inr ⟨c, hcs c (List.mem_cons_self ..), hasked⟩

theorem Steady.scan_le (hS : Steady S) (hcs : ∀ c ∈ cs, S c ∧ isControl c = false) :
    (scan cs).1 + spare (scan cs).2.tail ≤ ownSum cs := by
  induction cs with
  | nil => decide
  | cons c cs ih =>
      have hrest : ∀ d ∈ cs, S d ∧ isControl d = false := fun d hd => hcs d (.tail c hd)
      obtain ⟨hc, hcontrol⟩ := hcs c (List.mem_cons_self ..)
      have ih := ih hrest
      have hspare := spare_nonneg (scan cs).2.tail
      have hstyle := scan_style (S := S) fun d hd => (hrest d hd).1
      rw [scan_cons, ownSum]
      rcases step_cases c (scan cs).2 with
        ⟨hemoji, hwithin, hstep⟩ | ⟨hquotation, hwithin, hstep⟩ | hfair
      · -- behind a selector for emoji no character is made wider
        rw [hemoji] at hstyle
        rcases hstyle with hunset | ⟨d, hd, hasked⟩
        · cases hunset
        have hown := hS.emoji (asked_eq_emoji hasked ▸ hd) c hc hwithin
        rw [hstep]
        push_cast
        show (scan cs).1 + (if (scan cs).2.joinsEmoji then 0 else 2) + 0 ≤
          (own c : Int) + ownSum cs
        split <;> omega
      · rw [hquotation] at hstyle
        rcases hstyle with hunset | ⟨d, hd, hasked⟩
        · cases hunset
        have hnot := hS.quotation (asked_eq_quotation hasked ▸ hd) c hc
        rw [hnot] at hwithin
        cases hwithin
      · have hcosts := hfair.costs hcontrol
        push_cast
        show (scan cs).1 + (step c (scan cs).2).1 + spare (step c (scan cs).2).2.tail ≤
          (own c : Int) + ownSum cs
        omega

/-- A text without controls takes no more columns than its characters by themselves. -/
theorem Steady.ofChars_le (hS : Steady S) (hcs : ∀ c ∈ cs, S c ∧ isControl c = false) :
    ofChars cs ≤ ownSum cs := by
  have hscan := hS.scan_le hcs
  have hspare := spare_nonneg (scan cs).2.tail
  have heq := ofChars_eq cs
  omega

end Steady

end Sluice.Text.Width
