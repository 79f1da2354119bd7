import Sluice.Value.Reader
import Sluice.Value.Writer

/-!
# Numbers in JSON text

The text of a number is a sign and parts (`Parts`): digits, perhaps a point and digits, perhaps an
exponent. What a reader makes of the parts has nothing to do with what follows them
(`number_parts`), and the parts of an integer read as that integer (`Parts.value_ofInt`).
-/

namespace Sluice.Value.Reader

/-- What a step took from a text: its result and what it left. Why it failed is forgotten. -/
def taken {α : Type} {p : List Char → Prop} :
    Except Stop (α × { r : List Char // p r }) → Option (α × List Char)
  | .ok (a, r) => some (a, r.1)
  | .error _ => none

/-- No part of a number comes next. -/
def EndsNumber (rest : List Char) : Prop :=
  ∀ c ∈ rest.head?, c.isDigit = false ∧ c ≠ '.' ∧ c ≠ 'e' ∧ c ≠ 'E'

theorem endsNumber_nil : EndsNumber [] := by
  simp [EndsNumber]

def fractionChars : List Char → List Char
  | [] => []
  | ds => '.' :: ds

theorem fractionChars_of_ne_nil {ds : List Char} (h : ds ≠ []) : fractionChars ds = '.' :: ds := by
  cases ds with
  | nil => exact absurd rfl h
  | cons d ds => rfl

def exponentChars : Option (Bool × List Char) → List Char
  | none => []
  | some (negative, ds) => 'e' :: (if negative then '-' else '+') :: ds

/-- The text of a number behind its sign. -/
structure Parts where
  first : Char
  whole : List Char
  fraction : List Char
  /-- Whether it is negative, and its digits. -/
  exponent : Option (Bool × List Char)
  first_digit : first.isDigit = true
  whole_digits : ∀ c ∈ whole, c.isDigit = true
  fraction_digits : ∀ c ∈ fraction, c.isDigit = true
  exponent_digits : ∀ e ∈ exponent, e.2 ≠ [] ∧ ∀ c ∈ e.2, c.isDigit = true

namespace Parts

def chars (p : Parts) : List Char :=
  p.first :: (p.whole ++ (fractionChars p.fraction ++ exponentChars p.exponent))

def power (p : Parts) (vanishes : Bool) : Option (Option Int) :=
  match p.exponent with
  | none => some none
  | some (negative, ds) => (exponentValue negative vanishes [] 0 ds).toOption.map some

/-- The number that a reader takes from the parts. -/
def value (negative : Bool) (p : Parts) : Option Number :=
  if p.first = '0' ∧ p.whole ≠ [] then none
  else
    let (whole, dropped) := extend 0 (p.first :: p.whole)
    let (significand, lost) := extend whole p.fraction
    (p.power (significand == 0)).bind fun e =>
      match (if p.fraction.isEmpty && e.isNone && dropped == 0 then whole? negative significand
        else none) with
      | some n => some n
      | none =>
        (decimal negative significand (dropped - (p.fraction.length - lost : Nat) + e.getD 0)
          []).toOption

end Parts

/-! ## The reader on the parts -/

theorem digits_append {ds rest : List Char} (hds : ∀ c ∈ ds, c.isDigit = true)
    (hrest : ∀ c ∈ rest.head?, c.isDigit = false) :
    ∃ h, digits (ds ++ rest) = (ds, ⟨rest, h⟩) := by
  have hnone : rest.takeWhile Char.isDigit = [] ∧ rest.dropWhile Char.isDigit = rest := by
    cases rest with
    | nil => exact ⟨rfl, rfl⟩
    | cons c rest => simp [hrest c rfl]
  refine ⟨by simp, ?_⟩
  unfold digits
  refine Prod.ext ?_ (Subtype.ext ?_)
  · rw [List.takeWhile_append_of_pos hds, hnone.1, List.append_nil]
  · change (ds ++ rest).dropWhile Char.isDigit = rest
    rw [List.dropWhile_append_of_pos hds, hnone.2]

theorem fraction_append {ds rest : List Char} (hds : ∀ c ∈ ds, c.isDigit = true)
    (hrest : ∀ c ∈ rest.head?, c.isDigit = false ∧ c ≠ '.') :
    ∃ h, fraction (fractionChars ds ++ rest) = .ok (ds, ⟨rest, h⟩) := by
  cases ds with
  | nil =>
      refine ⟨by simp [fractionChars], ?_⟩
      cases rest with
      | nil => rfl
      | cons c rest =>
          have hc : c ≠ '.' := (hrest c rfl).2
          change fraction (c :: rest) = _
          rw [fraction]
          · rfl
          · intro after h
            exact hc (List.cons.inj h).1
  | cons d ds =>
      obtain ⟨h, hd⟩ := digits_append hds fun c hc => (hrest c hc).1
      refine ⟨by simp [fractionChars]; omega, ?_⟩
      change fraction ('.' :: (d :: ds ++ rest)) = _
      rw [fraction, hd]
      rfl

theorem toOption_exponentValue (negative vanishes : Bool) (cs cs' : List Char) (n : Nat)
    (ds : List Char) :
    (exponentValue negative vanishes cs n ds).toOption =
      (exponentValue negative vanishes cs' n ds).toOption := by
  induction ds generalizing cs cs' n with
  | nil => rfl
  | cons d ds ih =>
      simp only [exponentValue]
      split
      · exact ih _ _ _
      · split
        · rfl
        · split <;> rfl

theorem exponent_e (vanishes : Bool) {tail ds rest : List Char} (hne : ds ≠ [])
    (hd : ∃ h, digits (dropSign tail) = (ds, ⟨rest, h⟩)) :
    taken (exponent vanishes ('e' :: tail)) =
      ((exponentValue (tail.head? == some '-') vanishes [] 0 ds).toOption.map some).map (·, rest) := by
  obtain ⟨h, hd⟩ := hd
  rw [exponent, if_pos (Or.inl rfl)]
  dsimp only
  rw [hd]
  cases ds with
  | nil => exact absurd rfl hne
  | cons d ds =>
      dsimp only
      rw [toOption_exponentValue _ _ [] (dropSign tail)]
      cases exponentValue (tail.head? == some '-') vanishes (dropSign tail) 0 (d :: ds) <;> rfl

theorem exponent_append (vanishes : Bool) (p : Parts) {rest : List Char} (hrest : EndsNumber rest) :
    taken (exponent vanishes (exponentChars p.exponent ++ rest)) =
      (p.power vanishes).map (·, rest) := by
  have hdigits := p.exponent_digits
  unfold Parts.power
  cases he : p.exponent with
  | none =>
      cases rest with
      | nil => rfl
      | cons c rest =>
          obtain ⟨-, -, hc, hc'⟩ := hrest c rfl
          simp [exponentChars, exponent, hc, hc', taken, untouched]
  | some e =>
      obtain ⟨negative, ds⟩ := e
      obtain ⟨hne, hds⟩ := hdigits _ he
      have hd := digits_append hds fun c hc => (hrest c hc).1
      cases negative
      · exact exponent_e vanishes hne hd
      · exact exponent_e vanishes hne hd

theorem toOption_decimal (negative : Bool) (significand : Nat) (power : Int) (rest : List Char) :
    (decimal negative significand power rest).toOption =
      (decimal negative significand power []).toOption := by
  unfold decimal
  split <;> rfl

/-- Neither digit nor point stands behind the whole digits and the fraction. -/
theorem head?_exponentChars_append (p : Parts) {rest : List Char} (hrest : EndsNumber rest) :
    ∀ c ∈ (exponentChars p.exponent ++ rest).head?, c.isDigit = false ∧ c ≠ '.' := by
  intro c hc
  cases he : p.exponent with
  | none =>
      rw [he] at hc
      exact ⟨(hrest c hc).1, (hrest c hc).2.1⟩
  | some e =>
      rw [he] at hc
      cases hc
      decide

theorem head?_fractionChars_append (p : Parts) {rest : List Char} (hrest : EndsNumber rest) :
    ∀ c ∈ (fractionChars p.fraction ++ (exponentChars p.exponent ++ rest)).head?,
      c.isDigit = false := by
  intro c hc
  cases hf : p.fraction with
  | nil =>
      rw [hf] at hc
      exact (head?_exponentChars_append p hrest c hc).1
  | cons d ds =>
      rw [hf] at hc
      cases hc
      rfl

/-- What the reader makes of a number's text, whatever follows it. -/
theorem number_parts (negative : Bool) (p : Parts) {rest : List Char} (hrest : EndsNumber rest) :
    taken (number negative (p.chars ++ rest)) = (p.value negative).map (·, rest) := by
  have hexp := head?_exponentChars_append p hrest
  have hfrac := head?_fractionChars_append p hrest
  obtain ⟨h₁, hdigits⟩ := digits_append p.whole_digits hfrac
  obtain ⟨h₂, hfraction⟩ := fraction_append p.fraction_digits hexp
  have hzero : (p.whole ++ (fractionChars p.fraction ++ (exponentChars p.exponent ++ rest))).head?.any
      Char.isDigit = true ↔ p.whole ≠ [] := by
    cases hw : p.whole with
    | nil =>
        rw [List.nil_append]
        cases ht : (fractionChars p.fraction ++ (exponentChars p.exponent ++ rest)).head? with
        | none => simp
        | some c => simp [hfrac c ht]
    | cons d ds => simp [p.whole_digits d (hw ▸ List.mem_cons_self)]
  have hchars : p.chars ++ rest = p.first ::
      (p.whole ++ (fractionChars p.fraction ++ (exponentChars p.exponent ++ rest))) := by
    simp [Parts.chars]
  rw [hchars, number, if_neg (by simp [p.first_digit])]
  by_cases hlead : p.first = '0' ∧ p.whole ≠ []
  · rw [if_pos ⟨hlead.1, hzero.2 hlead.2⟩, Parts.value, if_pos hlead]
    rfl
  · rw [if_neg fun h => hlead ⟨h.1, hzero.1 h.2⟩, Parts.value, if_neg hlead, hdigits]
    dsimp only
    rw [hfraction]
    dsimp only [bind, Except.bind]
    generalize extend 0 (p.first :: p.whole) = integral
    generalize extend integral.1 p.fraction = read
    have hpower := exponent_append (read.1 == 0) p hrest
    cases he : exponent (read.1 == 0) (exponentChars p.exponent ++ rest) with
    | error stop =>
        rw [he] at hpower
        have hnone : p.power (read.1 == 0) = none := by
          simpa [taken] using hpower.symm
        rw [hnone]
        rfl
    | ok result =>
        obtain ⟨e, r, hr⟩ := result
        rw [he] at hpower
        obtain ⟨e', hsome, heq⟩ := Option.map_eq_some_iff.1 hpower.symm
        obtain ⟨rfl, rfl⟩ := Prod.mk.inj heq
        rw [hsome]
        dsimp only [Option.bind]
        generalize (if (p.fraction.isEmpty && e'.isNone && integral.2 == 0) = true
          then whole? negative read.1 else none) = exact
        cases exact with
        | some n => rfl
        | none =>
            dsimp only
            rw [← toOption_decimal _ _ _ rest]
            cases decimal negative read.1 (integral.2 - (p.fraction.length - read.2 : Nat) + e'.getD 0)
              rest <;> rfl

/-! ## Integers -/

theorem extend_toDigits {n : Nat} (hn : n < 0x10000000000000000) :
    extend 0 (Nat.toDigits 10 n) = (n, 0) := by
  suffices ∀ (ds : List Char) (m : Nat), Nat.ofDigitChars 10 ds m < 0x10000000000000000 →
      extend m ds = (Nat.ofDigitChars 10 ds m, 0) by
    have h := this (Nat.toDigits 10 n) 0
    rw [Nat.ofDigitChars_ten_toDigits] at h
    exact h hn
  intro ds
  induction ds with
  | nil =>
      intro m _
      rw [extend, Nat.ofDigitChars_nil]
  | cons d ds ih =>
      intro m hm
      rw [Nat.ofDigitChars_cons] at hm ⊢
      have hle : 10 * m + (d.toNat - '0'.toNat) ≤
          Nat.ofDigitChars 10 ds (10 * m + (d.toNat - '0'.toNat)) := by
        rw [Nat.ofDigitChars_eq_ofDigitChars_zero]
        exact Nat.le_trans (Nat.le_mul_of_pos_left _ (Nat.pow_pos (by decide))) (Nat.le_add_right _ _)
      have hnext : m * 10 + digitValue d = 10 * m + (d.toNat - '0'.toNat) := by
        rw [digitValue, Nat.mul_comm]
        rfl
      rw [extend, hnext, if_pos (Nat.lt_of_le_of_lt hle hm)]
      exact ih _ hm

theorem toDigits_lead {n : Nat} {cs : List Char} (h : Nat.toDigits 10 n = '0' :: cs) : cs = [] := by
  induction n using Nat.strongRecOn generalizing cs with
  | ind n ih =>
      rw [Nat.toDigits_eq_if (by decide)] at h
      split at h
      · exact (List.cons.inj h).2.symm
      · next hn =>
        cases hd : Nat.toDigits 10 (n / 10) with
        | nil => exact absurd hd Nat.toDigits_ne_nil
        | cons d ds =>
            rw [hd] at h
            obtain ⟨rfl, -⟩ := List.cons.inj h
            obtain rfl := ih (n / 10) (by omega) hd
            have hzero : n / 10 = 0 := by
              rw [← Nat.ofDigitChars_ten_toDigits (n := n / 10), hd]
              rfl
            omega

theorem isDigit_of_mem_decimalDigits {n : Nat} {c : Char} (h : c ∈ decimalDigits n) :
    c.isDigit = true :=
  Nat.isDigit_of_mem_toDigits (by decide) (by decide) h

/-- A natural number's digits are parts of a number, and are read as that number. -/
theorem exists_parts_decimalDigits (n : Nat) :
    ∃ p : Parts, p.chars = decimalDigits n ∧
      ∀ negative m, n < 0x10000000000000000 → whole? negative n = some m →
        p.value negative = some m := by
  cases hd : decimalDigits n with
  | nil => exact absurd hd Nat.toDigits_ne_nil
  | cons d ds =>
      have hdigit : ∀ c ∈ d :: ds, c.isDigit = true := fun c hc =>
        isDigit_of_mem_decimalDigits (n := n) (hd ▸ hc)
      refine ⟨⟨d, ds, [], none, hdigit d List.mem_cons_self,
        fun c hc => hdigit c (List.mem_cons_of_mem d hc), nofun, nofun⟩, ?_, ?_⟩
      · simp [Parts.chars, fractionChars, exponentChars]
      · intro negative m hn hm
        have hlead : ¬ (d = '0' ∧ ds ≠ []) := by
          rintro ⟨rfl, hne⟩
          exact hne (toDigits_lead hd)
        have hextend : extend 0 (d :: ds) = (n, 0) := hd ▸ extend_toDigits hn
        rw [Parts.value, if_neg hlead, hextend]
        simp [extend, Parts.power, hm]

/-! ## The parts of a number's text -/

/-- The sign in front of parts. -/
def signed (negative : Bool) (cs : List Char) : List Char :=
  if negative then '-' :: cs else cs

theorem exists_parts_withPoint {d : Char} {ds : List Char} (hds : ∀ c ∈ d :: ds, c.isDigit = true)
    (k : Int) : ∃ p : Parts, p.chars = Double.withPoint (d :: ds) k := by
  have hzeros : ∀ (m : Nat) c, c ∈ List.replicate m '0' → c.isDigit = true := by
    intro m c hc
    rw [List.eq_of_mem_replicate hc]
    rfl
  unfold Double.withPoint
  split
  · -- zeros stand behind the point
    refine ⟨⟨'0', [], List.replicate (-k).toNat '0' ++ d :: ds, none, rfl, nofun, ?_, nofun⟩, ?_⟩
    · intro c hc
      rcases List.mem_append.1 hc with hc | hc
      · exact hzeros _ c hc
      · exact hds c hc
    · have hne : List.replicate (-k).toNat '0' ++ d :: ds ≠ [] := by simp
      simp [Parts.chars, fractionChars_of_ne_nil hne, exponentChars]
  · split
    · -- the point stands among the digits
      next hk hlt =>
      obtain ⟨m, hm⟩ : ∃ m, k.toNat = m + 1 := ⟨k.toNat - 1, by omega⟩
      rw [hm]
      cases hrest : ds.drop m with
      | nil =>
          have := List.drop_eq_nil_iff.1 hrest
          simp at hlt
          omega
      | cons f fs =>
          refine ⟨⟨d, ds.take m, f :: fs, none, hds d List.mem_cons_self, ?_, ?_, nofun⟩, ?_⟩
          · exact fun c hc => hds c (List.mem_cons_of_mem d (List.mem_of_mem_take hc))
          · exact fun c hc => hds c (List.mem_cons_of_mem d (List.mem_of_mem_drop (hrest ▸ hc)))
          · simp [Parts.chars, fractionChars, exponentChars, hrest]
    · -- zeros fill up to the point
      refine ⟨⟨d, ds ++ List.replicate (k.toNat - (d :: ds).length) '0', ['0'], none,
        hds d List.mem_cons_self, ?_, List.forall_mem_singleton.2 rfl, nofun⟩, ?_⟩
      · intro c hc
        rcases List.mem_append.1 hc with hc | hc
        · exact hds c (List.mem_cons_of_mem d hc)
        · exact hzeros _ c hc
      · simp [Parts.chars, fractionChars, exponentChars]

theorem exists_parts_scientific {d : Char} {ds : List Char} (hds : ∀ c ∈ d :: ds, c.isDigit = true)
    (e : Int) : ∃ p : Parts, p.chars = Double.scientific (d :: ds) e := by
  refine ⟨⟨d, [], ds, some (decide (e < 0), decimalDigits e.natAbs), hds d List.mem_cons_self,
    nofun, fun c hc => hds c (List.mem_cons_of_mem d hc), ?_⟩, ?_⟩
  · rintro _ ⟨⟩
    exact ⟨Nat.toDigits_ne_nil, fun c hc => isDigit_of_mem_decimalDigits hc⟩
  · cases ds <;> simp [Parts.chars, fractionChars, exponentChars, Double.scientific]

theorem exists_parts_double (layout : Double.Layout) (d : Double) :
    ∃ negative, ∃ p : Parts, d.chars layout = signed negative p.chars := by
  refine ⟨d.isNegative, ?_⟩
  unfold Double.chars
  by_cases hzero : d.mantissa = 0
  · refine ⟨⟨'0', [], ['0'], none, rfl, nofun, List.forall_mem_singleton.2 rfl, nofun⟩, ?_⟩
    rw [if_pos hzero]
    rfl
  · rw [if_neg hzero]
    dsimp only
    cases hd : decimalDigits d.shortest.digits with
    | nil => exact absurd hd Nat.toDigits_ne_nil
    | cons c cs =>
        have hdigits : ∀ x ∈ c :: cs, x.isDigit = true := fun x hx =>
          isDigit_of_mem_decimalDigits (hd ▸ hx)
        generalize d.shortest.power + (c :: cs).length - 1 = e
        by_cases hplain : (layout.leastPlain ≤ e && e ≤ layout.greatestPlain) = true
        · obtain ⟨p, hp⟩ := exists_parts_withPoint hdigits (e + 1)
          exact ⟨p, by rw [hp, if_pos hplain, signed]⟩
        · obtain ⟨p, hp⟩ := exists_parts_scientific hdigits e
          exact ⟨p, by rw [hp, if_neg hplain, signed]⟩

theorem ofInt?_eq {i j : Int} (h : FitsWord i) (hj : j = i) : Number.ofInt? j = some (.int i h) := by
  subst hj
  exact dif_pos h

/-- The text of a number is a sign and parts, which are read as the number itself if it is an
integer. -/
theorem exists_parts_number (n : Number) :
    ∃ negative, ∃ p : Parts, n.chars = signed negative p.chars ∧
      ∀ i h, n = .int i h → p.value negative = some n := by
  cases n with
  | double d h =>
      obtain ⟨negative, p, hp⟩ := exists_parts_double Double.jsonLayout d
      refine ⟨negative, p, hp, ?_⟩
      rintro _ _ ⟨⟩
  | int i h =>
      obtain ⟨p, hp, hvalue⟩ := exists_parts_decimalDigits i.natAbs
      unfold FitsWord at h
      refine ⟨decide (i < 0), p, ?_, ?_⟩
      · rw [hp]
        by_cases hi : i < 0 <;> simp [Number.chars, intChars, signed, hi]
      · rintro _ _ ⟨⟩
        refine hvalue _ _ (by omega) ?_
        unfold whole?
        by_cases hi : i < 0
        · rw [decide_eq_true hi, if_pos rfl, if_neg (by omega)]
          exact ofInt?_eq h (by omega)
        · rw [decide_eq_false hi, if_neg Bool.false_ne_true]
          exact ofInt?_eq h (by omega)

end Sluice.Value.Reader
