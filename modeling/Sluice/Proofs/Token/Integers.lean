import Mathlib.Data.List.TakeWhile
import Mathlib.Data.Nat.Digits.Defs
import Sluice.Proofs.Token.Templates
import Sluice.Proofs.Token.Words
import Sluice.Program.Build
import Sluice.Resolve
import Sluice.Tree.Parser

/-!
# Whole numbers on a line

An optional `-` and decimal digits are a number wherever they stand as a word
(`classify_integer`). Up to `2 ^ 63 - 1` the token keeps the integer; from `2 ^ 63` on it holds a
double, whose value is the nearest multiple of 2048 (`Double.toInt?_ofNat`), so that the integer
comes through if and only if it is such a multiple (`tokenize_integer`).
-/

namespace Sluice

/-! ## Doubles beyond the signed words -/

namespace Double

variable {e f q : Nat}

theorem toNat_ofFields (he : e < 2048) (hf : f < 0x10000000000000) :
    (ofFields false e f).bits.toNat = e * 0x10000000000000 + f := by
  unfold ofFields
  rw [if_neg Bool.false_ne_true, Nat.zero_add, UInt64.toNat_ofNat']
  apply Nat.mod_eq_of_lt
  omega

theorem exponentBits_ofFields (he : e < 2048) (hf : f < 0x10000000000000) :
    (ofFields false e f).exponentBits = e := by
  unfold exponentBits
  rw [UInt64.toNat_shiftRight, toNat_ofFields he hf]
  change (e * 0x10000000000000 + f) >>> 52 % 2048 = e
  rw [Nat.shiftRight_eq_div_pow]
  omega

theorem fractionBits_ofFields (he : e < 2048) (hf : f < 0x10000000000000) :
    (ofFields false e f).fractionBits = f := by
  unfold fractionBits
  rw [toNat_ofFields he hf]
  omega

theorem isNegative_ofFields (he : e < 2048) (hf : f < 0x10000000000000) :
    (ofFields false e f).isNegative = false := by
  unfold isNegative
  rw [toNat_ofFields he hf, beq_eq_false_iff_ne]
  omega

/-- A double without a fraction is its mantissa times a power of two. -/
theorem toInt?_ofFields (hpos : 1075 ≤ e) (he : e < 2047) (hf : f < 0x10000000000000) :
    (ofFields false e f).isFinite = true ∧
      (ofFields false e f).toInt? = some (((0x10000000000000 + f) * 2 ^ (e - 1075) : Nat) : Int) := by
  have hbits := exponentBits_ofFields (show e < 2048 by omega) hf
  have hmantissa : (ofFields false e f).mantissa = 0x10000000000000 + f := by
    unfold mantissa
    rw [hbits, if_neg (by omega), fractionBits_ofFields (by omega) hf]
  have hexponent : (ofFields false e f).exponent = ((e - 1075 : Nat) : Int) := by
    unfold exponent
    rw [hbits, if_neg (by omega)]
    omega
  have hratio : (ofFields false e f).ratio = ((0x10000000000000 + f) * 2 ^ (e - 1075), 1) := by
    unfold ratio
    rw [hmantissa, hexponent, Int.toNat_natCast, Int.toNat_of_nonpos (by omega)]
    rfl
  have hfinite : (ofFields false e f).isFinite = true := by
    unfold isFinite
    rw [hbits]
    simpa using Nat.ne_of_lt he
  refine ⟨hfinite, ?_⟩
  unfold toInt?
  rw [hratio, hfinite, isNegative_ofFields (by omega) hf]
  dsimp only
  rw [Nat.mod_one, Nat.div_one]
  rfl

/-- A quotient of 53 bits in units of 2048, or the next power of two. -/
theorem toInt?_ofScaled (hlo : 0x10000000000000 ≤ q) (hhi : q ≤ 0x20000000000000) :
    (ofScaled false q 11).isFinite = true ∧
      (ofScaled false q 11).toInt? = some ((2048 * q : Nat) : Int) := by
  unfold ofScaled
  by_cases hq : q = 0x20000000000000
  · subst hq
    exact toInt?_ofFields (e := 1087) (f := 0) (by decide) (by decide) (by decide)
  · rw [if_neg hq]
    dsimp only
    rw [if_neg (by omega), if_neg (by decide)]
    have h := toInt?_ofFields (e := 1086) (f := q - 0x10000000000000) (by decide) (by decide) (by omega)
    rw [Nat.add_sub_cancel' hlo, Nat.mul_comm] at h
    exact h

/-- The multiple `step * m` is nearest to `v`, and `m` is even where another one is as near. -/
structure Nearest (step v m : Int) : Prop where
  near : ∀ k : Int, (step * m - v).natAbs ≤ (step * k - v).natAbs
  even : ∀ k : Int, k ≠ m → (step * k - v).natAbs = (step * m - v).natAbs → m % 2 = 0

theorem nearest_roundDiv (n : Nat) : Nearest 2048 n (roundDiv n 2048) := by
  unfold roundDiv
  dsimp only
  constructor
  · intro k
    split_ifs <;> omega
  · intro k hk heq
    split_ifs at hk heq ⊢ <;> omega

theorem Nearest.eq_iff {v m : Int} (h : Nearest 2048 v m) : 2048 * m = v ↔ 2048 ∣ v := by
  constructor
  · rintro rfl
    exact Int.dvd_mul_right 2048 m
  · rintro ⟨k, rfl⟩
    have hnear := h.near k
    omega

variable {n : Nat}

theorem ofNat_eq_ofScaled (hlo : 0x8000000000000000 ≤ n) (hhi : n < 0x10000000000000000) :
    ofNat n = ofScaled false (roundDiv n 2048) 11 := by
  have hlog : Nat.log2 n = 63 := (Nat.log2_eq_iff (by omega)).2 ⟨hlo, hhi⟩
  have hlog' : Nat.log2 1 = 0 := by decide
  unfold ofNat ofRatio
  rw [if_neg (by omega), hlog, hlog']
  have hsmall : ¬ n * Nat.pow 2 (-(((63 : Nat) : Int) - ((0 : Nat) : Int) - 52)).toNat <
      0x10000000000000 * (1 * Nat.pow 2 (((63 : Nat) : Int) - ((0 : Nat) : Int) - 52).toNat) := by
    change ¬ n * 1 < 0x10000000000000 * (1 * 2048)
    omega
  dsimp only
  rw [if_neg hsmall]
  change ofScaled false (roundDiv (n * 1) (1 * 2048)) 11 = _
  rw [Nat.mul_one, Nat.one_mul]

/-- Between `2 ^ 63` and `2 ^ 64` doubles are 2048 apart. -/
theorem toInt?_ofNat (hlo : 0x8000000000000000 ≤ n) (hhi : n < 0x10000000000000000) :
    (ofNat n).isFinite = true ∧
      ∃ m, Nearest 2048 n m ∧ (ofNat n).toInt? = some (2048 * m) := by
  have hbounds : 0x10000000000000 ≤ roundDiv n 2048 ∧ roundDiv n 2048 ≤ 0x20000000000000 := by
    unfold roundDiv
    dsimp only
    split_ifs <;> omega
  obtain ⟨hfinite, hvalue⟩ := toInt?_ofScaled hbounds.1 hbounds.2
  rw [ofNat_eq_ofScaled hlo hhi]
  exact ⟨hfinite, roundDiv n 2048, nearest_roundDiv n, hvalue⟩

theorem ofDecimal_eq_ofNat (hlo : n ≠ 0) (hhi : n < 0x10000000000000000) :
    ofDecimal false n 0 = ofNat n := by
  have hlength : (Nat.toDigits 10 n).length ≤ 20 := by
    apply Nat.toDigits_length
    · decide
    · omega
  unfold ofDecimal
  dsimp only
  rw [if_neg (by simp; omega), if_neg (by omega)]
  change ofRatio false (n * 1) 1 = _
  rw [Nat.mul_one]
  rfl

end Double

namespace Numeral

/-! ## Words of digits -/

/-- An optional `-` and decimal digits, with the integer that they write. -/
inductive Writes : List Char → Int → Prop where
  | plain {ds : List Char} :
      ds ≠ [] → (∀ d ∈ ds, Text.isDigit d = true) → Writes ds (Nat.ofDigitChars 10 ds 0)
  | negative {ds : List Char} :
      ds ≠ [] → (∀ d ∈ ds, Text.isDigit d = true) → Writes ('-' :: ds) (-Nat.ofDigitChars 10 ds 0)

theorem ofDigits_eq (ds : List Char) : ofDigits ds = Nat.ofDigitChars 10 ds 0 := by
  unfold ofDigits Nat.ofDigitChars
  congr 1
  funext n d
  rw [Nat.mul_comm]
  rfl

theorem ne_of_isDigit {c d : Char} (hc : Text.isDigit c = true) (hd : Text.isDigit d = false) :
    c ≠ d := by
  rintro rfl
  exact Bool.false_ne_true (hd.symm.trans hc)

theorem all_isDigit {ds : List Char} (h : ∀ d ∈ ds, Text.isDigit d = true) :
    ds.all Text.isDigit = true :=
  List.all_eq_true.2 h

/-- Digits alone are a decimal without fraction and exponent. -/
theorem decimal?_digits (negative : Bool) {ds : List Char} (h : ∀ d ∈ ds, Text.isDigit d = true) :
    decimal? negative ds = some (Double.ofDecimal negative (ofDigits ds) 0) := by
  have htake : ds.takeWhile Text.isDigit = ds := List.takeWhile_eq_self_iff.2 h
  have hdrop : ds.dropWhile Text.isDigit = [] := List.dropWhile_eq_nil_iff.2 h
  unfold decimal?
  rw [htake, hdrop]
  dsimp only
  rw [List.append_nil]
  rfl

section Signed

variable {ds : List Char} {v : Int}

/-- The digits of a word behind its sign. -/
theorem read?_signed (negative : Bool) (hne : ds ≠ []) (h : ∀ d ∈ ds, Text.isDigit d = true)
    (hv : (if negative then -(Nat.ofDigitChars 10 ds 0 : Int) else Nat.ofDigitChars 10 ds 0) = v) :
    read? (if negative then '-' :: ds else ds) =
      if -0x8000000000000000 ≤ v ∧ v < 0x8000000000000000 then Number.ofInt? v
      else Number.ofDouble? (Double.ofDecimal negative (Nat.ofDigitChars 10 ds 0) 0) := by
  obtain ⟨d, ds, rfl⟩ := List.exists_cons_of_ne_nil hne
  have hhead : Text.isDigit d = true := h d List.mem_cons_self
  have hlast : ¬ (d :: ds).getLast? = some '.' := by
    intro hlast
    have hpoint := h '.' (List.mem_of_getLast? hlast)
    cases hpoint
  unfold read?
  split
  next negative' body heq =>
  obtain ⟨rfl, rfl⟩ : negative = negative' ∧ d :: ds = body := by
    cases negative with
    | true => exact Prod.mk.inj heq
    | false =>
        rw [if_neg Bool.false_ne_true] at heq
        split at heq
        · next hcons => exact absurd (List.cons.inj hcons).1 (ne_of_isDigit hhead rfl)
        · exact Prod.mk.inj heq
  dsimp only
  rw [all_isDigit h, decimal?_digits negative h, if_neg (by simp [hhead]), if_neg hlast, ofDigits_eq,
    hv]
  simp

/-- An integer that fits a signed word is read as it stands. -/
theorem read?_exact (negative : Bool) (hne : ds ≠ []) (h : ∀ d ∈ ds, Text.isDigit d = true)
    (hv : (if negative then -(Nat.ofDigitChars 10 ds 0 : Int) else Nat.ofDigitChars 10 ds 0) = v)
    (hlo : -0x8000000000000000 ≤ v) (hhi : v < 0x8000000000000000) (fits : FitsWord v) :
    read? (if negative then '-' :: ds else ds) = some (.int v fits) := by
  rw [read?_signed negative hne h hv, if_pos ⟨hlo, hhi⟩, Number.ofInt?, dif_pos fits]

/-- A larger one is read as a double. -/
theorem read?_rounded (hne : ds ≠ []) (h : ∀ d ∈ ds, Text.isDigit d = true)
    (hlo : 0x8000000000000000 ≤ Nat.ofDigitChars 10 ds 0)
    (hhi : Nat.ofDigitChars 10 ds 0 < 0x10000000000000000)
    (finite : (Double.ofNat (Nat.ofDigitChars 10 ds 0)).isFinite = true) :
    read? ds = some (.double _ finite) := by
  have hlarge : ¬ (-0x8000000000000000 ≤ (Nat.ofDigitChars 10 ds 0 : Int) ∧
      (Nat.ofDigitChars 10 ds 0 : Int) < 0x8000000000000000) := by omega
  have hread := read?_signed false hne h rfl
  rw [if_neg Bool.false_ne_true, if_neg Bool.false_ne_true, if_neg hlarge,
    Double.ofDecimal_eq_ofNat (by omega) hhi, Number.ofDouble?, dif_pos finite] at hread
  exact hread

end Signed

end Numeral

/-! ## The numbers that they become -/

def Number.toInt? : Number → Option Int
  | .int v _ => some v
  | .double d _ => d.toInt?

/-- The number that an integer becomes on a line: itself, or from `2 ^ 63` on a double. -/
inductive Number.Typed (v : Int) : Number → Prop where
  | exact (fits : FitsWord v) : v < 0x8000000000000000 → Typed v (.int v fits)
  | rounded {d : Double} {m : Int} (finite : d.isFinite = true) :
      0x8000000000000000 ≤ v → Double.Nearest 2048 v m → d.toInt? = some (2048 * m) →
        Typed v (.double d finite)

theorem Number.Typed.toInt?_iff {v : Int} {n : Number} (h : n.Typed v) :
    n.toInt? = some v ↔ v < 0x8000000000000000 ∨ 2048 ∣ v := by
  cases h with
  | exact _ hlt => exact iff_of_true rfl (.inl hlt)
  | rounded _ hle hnearest hvalue =>
      change Double.toInt? _ = some v ↔ _
      rw [hvalue, Option.some.injEq, hnearest.eq_iff]
      constructor
      · exact .inr
      · rintro (hlt | hdvd)
        · omega
        · exact hdvd

theorem Numeral.Writes.read? {word : List Char} {v : Int} (h : Writes word v) (hv : FitsWord v) :
    ∃ n, Numeral.read? word = some n ∧ n.Typed v := by
  obtain ⟨hlo, hhi⟩ := id hv
  cases h with
  | plain hne hds =>
      by_cases hlt : (Nat.ofDigitChars 10 word 0 : Int) < 0x8000000000000000
      · exact ⟨_, read?_exact false hne hds rfl hlo hlt hv, .exact hv hlt⟩
      · have hle : 0x8000000000000000 ≤ Nat.ofDigitChars 10 word 0 := by omega
        have hlt' : Nat.ofDigitChars 10 word 0 < 0x10000000000000000 := by omega
        obtain ⟨hfinite, m, hnearest, hvalue⟩ := Double.toInt?_ofNat hle hlt'
        exact ⟨_, read?_rounded hne hds hle hlt' hfinite,
          .rounded hfinite (by omega) hnearest hvalue⟩
  | @negative ds hne hds =>
      have hlt : -(Nat.ofDigitChars 10 ds 0 : Int) < 0x8000000000000000 := by omega
      exact ⟨_, read?_exact true hne hds rfl hlo hlt hv, .exact hv hlt⟩

namespace Token

theorem classify_integer {word : List Char} {v : Int} (h : Numeral.Writes word v)
    (hv : FitsWord v) : ∃ n, classify word = .ok (.number n) ∧ n.Typed v := by
  obtain ⟨n, hread, htyped⟩ := h.read? hv
  refine ⟨n, ?_, htyped⟩
  unfold classify
  split
  · -- behind the `-` there are digits
    cases h with
    | plain _ hds =>
        have hdash := hds '-' List.mem_cons_self
        cases hdash
    | negative _ hds =>
        have hdash := hds '-' List.mem_cons_self
        cases hdash
  · rw [hread]

/-! ## In a text -/

theorem isNameChar_of_isDigit {c : Char} (h : Text.isDigit c = true) : isNameChar c = true := by
  simp [isNameChar, h]

/-- The characters of such a word. -/
theorem chars_of_writes {word : List Char} {v : Int} (h : Numeral.Writes word v) :
    ∃ c cs, word = c :: cs ∧ ∀ d ∈ c :: cs, isNameChar d = true ∨ d = '-' := by
  cases h with
  | plain hne hds =>
      obtain ⟨c, cs, rfl⟩ := List.exists_cons_of_ne_nil hne
      exact ⟨c, cs, rfl, fun d hd => .inl (isNameChar_of_isDigit (hds d hd))⟩
  | @negative ds _ hds =>
      refine ⟨'-', ds, rfl, List.forall_mem_cons.2 ⟨.inr rfl, fun d hd => ?_⟩⟩
      exact .inl (isNameChar_of_isDigit (hds d hd))

theorem stopsWord_dash (inList : Bool) : stopsWord inList '-' = false := by
  cases inList <;> rfl

/-- Wherever such a word stands, it is one lexeme. -/
theorem lexes_integer {word : List Char} {v : Int} (h : Numeral.Writes word v) {n : Number}
    (hn : classify word = .ok (.number n)) {inList : Bool} {rest : List Char}
    (hrest : ∀ c ∈ rest.head?, stopsWord inList c = true) :
    Lexes inList (word ++ rest) (.number n) word rest := by
  obtain ⟨c, cs, rfl, hchars⟩ := chars_of_writes h
  refine lexes_plain (fun d hd => ?_) ?_ hrest hn
  · rcases hchars d hd with hname | rfl
    · exact ⟨stopsWord_of_isNameChar inList hname, ne_of_isNameChar hname rfl⟩
    · exact ⟨stopsWord_dash inList, by decide⟩
  · rcases hchars c List.mem_cons_self with hname | rfl
    · exact ne_of_isNameChar hname rfl
    · decide

/-- A token that spells such a word has been read as one. -/
theorem Takes.kind_of_writes {p q : Place} {t : Token} (ht : Takes p t q) {v : Int}
    (h : Numeral.Writes t.text.toList v) {n : Number}
    (hn : classify t.text.toList = .ok (.number n)) : t.kind = .number n := by
  obtain @⟨skipped, cs, taken, rest, kind, -, hlexes⟩ := ht
  have htext : (p.tokenOf skipped taken kind).text.toList = taken := String.toList_ofList
  rw [htext] at h hn
  -- the signs and quotes are neither digits nor `-`
  obtain ⟨c, word, hword, hchars⟩ := chars_of_writes h
  have hc := hchars c List.mem_cons_self
  cases hlexes with
  | word _ _ hkind =>
      rw [hkind] at hn
      exact Except.ok.inj hn
  | quoted hquote _ =>
      obtain ⟨rfl, -⟩ := List.cons.inj hword
      rcases hquote with rfl | rfl <;> simp [isNameChar, Text.isLetter, Text.isDigit] at hc
  | _ =>
      obtain ⟨rfl, -⟩ := List.cons.inj hword
      simp [isNameChar, Text.isLetter, Text.isDigit] at hc

theorem kind_of_writes {source : String} {ts : List Token} (htokens : tokenize source = .ok ts)
    {t : Token} (ht : t ∈ ts) {v : Int} (h : Numeral.Writes t.text.toList v) {n : Number}
    (hn : classify t.text.toList = .ok (.number n)) : t.kind = .number n := by
  obtain ⟨us, q, stop, hreads, -, rfl⟩ :=
    (Place.tokens_eq_ok_iff (p := .start source.toList)).1 htokens
  rcases List.mem_append.1 ht with ht | ht
  · obtain ⟨before, p, q, -, htakes⟩ := hreads.takes_of_mem ht
    exact htakes.kind_of_writes h hn
  · -- the end mark spells nothing
    obtain rfl := List.mem_singleton.1 ht
    obtain ⟨c, cs, hword, -⟩ := chars_of_writes h
    cases hword

end Token

/-- A number as an argument is itself, and templates change nothing about it. -/
theorem Tree.resolve_operand_number {t : Token} {n : Number} (h : t.kind = .number n) (s : Session) :
    (operand t).value.resolve s = .ok (.num n) := by
  unfold operand
  rw [h]
  rfl

/-- An optional `-` and digits become one number wherever they stand as a word, and this number is
what commands get as an argument. Below `2 ^ 63` it is the integer that is written; beyond, it is the
nearest double, which is that integer only if 2048 divides it. -/
theorem tokenize_integer {word : List Char} {v : Int} (hword : Numeral.Writes word v)
    (hv : FitsWord v) :
    ∃ n : Number, n.Typed v ∧ (n.toInt? = some v ↔ v < 0x8000000000000000 ∨ 2048 ∣ v) ∧
      (∀ (inList : Bool) (rest : List Char), (∀ c ∈ rest.head?, Token.stopsWord inList c = true) →
        Token.Lexes inList (word ++ rest) (.number n) word rest) ∧
      (∀ (source : String) (ts : List Token), tokenize source = .ok ts →
        ∀ t ∈ ts, t.text.toList = word → t.kind = .number n) ∧
      ∀ t : Token, t.kind = .number n → ∀ s : Session,
        (Tree.operand t).value.resolve s = .ok (.num n) := by
  obtain ⟨n, hkind, htyped⟩ := Token.classify_integer hword hv
  refine ⟨n, htyped, htyped.toInt?_iff, ?_, ?_, ?_⟩
  · intro inList rest hrest
    exact Token.lexes_integer hword hkind hrest
  · intro source ts htokens t ht htext
    subst htext
    exact Token.kind_of_writes htokens ht hword hkind
  · intro t ht s
    exact Tree.resolve_operand_number ht s

/-- The largest integer that a value holds, as an argument of an action. -/
def largestArgument : String := "api.find(id=18446744073709551615)"

theorem tokenize_integer_largestArgument :
    Numeral.Writes "18446744073709551615".toList 0xffffffffffffffff ∧
      FitsWord 0xffffffffffffffff ∧
      ∃ n : Number, n.Typed 0xffffffffffffffff ∧ n.toInt? = some 0x10000000000000000 ∧
        ∃ ts, tokenize largestArgument = .ok ts ∧
          ∃ t ∈ ts, t.text = "18446744073709551615" ∧ t.kind = .number n ∧
            (Tree.operand t).value.resolve ⟨[], [], none⟩ = .ok (.num n) := by
  have hword : Numeral.Writes "18446744073709551615".toList 0xffffffffffffffff :=
    .plain (by decide) (List.all_eq_true.1 (by decide))
  have hfits : FitsWord 0xffffffffffffffff := by decide
  let two64 : Number := .double ⟨0x43f0000000000000⟩ rfl
  let t : Token := ⟨.number two64, "18446744073709551615", ⟨12, 32⟩⟩
  have htokens : tokenize largestArgument = .ok [⟨.word "api.find", "api.find", ⟨0, 8⟩⟩,
      ⟨.openParen, "(", ⟨8, 9⟩⟩, ⟨.word "id", "id", ⟨9, 11⟩⟩, ⟨.equals, "=", ⟨11, 12⟩⟩, t,
      ⟨.closeParen, ")", ⟨32, 33⟩⟩, ⟨.finish, "", ⟨33, 33⟩⟩] :=
    eq_ok_of_toOption (by decide +kernel)
  obtain ⟨n, htyped, -, -, hkind, hargument⟩ := tokenize_integer hword hfits
  have hn := hkind _ _ htokens t (by simp) rfl
  obtain rfl : two64 = n := Token.Kind.number.inj hn
  exact ⟨hword, hfits, two64, htyped, by decide, _, htokens, t, by simp, rfl, rfl,
    hargument t rfl _⟩

end Sluice
