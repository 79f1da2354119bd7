import Sluice.Proofs.Value.Numerals

/-!
# Strings in JSON text

The text of a string is read back as the string (`stringBody_quoted`), character by character.
-/

namespace Sluice.Value.Reader

theorem hexValue?_hexDigit : ∀ n < 16, hexValue? (hexDigit n) = some n := by
  decide

theorem hexFour_control {n : Nat} (hn : n < 0x20) (rest : List Char) :
    ∃ h, hexFour ('0' :: '0' :: hexDigit (n / 16) :: hexDigit (n % 16) :: rest) =
      .ok (n, ⟨rest, h⟩) := by
  refine ⟨by simp; omega, ?_⟩
  have hzero : hexValue? '0' = some 0 := rfl
  rw [hexFour]
  simp only [hzero, hexValue?_hexDigit (n / 16) (by omega), hexValue?_hexDigit (n % 16) (by omega)]
  congr 2
  omega

theorem escape_control {c : Char} (hc : c.toNat < 0x20) (rest : List Char) :
    ∃ h, escape ('u' :: '0' :: '0' :: hexDigit (c.toNat / 16) :: hexDigit (c.toNat % 16) :: rest) =
      .ok (c, ⟨rest, h⟩) := by
  obtain ⟨h, hfour⟩ := hexFour_control hc rest
  refine ⟨by simp; omega, ?_⟩
  have hlow : ¬ (0xdc00 ≤ c.toNat ∧ c.toNat ≤ 0xdfff) := by omega
  have hhigh : c.toNat < 0xd800 ∨ 0xdbff < c.toNat := by omega
  change Except.map _ (unicodeEscape _) = _
  rw [unicodeEscape, hfour]
  dsimp only [bind, Except.bind]
  rw [if_neg hlow, if_pos hhigh, Char.ofNat_toNat]
  rfl

/-- A character in a string stands there itself, or as an escape that is read as the character. -/
theorem escapeChar_eq (c : Char) :
    (escapeChar c = [c] ∧ c ≠ '"' ∧ c ≠ '\\' ∧ 0x20 ≤ c.toNat) ∨
      ∃ tail, escapeChar c = '\\' :: tail ∧
        ∀ rest, ∃ h, escape (tail ++ rest) = .ok (c, ⟨rest, h⟩) := by
  by_cases hquote : c = '"'
  · subst hquote
    exact .inr ⟨['"'], rfl, fun rest => ⟨by simp, rfl⟩⟩
  by_cases hslash : c = '\\'
  · subst hslash
    exact .inr ⟨['\\'], rfl, fun rest => ⟨by simp, rfl⟩⟩
  by_cases hc : c.toNat < 0x20
  · have hof : ∀ n, c.toNat = n → c = Char.ofNat n := fun n h => h ▸ (Char.ofNat_toNat c).symm
    rw [escapeChar, if_neg hquote, if_neg hslash, if_pos hc]
    split
    · next h =>
      obtain rfl := hof 8 h
      exact .inr ⟨['b'], rfl, fun rest => ⟨by simp, rfl⟩⟩
    · next h =>
      obtain rfl := hof 9 h
      exact .inr ⟨['t'], rfl, fun rest => ⟨by simp, rfl⟩⟩
    · next h =>
      obtain rfl := hof 10 h
      exact .inr ⟨['n'], rfl, fun rest => ⟨by simp, rfl⟩⟩
    · next h =>
      obtain rfl := hof 12 h
      exact .inr ⟨['f'], rfl, fun rest => ⟨by simp, rfl⟩⟩
    · next h =>
      obtain rfl := hof 13 h
      exact .inr ⟨['r'], rfl, fun rest => ⟨by simp, rfl⟩⟩
    · exact .inr ⟨_, rfl, escape_control hc⟩
  · refine .inl ⟨?_, hquote, hslash, Nat.not_lt.1 hc⟩
    rw [escapeChar, if_neg hquote, if_neg hslash, if_neg hc]

def consTaken (c : Char) (p : List Char × List Char) : List Char × List Char :=
  (c :: p.1, p.2)

theorem stringBody_plain {c : Char} (hquote : c ≠ '"') (hslash : c ≠ '\\') (hc : 0x20 ≤ c.toNat)
    (rest : List Char) :
    taken (stringBody (c :: rest)) = (taken (stringBody rest)).map (consTaken c) := by
  rw [stringBody, if_neg hquote, if_neg hslash, if_neg (Nat.not_lt.2 hc)]
  cases stringBody rest <;> rfl

theorem stringBody_escape {d : Char} {cs rest : List Char}
    (he : ∃ h, escape cs = .ok (d, ⟨rest, h⟩)) :
    taken (stringBody ('\\' :: cs)) = (taken (stringBody rest)).map (consTaken d) := by
  obtain ⟨h, he⟩ := he
  rw [stringBody, if_neg (by decide), if_pos rfl, he]
  dsimp only
  cases stringBody rest <;> rfl

theorem stringBody_escapeChar (c : Char) (rest : List Char) :
    taken (stringBody (escapeChar c ++ rest)) = (taken (stringBody rest)).map (consTaken c) := by
  rcases escapeChar_eq c with ⟨h, hquote, hslash, hc⟩ | ⟨tail, h, hescape⟩
  · rw [h]
    exact stringBody_plain hquote hslash hc rest
  · rw [h]
    exact stringBody_escape (hescape rest)

theorem stringBody_quoted (cs rest : List Char) :
    taken (stringBody (cs.flatMap escapeChar ++ '"' :: rest)) = some (cs, rest) := by
  induction cs with
  | nil =>
      rw [List.flatMap_nil, List.nil_append, stringBody, if_pos rfl]
      rfl
  | cons c cs ih =>
      rw [List.flatMap_cons, List.append_assoc, stringBody_escapeChar, ih]
      rfl

end Sluice.Value.Reader
