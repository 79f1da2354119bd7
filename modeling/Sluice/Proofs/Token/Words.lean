import Sluice.Proofs.Token.Reading

/-!
# Lines of words

A line of identifiers with a blank between neighbours is read as one word for each of them, whatever
follows them behind a blank (`Token.reads_words`).
-/

namespace Sluice.Token

/-! ## Characters of identifiers -/

def isNameChar (c : Char) : Bool :=
  Text.isLetter c || Text.isDigit c || c == '_'

theorem ne_of_isNameChar {c d : Char} (hc : isNameChar c = true) (hd : isNameChar d = false) :
    c ≠ d := by
  rintro rfl
  exact Bool.false_ne_true (hd.symm.trans hc)

theorem toNat_of_isNameChar {c : Char} (h : isNameChar c = true) :
    48 ≤ c.toNat ∧ c.toNat ≤ 122 := by
  simp only [isNameChar, Text.isLetter, Text.isDigit, Bool.or_eq_true, Bool.and_eq_true,
    decide_eq_true_eq, beq_iff_eq, Char.le_def, UInt32.le_iff_toNat_le] at h
  rcases h with ((h | h) | h) | rfl
  · change 97 ≤ c.toNat ∧ c.toNat ≤ 122 at h
    omega
  · change 65 ≤ c.toNat ∧ c.toNat ≤ 90 at h
    omega
  · change 48 ≤ c.toNat ∧ c.toNat ≤ 57 at h
    omega
  · decide

theorem not_isBlank_of_isNameChar {c : Char} (h : isNameChar c = true) : Text.isBlank c = false := by
  have hrange := toNat_of_isNameChar h
  simp only [Text.isBlank, Bool.or_eq_false_iff, Bool.and_eq_false_iff, decide_eq_false_iff_not,
    beq_eq_false_iff_ne, ne_eq]
  omega

theorem isNameChar_of_isIdentifierChars {cs : List Char} (h : Text.isIdentifierChars cs = true) :
    ∀ c ∈ cs, isNameChar c = true := by
  cases cs with
  | nil => nofun
  | cons c cs =>
      simp only [Text.isIdentifierChars, Bool.and_eq_true, List.all_eq_true] at h
      obtain ⟨hc, hcs⟩ := h
      refine List.forall_mem_cons.2 ⟨?_, hcs⟩
      rw [isNameChar, Bool.or_assoc, Bool.or_comm (Text.isDigit c), ← Bool.or_assoc, hc]
      rfl

theorem not_isDigit_of_isIdentifierChars {c : Char} {cs : List Char}
    (h : Text.isIdentifierChars (c :: cs) = true) : Text.isDigit c = false := by
  simp only [Text.isIdentifierChars, Text.isLetter, Bool.and_eq_true, Bool.or_eq_true,
    decide_eq_true_eq, beq_iff_eq, Char.le_def, UInt32.le_iff_toNat_le] at h
  have hle : ¬ c.toNat ≤ 57 := by
    rcases h.1 with (h | h) | rfl
    · change 97 ≤ c.toNat ∧ c.toNat ≤ 122 at h
      omega
    · change 65 ≤ c.toNat ∧ c.toNat ≤ 90 at h
      omega
    · decide
  have hdigit : ¬ c ≤ '9' := hle
  simp [Text.isDigit, hdigit]

theorem not_isDelimiter_of_isNameChar {c : Char} (h : isNameChar c = true) :
    isDelimiter c = false := by
  have hne := fun {d : Char} => ne_of_isNameChar (d := d) h
  simp [isDelimiter, not_isBlank_of_isNameChar h, hne (d := '|') rfl, hne (d := '=') rfl,
    hne (d := '(') rfl, hne (d := ')') rfl, hne (d := '"') rfl, hne (d := '\'') rfl]

/-! ## Identifiers as lexemes -/

/-- A word ends with the text or at a blank. -/
def EndsWord (rest : List Char) : Prop :=
  ∀ c ∈ rest.head?, c = ' '

theorem endsWord_flatMap (names : List (List Char)) {rest : List Char} (hrest : EndsWord rest) :
    EndsWord (names.flatMap (' ' :: ·) ++ rest) := by
  cases names with
  | nil => exact hrest
  | cons name names =>
      rintro d ⟨⟩
      rfl

theorem stopsWord_of_isNameChar (inList : Bool) {c : Char} (h : isNameChar c = true) :
    stopsWord inList c = false := by
  have hcomma : (c == ',') = false := by simpa using ne_of_isNameChar (d := ',') h rfl
  rw [stopsWord, not_isDelimiter_of_isNameChar h, hcomma, Bool.and_false, Bool.or_false]

theorem lead?_of_ne {c : Char} (h : c ≠ '{') (cs : List Char) : Template.lead? (c :: cs) = none := by
  unfold Template.lead?
  split
  · next heq => exact absurd (List.cons.inj heq).1 h
  · rfl

/-- Characters that neither end a word nor begin a template are taken one by one. -/
theorem wordPieces_plain {inList : Bool} {word rest : List Char}
    (hword : ∀ c ∈ word, stopsWord inList c = false ∧ c ≠ '{')
    (hrest : ∀ c ∈ rest.head?, stopsWord inList c = true) :
    wordPieces inList (word ++ rest) = (word.map .char, rest) := by
  induction word with
  | nil =>
      cases rest with
      | nil =>
          rw [List.nil_append, wordPieces]
          rfl
      | cons c rest => exact wordPieces_stop (hrest c rfl) rest
  | cons c word ih =>
      obtain ⟨⟨hstop, hbrace⟩, hword⟩ := List.forall_mem_cons.1 hword
      rw [List.cons_append, wordPieces_char (lead?_of_ne hbrace _) hstop, ih hword]
      rfl

theorem lexes_plain {inList : Bool} {c : Char} {word rest : List Char} {kind : Kind}
    (hword : ∀ d ∈ c :: word, stopsWord inList d = false ∧ d ≠ '{') (hpoint : c ≠ '.')
    (hrest : ∀ d ∈ rest.head?, stopsWord inList d = true)
    (hkind : classify (c :: word) = .ok kind) :
    Lexes inList (c :: (word ++ rest)) kind (c :: word) rest := by
  have htaken : ((c :: word).map WordPiece.char).flatMap WordPiece.chars = c :: word := by
    simp [WordPiece.chars, List.flatMap_map]
  have hlexes := lexes_of_wordPieces (hword c List.mem_cons_self).1 (fun h => hpoint h.1)
    (wordPieces_plain hword hrest) (htaken.symm ▸ hkind)
  rwa [htaken] at hlexes

theorem classify_identifier {cs : List Char} (h : Text.isIdentifierChars cs = true) :
    classify cs = .ok (.word (String.ofList cs)) := by
  cases cs with
  | nil => cases h
  | cons c cs =>
      have hdash : c ≠ '-' :=
        ne_of_isNameChar (isNameChar_of_isIdentifierChars h c List.mem_cons_self) rfl
      have hnumeral : Numeral.read? (c :: cs) = none := by
        unfold Numeral.read?
        split
        next negative body heq =>
        split at heq
        · next hcons => exact absurd (List.cons.inj hcons).1 hdash
        · cases heq
          simp [not_isDigit_of_isIdentifierChars h]
      unfold classify
      split
      · next hcons => exact absurd (List.cons.inj hcons).1 hdash
      · rw [hnumeral]

theorem EndsWord.stops {rest : List Char} (h : EndsWord rest) (inList : Bool) :
    ∀ c ∈ rest.head?, stopsWord inList c = true := by
  intro c hc
  obtain rfl := h c hc
  cases inList <;> rfl

/-- An identifier in front of a blank or the end of the text is a word. -/
theorem lexes_identifier (inList : Bool) {c : Char} {word rest : List Char}
    (h : Text.isIdentifierChars (c :: word) = true) (hrest : EndsWord rest) :
    Lexes inList (c :: (word ++ rest)) (.word (String.ofList (c :: word))) (c :: word) rest := by
  have hchars := isNameChar_of_isIdentifierChars h
  have hpoint : c ≠ '.' := ne_of_isNameChar (hchars c List.mem_cons_self) rfl
  refine lexes_plain (fun d hd => ?_) hpoint (hrest.stops inList) (classify_identifier h)
  exact ⟨stopsWord_of_isNameChar inList (hchars d hd), ne_of_isNameChar (hchars d hd) rfl⟩

/-! ## Lines -/

theorem gap_identifier {name : List Char} (h : Text.isIdentifierChars name = true)
    (rest : List Char) : gap false (name ++ rest) = ([], name ++ rest) := by
  cases name with
  | nil => cases h
  | cons c word =>
      have hc := isNameChar_of_isIdentifierChars h c List.mem_cons_self
      exact gap_stop _ (not_isBlank_of_isNameChar hc) (ne_of_isNameChar hc rfl)

theorem takes_identifier {p : Place} {name skipped rest : List Char}
    (hgap : gap false p.left = (skipped, name ++ rest)) (h : Text.isIdentifierChars name = true)
    (hrest : EndsWord rest) :
    ∃ t q, Takes p t q ∧ t.kind = .word (String.ofList name) ∧ q.left = rest := by
  cases name with
  | nil => cases h
  | cons c word => exact ⟨_, _, .lexeme hgap (lexes_identifier _ h hrest), rfl, rfl⟩

/-- Identifiers with a blank in front of each are read as words. -/
theorem reads_identifiers {names : List (List Char)}
    (h : ∀ name ∈ names, Text.isIdentifierChars name = true) {rest : List Char}
    (hrest : EndsWord rest) {p : Place} (hp : p.left = names.flatMap (' ' :: ·) ++ rest) :
    ∃ ts q, Reads p ts q ∧ q.left = rest ∧
      ts.map Token.kind = names.map fun name => .word (String.ofList name) := by
  induction names generalizing p with
  | nil => exact ⟨[], p, .nil, hp, rfl⟩
  | cons name names ih =>
      obtain ⟨hname, hnames⟩ := List.forall_mem_cons.1 h
      have hgap : gap false p.left = ([' '], name ++ (names.flatMap (' ' :: ·) ++ rest)) := by
        rw [hp, List.flatMap_cons, List.append_assoc, List.cons_append, gap_blank _ rfl,
          gap_identifier hname]
      obtain ⟨t, q, ht, hkind, hq⟩ := takes_identifier hgap hname (endsWord_flatMap names hrest)
      obtain ⟨ts, r, hts, hr, hkinds⟩ := ih hnames hq
      refine ⟨t :: ts, r, .cons ht hts, hr, ?_⟩
      rw [List.map_cons, List.map_cons, hkind, hkinds]

/-- A line that begins with identifiers is read as a word for each of them. -/
theorem reads_words {name : List Char} {names : List (List Char)} {source rest : List Char}
    (hsource : source = name ++ names.flatMap (' ' :: ·) ++ rest)
    (h : ∀ n ∈ name :: names, Text.isIdentifierChars n = true) (hrest : EndsWord rest) :
    ∃ ts q, Reads (.start source) ts q ∧ q.left = rest ∧
      ts.map Token.kind = (name :: names).map fun n => .word (String.ofList n) := by
  obtain ⟨hname, hnames⟩ := List.forall_mem_cons.1 h
  have hgap : gap false (Place.start source).left =
      ([], name ++ (names.flatMap (' ' :: ·) ++ rest)) := by
    rw [← gap_identifier hname, hsource, List.append_assoc]
    rfl
  obtain ⟨t, q, ht, hkind, hq⟩ := takes_identifier hgap hname (endsWord_flatMap names hrest)
  obtain ⟨ts, r, hts, hr, hkinds⟩ := reads_identifiers hnames hrest hq
  refine ⟨t :: ts, r, .cons ht hts, hr, ?_⟩
  rw [List.map_cons, List.map_cons, hkind, hkinds]

end Sluice.Token
