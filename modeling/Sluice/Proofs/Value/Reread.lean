import Sluice.Proofs.Results
import Sluice.Proofs.Value.Strings

/-!
# Values read back from their indented text

What reading makes of a value's own text is told by recursion on the value (`reread`): mappings and
sequences take room, and each number is replaced by what its text reads as.

* `Reader.value_pretty` : the reader on a value's text, wherever the text stands;
* `read?_pretty` : the same for a whole document;
* `reread_eq_some_self_iff` : the values that are read back as they are.
-/

namespace Sluice

namespace Value

/-! ## What is read back -/

/-- The number that a number's text reads as. -/
def rereadNumber? (n : Number) : Option Number :=
  match read? (num n).pretty with
  | some (num m) => some m
  | _ => none

mutual

/-- The value that a value's text reads as, with room for so many levels. -/
def reread (room : Nat) : Value → Option Value
  | null => some null
  | bool b => some (bool b)
  | num n => (rereadNumber? n).map num
  | str s => some (str s)
  | seq xs => if room = 0 then none else (rereadItems (room - 1) xs).map seq
  | map fs =>
    if room = 0 then none
    else (rereadFields (room - 1) fs).map fun fs => map (Fields.ofPairs fs)

def rereadItems (room : Nat) : List Value → Option (List Value)
  | [] => some []
  | x :: xs => (reread room x).bind fun y => (rereadItems room xs).map (y :: ·)

def rereadFields (room : Nat) : List (String × Value) → Option (List (String × Value))
  | [] => some []
  | (k, x) :: fs => (reread room x).bind fun y => (rereadFields room fs).map ((k, y) :: ·)

end

namespace Reader

/-! ## Reasons are forgotten -/

theorem taken_map {α β : Type} {p q : List Char → Prop} (f : α → β) (h : ∀ r, p r → q r)
    (m : Except Stop (α × { r : List Char // p r })) :
    taken (m.map fun a => (f a.1, (⟨a.2.1, h a.2.1 a.2.2⟩ : { r : List Char // q r }))) =
      (taken m).map fun a => (f a.1, a.2) := by
  cases m <;> rfl

theorem toOption_map_taken {α β : Type} {p : List Char → Prop} (f : α → β)
    (m : Except Stop (α × { r : List Char // p r })) :
    (m.map fun a => (f a.1, a.2.1)).toOption = (taken m).map fun a => (f a.1, a.2) := by
  cases m <;> rfl

/-! ## Scalars -/

theorem endsNumber_cons {c : Char} (h : c = ',' ∨ c = '\n') (rest : List Char) :
    EndsNumber (c :: rest) := by
  rintro _ ⟨⟩
  rcases h with rfl | rfl <;> decide

theorem ne_of_isDigit {c d : Char} (h : c.isDigit = true) (hd : d.isDigit = false) : c ≠ d := by
  rintro rfl
  exact Bool.false_ne_true (hd.symm.trans h)

/-- How the text of a value begins. -/
structure BeginsValue (c : Char) : Prop where
  blank : isBlank c = false
  bracket : c ≠ ']'
  brace : c ≠ '\x7d'

theorem beginsValue_of_isDigit {c : Char} (h : c.isDigit = true) : BeginsValue c := by
  have hne := fun {d : Char} => ne_of_isDigit (d := d) h
  refine ⟨?_, hne rfl, hne rfl⟩
  simp [isBlank, hne (d := ' ') rfl, hne (d := '\t') rfl, hne (d := '\n') rfl, hne (d := '\r') rfl]

theorem skip_of_begins {c : Char} (h : BeginsValue c) (cs : List Char) : skip (c :: cs) = c :: cs := by
  rw [skip, h.blank]
  rfl

theorem value_scalar {c : Char} (hc : BeginsValue c) (hquote : c ≠ '"') (hlist : c ≠ '[')
    (hmap : c ≠ '\x7b') (fuel room : Nat) (cs : List Char) :
    (value (fuel + 1) room (c :: cs)).toOption = taken (scalar c cs) := by
  rw [value, skip_of_begins hc]
  dsimp only
  rw [if_neg hquote, if_neg hlist, if_neg hmap]
  cases scalar c cs <;> rfl

theorem value_signed (negative : Bool) (p : Parts) {rest : List Char} (hrest : EndsNumber rest)
    (fuel room : Nat) :
    (value (fuel + 1) room (signed negative p.chars ++ rest)).toOption =
      (p.value negative).map fun m => (num m, rest) := by
  have hnumber := number_parts negative p hrest
  cases negative with
  | true =>
      change (value (fuel + 1) room ('-' :: (p.chars ++ rest))).toOption = _
      rw [value_scalar ⟨rfl, by decide, by decide⟩ (by decide) (by decide) (by decide), scalar,
        if_neg (by decide), if_neg (by decide), if_neg (by decide), if_pos rfl]
      refine (taken_map num (fun _ h => Nat.lt_succ_of_lt h) (number true (p.chars ++ rest))).trans ?_
      rw [hnumber, Option.map_map]
      rfl
  | false =>
      have hne := fun {d : Char} => ne_of_isDigit (d := d) p.first_digit
      change (value (fuel + 1) room (p.first :: _)).toOption = _
      rw [value_scalar (beginsValue_of_isDigit p.first_digit) (hne rfl) (hne rfl) (hne rfl), scalar,
        if_neg (hne rfl), if_neg (hne rfl), if_neg (hne rfl), if_neg (hne rfl), if_pos p.first_digit]
      refine (taken_map num (fun _ h => h) (number false (p.chars ++ rest))).trans ?_
      rw [hnumber, Option.map_map]
      rfl

theorem value_word {c : Char} {ws rest : List Char} {v : Value} (hc : BeginsValue c)
    (hquote : c ≠ '"') (hlist : c ≠ '[') (hmap : c ≠ '\x7b')
    (hscalar : taken (scalar c (ws ++ rest)) = some (v, rest)) (fuel room : Nat) :
    (value (fuel + 1) room (c :: ws ++ rest)).toOption = some (v, rest) :=
  (value_scalar hc hquote hlist hmap fuel room (ws ++ rest)).trans hscalar

theorem value_string (s : String) (fuel room : Nat) (rest : List Char) :
    (value (fuel + 1) room (quoted s ++ rest)).toOption = some (str s, rest) := by
  have hbody := stringBody_quoted s.toList rest
  have hquoted : quoted s ++ rest = '"' :: (s.toList.flatMap escapeChar ++ '"' :: rest) := by
    simp [quoted]
  rw [hquoted, value, skip_of_begins ⟨rfl, by decide, by decide⟩]
  dsimp only
  rw [if_pos rfl]
  rw [toOption_map_taken fun cs => str (String.ofList cs), hbody, Option.map_some, String.ofList_toList]

/-! ## Documents -/

theorem toOption_document (cs : List Char) :
    (document cs).toOption = (value (2 * cs.length + 2) 127 cs).toOption.bind fun p =>
      if (skip p.2).isEmpty then some p.1 else none := by
  unfold document
  cases value (2 * cs.length + 2) 127 cs with
  | error stop => rfl
  | ok p =>
      obtain ⟨v, rest⟩ := p
      simp only [Except.toOption, Option.bind]
      cases skip rest <;> rfl

theorem value_num (n : Number) {rest : List Char} (hrest : EndsNumber rest) (fuel room : Nat) :
    (value (fuel + 1) room (n.chars ++ rest)).toOption =
      (rereadNumber? n).map fun m => (num m, rest) := by
  obtain ⟨negative, p, hchars, -⟩ := exists_parts_number n
  have hread : read? (num n).pretty = (p.value negative).map num := by
    have htext : (num n).pretty.toList = signed negative p.chars ++ [] := by
      rw [pretty, String.toList_ofList, List.append_nil, ← hchars]
      rfl
    rw [read?, toOption_document, htext, value_signed negative p endsNumber_nil]
    cases p.value negative <;> rfl
  have hreread : rereadNumber? n = p.value negative := by
    rw [rereadNumber?, hread]
    cases p.value negative <;> rfl
  rw [hreread, hchars, value_signed negative p hrest]

/-! ## Layout -/

theorem skip_append_newline (level : Nat) (cs : List Char) : skip (newline level ++ cs) = skip cs := by
  have hspaces : ∀ m, skip (List.replicate m ' ' ++ cs) = skip cs := by
    intro m
    induction m with
    | zero => rfl
    | succ m ih => exact ih
  exact hspaces (2 * level)

theorem prettyChars_begins (level : Nat) (v : Value) :
    ∃ c cs, v.prettyChars level = c :: cs ∧ BeginsValue c := by
  cases v with
  | null => exact ⟨_, _, rfl, rfl, by decide, by decide⟩
  | bool b => cases b <;> exact ⟨_, _, rfl, rfl, by decide, by decide⟩
  | num n =>
      obtain ⟨negative, p, hchars, -⟩ := exists_parts_number n
      cases negative with
      | true => exact ⟨_, _, hchars, rfl, by decide, by decide⟩
      | false => exact ⟨_, _, hchars, beginsValue_of_isDigit p.first_digit⟩
  | str s => exact ⟨_, _, rfl, rfl, by decide, by decide⟩
  | seq xs => cases xs <;> exact ⟨_, _, rfl, rfl, by decide, by decide⟩
  | map fs => cases fs <;> exact ⟨_, _, rfl, rfl, by decide, by decide⟩

/-- What stands behind an item: the other items and the end of the sequence. -/
def itemsTail (level : Nat) (close : List Char) : List Value → List Char
  | [] => close
  | x :: xs => ',' :: (prettyItems level (x :: xs) ++ close)

theorem prettyItems_append (level : Nat) (x : Value) (xs : List Value) (close : List Char) :
    prettyItems level (x :: xs) ++ close =
      newline level ++ (prettyChars level x ++ itemsTail level close xs) := by
  cases xs <;> simp [prettyItems, itemsTail]

/-- What stands behind a field: the other fields and the end of the mapping. -/
def fieldsTail (level : Nat) (close : List Char) : List (String × Value) → List Char
  | [] => close
  | f :: fs => ',' :: (prettyFields level (f :: fs) ++ close)

theorem prettyFields_append (level : Nat) (k : String) (x : Value) (fs : List (String × Value))
    (close : List Char) :
    prettyFields level ((k, x) :: fs) ++ close =
      newline level ++
        (quoted k ++ ':' :: ' ' :: (prettyChars level x ++ fieldsTail level close fs)) := by
  cases fs <;> simp [prettyFields, fieldsTail]

theorem endsNumber_newline (level : Nat) (rest : List Char) : EndsNumber (newline level ++ rest) :=
  endsNumber_cons (.inr rfl) _

theorem endsNumber_itemsTail (level : Nat) {close : List Char} (h : EndsNumber close)
    (xs : List Value) : EndsNumber (itemsTail level close xs) := by
  cases xs with
  | nil => exact h
  | cons x xs => exact endsNumber_cons (.inl rfl) _

theorem endsNumber_fieldsTail (level : Nat) {close : List Char} (h : EndsNumber close)
    (fs : List (String × Value)) : EndsNumber (fieldsTail level close fs) := by
  cases fs with
  | nil => exact h
  | cons f fs => exact endsNumber_cons (.inl rfl) _

/-! ## Sequences -/

theorem value_seq (fuel room : Nat) (cs : List Char) :
    (value (fuel + 1) room ('[' :: cs)).toOption =
      if room = 0 then none
      else (items fuel (room - 1) true cs).toOption.map fun p => (seq p.1, p.2) := by
  rw [value, skip_of_begins ⟨rfl, by decide, by decide⟩]
  dsimp only
  rw [if_neg (by decide), if_pos rfl]
  split
  · rfl
  · exact toOption_map ..

theorem items_close (fuel room : Nat) (first : Bool) {cs rest : List Char}
    (h : skip cs = ']' :: rest) : items (fuel + 1) room first cs = .ok ([], rest) := by
  rw [items, h]
  rfl

def withItem (fuel room : Nat) (p : Value × List Char) : Option (List Value × List Char) :=
  (items fuel room false p.2).toOption.map fun q => (p.1 :: q.1, q.2)

theorem items_item {fuel room : Nat} {first : Bool} {c : Char} {cs rest start : List Char}
    (h : skip cs = c :: rest) (hc : c ≠ ']') (hb : beforeItem first c rest = .ok start) :
    (items (fuel + 1) room first cs).toOption =
      (value fuel room start).toOption.bind (withItem fuel room) := by
  rw [items, h]
  dsimp only
  rw [if_neg hc, hb]
  dsimp only [bind, Except.bind]
  cases value fuel room start with
  | error stop => rfl
  | ok p =>
      obtain ⟨x, r⟩ := p
      simp only [Except.toOption, Option.bind, withItem]
      cases items fuel room false r <;> rfl

/-- Where an item of the text stands, the first one or one behind a comma. -/
theorem items_pretty_item (fuel room level : Nat) (x : Value) (tail : List Char) :
    (items (fuel + 1) room true (newline level ++ (prettyChars level x ++ tail))).toOption =
        (value fuel room (prettyChars level x ++ tail)).toOption.bind (withItem fuel room) ∧
      (items (fuel + 1) room false (',' :: (newline level ++ (prettyChars level x ++ tail)))).toOption =
        (value fuel room (prettyChars level x ++ tail)).toOption.bind (withItem fuel room) := by
  obtain ⟨c, cs, htext, hc⟩ := prettyChars_begins level x
  have hskip : skip (newline level ++ (prettyChars level x ++ tail)) = c :: (cs ++ tail) := by
    rw [skip_append_newline, htext]
    exact skip_of_begins hc _
  have hstart : prettyChars level x ++ tail = c :: (cs ++ tail) := by rw [htext]; rfl
  rw [hstart] at hskip ⊢
  constructor
  · exact items_item hskip hc.bracket rfl
  · refine items_item (c := ',') rfl (by decide) ?_
    rw [beforeItem, if_neg Bool.false_ne_true, if_pos rfl, hskip]
    dsimp only
    rw [if_neg hc.bracket]

/-! ## Mappings -/

theorem value_map (fuel room : Nat) (cs : List Char) :
    (value (fuel + 1) room ('\x7b' :: cs)).toOption =
      if room = 0 then none
      else (fields fuel (room - 1) true cs).toOption.map fun p => (map (Fields.ofPairs p.1), p.2) := by
  rw [value, skip_of_begins ⟨rfl, by decide, by decide⟩]
  dsimp only
  rw [if_neg (by decide), if_neg (by decide), if_pos rfl]
  split
  · rfl
  · exact toOption_map ..

theorem fields_close (fuel room : Nat) (first : Bool) {cs rest : List Char}
    (h : skip cs = '\x7d' :: rest) : fields (fuel + 1) room first cs = .ok ([], rest) := by
  rw [fields, h]
  rfl

def withField (fuel room : Nat) (k : String) (p : Value × List Char) :
    Option (List (String × Value) × List Char) :=
  (fields fuel room false p.2).toOption.map fun q => ((k, p.1) :: q.1, q.2)

theorem value_blank (fuel room : Nat) (cs : List Char) :
    (value fuel room (' ' :: cs)).toOption = (value fuel room cs).toOption := by
  cases fuel with
  | zero => rfl
  | succ fuel =>
      rw [value, value]
      rfl

theorem fields_field {fuel room : Nat} {first : Bool} {c : Char} {cs rest tail : List Char}
    {k : String} (h : skip cs = c :: rest) (hc : c ≠ '\x7d')
    (hb : beforeKey first c rest = .ok (k.toList.flatMap escapeChar ++ '"' :: ':' :: ' ' :: tail)) :
    (fields (fuel + 1) room first cs).toOption =
      (value fuel room tail).toOption.bind (withField fuel room k) := by
  have hkey := stringBody_quoted k.toList (':' :: ' ' :: tail)
  rw [fields, h]
  dsimp only
  rw [if_neg hc, hb]
  dsimp only [bind, Except.bind]
  cases hs : stringBody (k.toList.flatMap escapeChar ++ '"' :: ':' :: ' ' :: tail) with
  | error stop => simp [hs, taken] at hkey
  | ok result =>
      obtain ⟨ks, r, hr⟩ := result
      rw [hs] at hkey
      obtain ⟨rfl, rfl⟩ := Prod.mk.inj (Option.some.inj hkey)
      refine (toOption_bind _ (value fuel room (' ' :: tail))).trans ?_
      rw [value_blank]
      congr 1
      funext p
      rw [withField, String.ofList_toList]
      cases fields fuel room false p.2 <;> rfl

theorem fields_pretty_field (fuel room level : Nat) (k : String) (x : Value) (tail : List Char) :
    (fields (fuel + 1) room true (newline level ++ (quoted k ++ ':' :: ' ' ::
        (prettyChars level x ++ tail)))).toOption =
        (value fuel room (prettyChars level x ++ tail)).toOption.bind (withField fuel room k) ∧
      (fields (fuel + 1) room false (',' :: (newline level ++ (quoted k ++ ':' :: ' ' ::
        (prettyChars level x ++ tail))))).toOption =
        (value fuel room (prettyChars level x ++ tail)).toOption.bind (withField fuel room k) := by
  have hquoted : quoted k ++ ':' :: ' ' :: (prettyChars level x ++ tail) =
      '"' :: (k.toList.flatMap escapeChar ++ '"' :: ':' :: ' ' :: (prettyChars level x ++ tail)) := by
    simp [quoted]
  have hskip := skip_append_newline level
    (quoted k ++ ':' :: ' ' :: (prettyChars level x ++ tail))
  rw [hquoted] at hskip ⊢
  constructor
  · exact fields_field hskip (by decide) rfl
  · refine fields_field (c := ',') rfl (by decide) ?_
    rw [beforeKey, if_neg Bool.false_ne_true, if_pos rfl, hskip]
    rfl

/-! ## Every value -/

theorem bind_withItem {fuel room : Nat} {x : Value} {xs : List Value} {text tail rest : List Char}
    (hx : (value fuel room text).toOption = (reread room x).map (·, tail))
    (hxs : (items fuel room false tail).toOption = (rereadItems room xs).map (·, rest)) :
    (value fuel room text).toOption.bind (withItem fuel room) =
      (rereadItems room (x :: xs)).map (·, rest) := by
  rw [hx, rereadItems]
  cases reread room x with
  | none => rfl
  | some y =>
      rw [Option.map_some, Option.bind_some, Option.bind_some, withItem, hxs]
      cases rereadItems room xs <;> rfl

theorem bind_withField {fuel room : Nat} {k : String} {x : Value} {fs : List (String × Value)}
    {text tail rest : List Char}
    (hx : (value fuel room text).toOption = (reread room x).map (·, tail))
    (hfs : (fields fuel room false tail).toOption = (rereadFields room fs).map (·, rest)) :
    (value fuel room text).toOption.bind (withField fuel room k) =
      (rereadFields room ((k, x) :: fs)).map (·, rest) := by
  rw [hx, rereadFields]
  cases reread room x with
  | none => rfl
  | some y =>
      rw [Option.map_some, Option.bind_some, Option.bind_some, withField, hfs]
      cases rereadFields room fs <;> rfl

theorem length_prettyItems (level : Nat) (x : Value) (xs : List Value) :
    (prettyChars level x).length + (itemsTail level [] xs).length <
      (prettyItems level (x :: xs)).length := by
  have h := congrArg List.length (prettyItems_append level x xs [])
  simp [newline] at h
  omega

theorem length_prettyFields (level : Nat) (k : String) (x : Value) (fs : List (String × Value)) :
    (prettyChars level x).length + (fieldsTail level [] fs).length <
      (prettyFields level ((k, x) :: fs)).length := by
  have h := congrArg List.length (prettyFields_append level k x fs [])
  simp [newline] at h
  omega

mutual

theorem value_pretty : ∀ (v : Value) (fuel room level : Nat) {rest : List Char},
    2 * (prettyChars level v).length ≤ fuel → EndsNumber rest →
      (value fuel room (prettyChars level v ++ rest)).toOption = (reread room v).map (·, rest)
  | v, 0, _, level, _, hfuel, _ => by
    obtain ⟨c, cs, htext, -⟩ := prettyChars_begins level v
    rw [htext] at hfuel
    simp at hfuel
  | null, fuel + 1, room, _, rest, _, _ =>
    value_word ⟨rfl, by decide, by decide⟩ (by decide) (by decide) (by decide) rfl fuel room
  | bool true, fuel + 1, room, _, rest, _, _ =>
    value_word ⟨rfl, by decide, by decide⟩ (by decide) (by decide) (by decide) rfl fuel room
  | bool false, fuel + 1, room, _, rest, _, _ =>
    value_word ⟨rfl, by decide, by decide⟩ (by decide) (by decide) (by decide) rfl fuel room
  | num n, fuel + 1, room, _, rest, _, hrest => by
    rw [reread, Option.map_map]
    exact value_num n hrest fuel room
  | str s, fuel + 1, room, _, rest, _, _ => value_string s fuel room rest
  | seq [], fuel + 1, room, level, rest, hfuel, _ => by
    obtain ⟨fuel, rfl⟩ : ∃ f, fuel = f + 1 := ⟨fuel - 1, by simp [prettyChars] at hfuel; omega⟩
    change (value _ room ('[' :: ']' :: rest)).toOption = _
    rw [value_seq, items_close fuel (room - 1) true rfl, reread]
    split <;> rfl
  | seq (x :: xs), fuel + 1, room, level, rest, hfuel, _ => by
    have htext : prettyChars level (seq (x :: xs)) ++ rest =
        '[' :: (newline (level + 1) ++ (prettyChars (level + 1) x ++
          itemsTail (level + 1) (newline level ++ ']' :: rest) xs)) := by
      rw [← prettyItems_append]
      simp [prettyChars]
    have hlength := length_prettyItems (level + 1) x xs
    simp [prettyChars] at hfuel
    obtain ⟨fuel, rfl⟩ : ∃ f, fuel = f + 1 := ⟨fuel - 1, by omega⟩
    have hends := endsNumber_itemsTail (level + 1) (endsNumber_newline level (']' :: rest)) xs
    have hx := value_pretty x fuel (room - 1) (level + 1) (by omega) hends
    have hxs := items_pretty xs fuel (room - 1) (level + 1) level rest (by omega)
    rw [htext, value_seq, (items_pretty_item fuel (room - 1) (level + 1) x _).1,
      bind_withItem hx hxs, reread]
    split
    · rfl
    · cases rereadItems (room - 1) (x :: xs) <;> rfl
  | map [], fuel + 1, room, level, rest, hfuel, _ => by
    obtain ⟨fuel, rfl⟩ : ∃ f, fuel = f + 1 := ⟨fuel - 1, by simp [prettyChars] at hfuel; omega⟩
    change (value _ room ('\x7b' :: '\x7d' :: rest)).toOption = _
    rw [value_map, fields_close fuel (room - 1) true rfl, reread]
    split <;> rfl
  | map ((k, x) :: fs), fuel + 1, room, level, rest, hfuel, _ => by
    have htext : prettyChars level (map ((k, x) :: fs)) ++ rest =
        '\x7b' :: (newline (level + 1) ++ (quoted k ++ ':' :: ' ' :: (prettyChars (level + 1) x ++
          fieldsTail (level + 1) (newline level ++ '\x7d' :: rest) fs))) := by
      rw [← prettyFields_append]
      simp [prettyChars]
    have hlength := length_prettyFields (level + 1) k x fs
    simp [prettyChars] at hfuel
    obtain ⟨fuel, rfl⟩ : ∃ f, fuel = f + 1 := ⟨fuel - 1, by omega⟩
    have hends := endsNumber_fieldsTail (level + 1)
      (endsNumber_newline level ('\x7d' :: rest)) fs
    have hx := value_pretty x fuel (room - 1) (level + 1) (by omega) hends
    have hfs := fields_pretty fs fuel (room - 1) (level + 1) level rest (by omega)
    rw [htext, value_map, (fields_pretty_field fuel (room - 1) (level + 1) k x _).1,
      bind_withField hx hfs, reread]
    split
    · rfl
    · cases rereadFields (room - 1) ((k, x) :: fs) <;> rfl

theorem items_pretty : ∀ (xs : List Value) (fuel room level outer : Nat) (rest : List Char),
    2 * (itemsTail level [] xs).length + 1 ≤ fuel →
      (items fuel room false (itemsTail level (newline outer ++ ']' :: rest) xs)).toOption =
        (rereadItems room xs).map (·, rest)
  | _, 0, _, _, _, _, hfuel => by omega
  | [], fuel + 1, room, _, outer, rest, _ => by
    rw [itemsTail, items_close fuel room false (skip_append_newline outer (']' :: rest))]
    rfl
  | x :: xs, fuel + 1, room, level, outer, rest, hfuel => by
    have hlength := length_prettyItems level x xs
    simp [itemsTail] at hfuel
    have hends := endsNumber_itemsTail level (endsNumber_newline outer (']' :: rest)) xs
    have hx := value_pretty x fuel room level (by omega) hends
    have hxs := items_pretty xs fuel room level outer rest (by omega)
    rw [itemsTail, prettyItems_append, (items_pretty_item fuel room level x _).2]
    exact bind_withItem hx hxs

theorem fields_pretty : ∀ (fs : List (String × Value)) (fuel room level outer : Nat)
    (rest : List Char), 2 * (fieldsTail level [] fs).length + 1 ≤ fuel →
      (fields fuel room false (fieldsTail level (newline outer ++ '\x7d' :: rest) fs)).toOption =
        (rereadFields room fs).map (·, rest)
  | _, 0, _, _, _, _, hfuel => by omega
  | [], fuel + 1, room, _, outer, rest, _ => by
    rw [fieldsTail, fields_close fuel room false (skip_append_newline outer ('\x7d' :: rest))]
    rfl
  | (k, x) :: fs, fuel + 1, room, level, outer, rest, hfuel => by
    have hlength := length_prettyFields level k x fs
    simp [fieldsTail] at hfuel
    have hends := endsNumber_fieldsTail level
      (endsNumber_newline outer ('\x7d' :: rest)) fs
    have hx := value_pretty x fuel room level (by omega) hends
    have hfs := fields_pretty fs fuel room level outer rest (by omega)
    rw [fieldsTail, prettyFields_append, (fields_pretty_field fuel room level k x _).2]
    exact bind_withField hx hfs

end

end Reader

/-- The indented text of a value reads as what is left of the value with room for 127 levels. -/
theorem read?_pretty (v : Value) : read? v.pretty = reread 127 v := by
  have htext : v.pretty.toList = prettyChars 0 v ++ [] := by
    rw [pretty, String.toList_ofList, List.append_nil]
  rw [read?, Reader.toOption_document, htext, Reader.value_pretty v _ _ _ (by simp) Reader.endsNumber_nil]
  cases reread 127 v <;> rfl

theorem toOption_read (text : String) : (read text).toOption = read? text := by
  unfold read read?
  dsimp only
  cases Reader.document text.toList with
  | ok v => rfl
  | error stop => rfl

/-! ## Values that last -/

theorem rereadNumber?_int (i : Int) (h : FitsWord i) :
    rereadNumber? (.int i h) = some (.int i h) := by
  obtain ⟨negative, p, hchars, hvalue⟩ := Reader.exists_parts_number (.int i h)
  have hread := Reader.value_signed negative p Reader.endsNumber_nil 0 0
  rw [← hchars, Reader.value_num _ Reader.endsNumber_nil, hvalue i h rfl] at hread
  obtain ⟨m, hm, heq⟩ := Option.map_eq_some_iff.1 hread
  obtain rfl : m = .int i h := by simpa using heq
  exact hm

mutual

/-- Every double in the value is read back from its own text. -/
def DoublesLast : Value → Prop
  | num (.double d h) => read? (num (.double d h)).pretty = some (num (.double d h))
  | seq xs => DoublesLastItems xs
  | map fs => DoublesLastFields fs
  | _ => True

def DoublesLastItems : List Value → Prop
  | [] => True
  | x :: xs => DoublesLast x ∧ DoublesLastItems xs

def DoublesLastFields : List (String × Value) → Prop
  | [] => True
  | (_, x) :: fs => DoublesLast x ∧ DoublesLastFields fs

end

theorem rereadNumber?_double (d : Double) (h : d.isFinite = true) :
    rereadNumber? (.double d h) = some (.double d h) ↔ DoublesLast (num (.double d h)) := by
  have hread : read? (num (.double d h)).pretty = (rereadNumber? (.double d h)).map num :=
    read?_pretty _
  rw [DoublesLast, hread]
  cases rereadNumber? (.double d h) <;> simp

theorem put_of_notMem {fields : Fields} {key : String} (h : key ∉ Fields.keys fields)
    (value : Value) : fields.put key value = fields ++ [(key, value)] := by
  induction fields with
  | nil => rfl
  | cons f fs ih =>
      obtain ⟨k, v⟩ := f
      have hk : k ≠ key := fun he => h (he ▸ List.mem_cons_self)
      rw [Fields.put, if_neg hk, ih fun hm => h (List.mem_cons_of_mem k hm), List.cons_append]

/-- Fields without a repeated key are set one behind the other. -/
theorem ofPairs_of_nodup {fields : Fields} (h : (Fields.keys fields).Nodup) :
    Fields.ofPairs fields = fields := by
  suffices ∀ done todo : Fields, (Fields.keys (done ++ todo)).Nodup →
      todo.foldl (fun fields p => Fields.put fields p.1 p.2) done = done ++ todo from
    this [] fields h
  intro done todo
  induction todo generalizing done with
  | nil => simp
  | cons f fs ih =>
      obtain ⟨k, v⟩ := f
      intro hnodup
      have hk : k ∉ Fields.keys done := by
        intro hm
        rw [Fields.keys, List.map_append, List.nodup_append] at hnodup
        exact hnodup.2.2 k hm k List.mem_cons_self rfl
      rw [List.foldl_cons, put_of_notMem hk, ih]
      · simp
      · simpa using hnodup

theorem keys_of_rereadFields {room : Nat} {fs fs' : Fields} (h : rereadFields room fs = some fs') :
    Fields.keys fs' = Fields.keys fs := by
  induction fs generalizing fs' with
  | nil =>
      cases h
      rfl
  | cons f fs ih =>
      obtain ⟨k, x⟩ := f
      obtain ⟨y, -, h⟩ := Option.bind_eq_some_iff.1 h
      obtain ⟨ys, hys, rfl⟩ := Option.map_eq_some_iff.1 h
      exact congrArg (k :: ·) (ih hys)

mutual

/-- A value is read back as it is exactly when there is room for its levels and its doubles last. -/
theorem reread_eq_some_self_iff : ∀ {v : Value} (room : Nat), v.Distinct →
    (reread room v = some v ↔ v.depth ≤ room ∧ v.DoublesLast)
  | null, _, _ => by simp [reread, depth, DoublesLast]
  | bool _, _, _ => by simp [reread, depth, DoublesLast]
  | str _, _, _ => by simp [reread, depth, DoublesLast]
  | num (.int i h), _, _ => by simp [reread, rereadNumber?_int, depth, DoublesLast]
  | num (.double d h), _, _ => by
    rw [← rereadNumber?_double]
    cases hr : rereadNumber? (.double d h) <;> simp [reread, hr, depth]
  | seq xs, room, hv => by
    have hitems := rereadItems_eq_some_self_iff (room - 1) hv
    rw [reread, depth, DoublesLast]
    by_cases hroom : room = 0
    · simp [hroom]
    · have hseq : (rereadItems (room - 1) xs).map seq = some (seq xs) ↔
          rereadItems (room - 1) xs = some xs := by
        simp [Option.map_eq_some_iff]
      have hdepth : depthList xs + 1 ≤ room ↔ depthList xs ≤ room - 1 := by omega
      rw [if_neg hroom, hseq, hitems, hdepth]
  | map fs, room, hv => by
    have hfields := rereadFields_eq_some_self_iff (room - 1) hv.2
    rw [reread, depth, DoublesLast]
    by_cases hroom : room = 0
    · simp [hroom]
    · have hmap : ((rereadFields (room - 1) fs).map fun fs => map (Fields.ofPairs fs)) =
          some (map fs) ↔ rereadFields (room - 1) fs = some fs := by
        constructor
        · intro h
          obtain ⟨fs', hfs', heq⟩ := Option.map_eq_some_iff.1 h
          have hnodup : (Fields.keys fs').Nodup := keys_of_rereadFields hfs' ▸ hv.1
          rw [ofPairs_of_nodup hnodup] at heq
          rw [hfs', map.inj heq]
        · intro h
          rw [h, Option.map_some, ofPairs_of_nodup hv.1]
      have hdepth : depthFields fs + 1 ≤ room ↔ depthFields fs ≤ room - 1 := by omega
      rw [if_neg hroom, hmap, hfields, hdepth]

theorem rereadItems_eq_some_self_iff : ∀ {xs : List Value} (room : Nat), DistinctList xs →
    (rereadItems room xs = some xs ↔ depthList xs ≤ room ∧ DoublesLastItems xs)
  | [], _, _ => by simp [rereadItems, depthList, DoublesLastItems]
  | x :: xs, room, hxs => by
    have hx := reread_eq_some_self_iff room hxs.1
    have hxs := rereadItems_eq_some_self_iff room hxs.2
    have hcons : rereadItems room (x :: xs) = some (x :: xs) ↔
        reread room x = some x ∧ rereadItems room xs = some xs := by
      simp [rereadItems, Option.bind_eq_some_iff, Option.map_eq_some_iff]
    rw [hcons, hx, hxs, depthList, DoublesLastItems, Nat.max_le, and_and_and_comm]

theorem rereadFields_eq_some_self_iff : ∀ {fs : List (String × Value)} (room : Nat),
    DistinctFields fs →
      (rereadFields room fs = some fs ↔ depthFields fs ≤ room ∧ DoublesLastFields fs)
  | [], _, _ => by simp [rereadFields, depthFields, DoublesLastFields]
  | (k, x) :: fs, room, hfs => by
    have hx := reread_eq_some_self_iff room hfs.1
    have hfs := rereadFields_eq_some_self_iff room hfs.2
    have hcons : rereadFields room ((k, x) :: fs) = some ((k, x) :: fs) ↔
        reread room x = some x ∧ rereadFields room fs = some fs := by
      simp [rereadFields, Option.bind_eq_some_iff, Option.map_eq_some_iff]
    rw [hcons, hx, hfs, depthFields, DoublesLastFields, Nat.max_le, and_and_and_comm]

end

end Value

end Sluice
