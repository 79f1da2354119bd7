import Sluice.Value.Reader

/-!
# The weight of a value

A measure that reading never increases: the characters of all texts inside a value, and one for
each of its parts. A value read from a text weighs at most as much as the text is long, so a text
inside a value can be read in its turn, again and again, and the reading ends.
-/

namespace Sluice.Value

mutual

/-- The characters of all texts, and one for each part; keys do not count. -/
def weight : Value → Nat
  | .str s => s.length + 1
  | .seq xs => weightItems xs + 1
  | .map fs => weightFields fs + 1
  | _ => 1

def weightItems : List Value → Nat
  | [] => 0
  | x :: xs => weight x + weightItems xs

def weightFields : List (String × Value) → Nat
  | [] => 0
  | (_, x) :: fs => weight x + weightFields fs

end

theorem weightFields_put_le (fs : Fields) (k : String) (v : Value) :
    weightFields (fs.put k v) ≤ weightFields fs + weight v := by
  induction fs with
  | nil => simp [Fields.put, weightFields]
  | cons f fs ih =>
    obtain ⟨l, x⟩ := f
    unfold Fields.put
    split <;> simp only [weightFields] <;> omega

theorem weightFields_ofPairs_le (ps : List (String × Value)) :
    weightFields (Fields.ofPairs ps) ≤ weightFields ps := by
  suffices ∀ fs : Fields,
      weightFields (ps.foldl (fun fs p => Fields.put fs p.1 p.2) fs) ≤
        weightFields fs + weightFields ps by
    simpa [Fields.ofPairs, weightFields] using this []
  induction ps with
  | nil => simp [weightFields]
  | cons p ps ih =>
    intro fs
    have h := weightFields_put_le fs p.1 p.2
    have := ih (fs.put p.1 p.2)
    simp only [List.foldl_cons, weightFields]
    omega

namespace Reader

theorem map_eq_ok {α β ε : Type} {f : α → β} {x : Except ε α} {b : β} (h : x.map f = .ok b) :
    ∃ a, x = .ok a ∧ f a = b := by
  cases x with
  | error e => simp [Except.map] at h
  | ok a => exact ⟨a, rfl, by simpa [Except.map] using h⟩

theorem bind_eq_ok {α β ε : Type} {f : α → Except ε β} {x : Except ε α} {b : β}
    (h : x >>= f = .ok b) :
    ∃ a, x = .ok a ∧ f a = .ok b := by
  cases x with
  | error e => simp [bind, Except.bind] at h
  | ok a => exact ⟨a, rfl, h⟩

theorem stringBody_length (cs : List Char) :
    ∀ s r, stringBody cs = .ok (s, r) → s.length + r.1.length + 1 ≤ cs.length := by
  fun_induction stringBody cs with
  | case1 => simp
  | case2 =>
    intro s r h
    simp at h
    obtain ⟨rfl, rfl⟩ := h
    simp
  | case3 => simp
  | case4 rest _ d r hr he ih =>
    intro s r' h
    obtain ⟨⟨ds, a⟩, ha, hb⟩ := map_eq_ok h
    have := ih _ _ ha
    simp at hb
    obtain ⟨rfl, rfl⟩ := hb
    simp
    omega
  | case5 => simp
  | case6 c rest _ _ _ ih =>
    intro s r' h
    obtain ⟨⟨ds, a⟩, ha, hb⟩ := map_eq_ok h
    have := ih _ _ ha
    simp at hb
    obtain ⟨rfl, rfl⟩ := hb
    simp
    omega

theorem scalar_weight {c : Char} {rest : List Char} {v : Value} {r : Rest (c :: rest)}
    (h : scalar c rest = .ok (v, r)) : v.weight = 1 := by
  unfold scalar at h
  repeat' split at h
  all_goals first
    | (obtain ⟨a, _, hb⟩ := map_eq_ok h; simp at hb; obtain ⟨rfl, -⟩ := hb; rfl)
    | simp at h

theorem beforeItem_length {first : Bool} {c : Char} {rest r : List Char}
    (h : beforeItem first c rest = .ok r) : r.length ≤ rest.length + 1 := by
  unfold beforeItem at h
  have := skip_length_le rest
  repeat' split at h
  all_goals simp at h
  all_goals subst h
  all_goals simp_all
  all_goals omega

theorem beforeKey_length {first : Bool} {c : Char} {rest r : List Char}
    (h : beforeKey first c rest = .ok r) : r.length ≤ rest.length := by
  unfold beforeKey at h
  have := skip_length_le rest
  repeat' split at h
  all_goals simp at h
  all_goals subst h
  all_goals simp_all
  all_goals omega

theorem colon_length {cs r : List Char} (h : colon cs = .ok r) : r.length + 1 ≤ cs.length := by
  unfold colon at h
  have := skip_length_le cs
  repeat' split at h
  all_goals simp at h
  all_goals subst h
  all_goals simp_all

theorem weight_le (fuel : Nat) :
    (∀ depth cs v r, value fuel depth cs = .ok (v, r) → v.weight + r.length ≤ cs.length) ∧
    (∀ depth first cs xs r, items fuel depth first cs = .ok (xs, r) →
      weightItems xs + r.length + 1 ≤ cs.length) ∧
    (∀ depth first cs fs r, fields fuel depth first cs = .ok (fs, r) →
      weightFields fs + r.length + 1 ≤ cs.length) := by
  induction fuel with
  | zero => simp [value, items, fields]
  | succ fuel ih =>
    obtain ⟨ihv, ihi, ihf⟩ := ih
    refine ⟨fun depth cs v r h => ?_, fun depth first cs xs r h => ?_,
      fun depth first cs fs r h => ?_⟩
    · have hs := skip_length_le cs
      unfold value at h
      split at h
      · simp at h
      · next c rest hc =>
        rw [hc] at hs
        simp only [List.length_cons] at hs
        repeat' split at h
        · obtain ⟨⟨s, a⟩, ha, hb⟩ := map_eq_ok h
          have := stringBody_length _ _ _ ha
          simp at hb
          obtain ⟨rfl, rfl⟩ := hb
          simp [weight]
          omega
        · simp at h
        · obtain ⟨⟨s, a⟩, ha, hb⟩ := map_eq_ok h
          have := ihi _ _ _ _ _ ha
          simp at hb
          obtain ⟨rfl, rfl⟩ := hb
          simp only [weight]
          omega
        · simp at h
        · obtain ⟨⟨s, a⟩, ha, hb⟩ := map_eq_ok h
          have := ihf _ _ _ _ _ ha
          simp at hb
          obtain ⟨rfl, rfl⟩ := hb
          have := weightFields_ofPairs_le s
          simp only [weight]
          omega
        · obtain ⟨⟨s, a⟩, ha, hb⟩ := map_eq_ok h
          have := scalar_weight ha
          have := a.2
          simp at hb
          obtain ⟨rfl, rfl⟩ := hb
          simp at *
          omega
    · have hs := skip_length_le cs
      unfold items at h
      split at h
      · simp at h
      · next c rest hc =>
        rw [hc] at hs
        simp only [List.length_cons] at hs
        split at h
        · simp at h
          obtain ⟨rfl, rfl⟩ := h
          simp [weightItems]
          omega
        · obtain ⟨start, h1, h⟩ := bind_eq_ok h
          obtain ⟨⟨x, r1⟩, h2, h⟩ := bind_eq_ok h
          obtain ⟨⟨ys, r2⟩, h3, h⟩ := bind_eq_ok h
          have := beforeItem_length h1
          have := ihv _ _ _ _ h2
          have := ihi _ _ _ _ _ h3
          simp at h
          obtain ⟨rfl, rfl⟩ := h
          simp only [weightItems]
          omega
    · have hs := skip_length_le cs
      unfold fields at h
      split at h
      · simp at h
      · next c rest hc =>
        rw [hc] at hs
        simp only [List.length_cons] at hs
        split at h
        · simp at h
          obtain ⟨rfl, rfl⟩ := h
          simp [weightFields]
          omega
        · obtain ⟨start, h1, h⟩ := bind_eq_ok h
          obtain ⟨⟨x, r1⟩, h2, h⟩ := bind_eq_ok h
          obtain ⟨after, h3, h⟩ := bind_eq_ok h
          obtain ⟨⟨y, r2⟩, h4, h⟩ := bind_eq_ok h
          obtain ⟨⟨ys, r3⟩, h5, h⟩ := bind_eq_ok h
          have := beforeKey_length h1
          have := r1.2
          have := colon_length h3
          have := ihv _ _ _ _ h4
          have := ihf _ _ _ _ _ h5
          simp at h
          obtain ⟨rfl, rfl⟩ := h
          simp only [weightFields]
          omega

end Reader

/-- Reading never makes a value heavier than its text is long. -/
theorem weight_le_of_read? {text : String} {v : Value} (h : read? text = some v) :
    v.weight ≤ text.length := by
  unfold read? at h
  cases hd : Reader.document text.toList with
  | error stop => simp [hd, Except.toOption] at h
  | ok w =>
    obtain rfl : w = v := by simpa [hd, Except.toOption] using h
    unfold Reader.document at hd
    split at hd
    · simp at hd
    · next x rest hx =>
      have hw := (Reader.weight_le _).1 _ _ _ _ hx
      split at hd
      · obtain rfl : x = w := by simpa using hd
        rw [String.length_toList] at hw
        omega
      · simp at hd

end Sluice.Value
