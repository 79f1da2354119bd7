/-!
# Lists sorted by a name

Variables, connections, handlers and interpreters are kept in lists that are sorted by name and
hold each name once. `Sorted` says so; `insert` and `erase` keep it, and `find?` sees what they
did. Where the entries are values under names, the name of an entry is `Prod.fst`, and it may be the
value's own (`named`).
-/

namespace Sluice.Keyed

variable {α : Type}

/-- Puts an entry into its place, in the stead of one with the same name. -/
def insert (key : α → String) (x : α) : List α → List α
  | [] => [x]
  | y :: ys =>
    if key x < key y then x :: y :: ys
    else if key x = key y then x :: ys
    else y :: insert key x ys

/-- Drops the entry with a name. -/
def erase (key : α → String) (name : String) (xs : List α) : List α :=
  xs.filter fun x => key x != name

/-- The entry with a name. -/
def find? (key : α → String) (name : String) (xs : List α) : Option α :=
  xs.find? fun x => key x == name

/-- The value of the entry with a name, where entries are values under names. -/
def value? (name : String) (entries : List (String × α)) : Option α :=
  (find? Prod.fst name entries).map Prod.snd

/-- The entries put into place one after another. -/
def ofList (key : α → String) (xs : List α) : List α :=
  xs.foldl (fun sorted x => insert key x sorted) []

/-- Each value under its own name. -/
def named (key : α → String) (xs : List α) : List (String × α) :=
  xs.map fun x => (key x, x)

/-- Strictly ascending names. -/
def Sorted (key : α → String) (xs : List α) : Prop :=
  xs.Pairwise fun x y => key x < key y

theorem insert_cons (key : α → String) (x y : α) (ys : List α) :
    insert key x (y :: ys) =
      if key x < key y then x :: y :: ys
      else if key x = key y then x :: ys
      else y :: insert key x ys := rfl

theorem find?_cons (key : α → String) (name : String) (x : α) (xs : List α) :
    find? key name (x :: xs) = if key x = name then some x else find? key name xs := by
  refine List.find?_cons.trans ?_
  by_cases hname : key x = name
  · simp [hname]
  · simp only [beq_eq_false_iff_ne.2 hname, if_neg hname]
    rfl

theorem mem_insert {key : α → String} {x z : α} {xs : List α} (h : z ∈ insert key x xs) :
    z = x ∨ z ∈ xs := by
  induction xs with
  | nil => exact .inl (List.mem_singleton.1 h)
  | cons y ys ih =>
    rw [insert_cons] at h
    split at h
    · simpa using h
    · split at h
      · rcases List.mem_cons.1 h with rfl | h
        · exact .inl rfl
        · exact .inr (List.mem_cons_of_mem _ h)
      · rcases List.mem_cons.1 h with rfl | h
        · exact .inr (List.mem_cons_self ..)
        · exact (ih h).imp id (List.mem_cons_of_mem _)

theorem sorted_insert {key : α → String} {x : α} {xs : List α} (h : Sorted key xs) :
    Sorted key (insert key x xs) := by
  induction xs with
  | nil => exact List.pairwise_singleton _ x
  | cons y ys ih =>
    obtain ⟨hy, hys⟩ := List.pairwise_cons.1 h
    rw [insert_cons]
    split
    · next hlt =>
      refine List.pairwise_cons.2 ⟨fun z hz => ?_, h⟩
      rcases List.mem_cons.1 hz with rfl | hz
      · exact hlt
      · exact String.lt_trans hlt (hy z hz)
    · split
      · next heq => exact List.pairwise_cons.2 ⟨fun z hz => heq ▸ hy z hz, hys⟩
      · next hlt hne =>
        refine List.pairwise_cons.2 ⟨fun z hz => ?_, ih hys⟩
        rcases mem_insert hz with rfl | hz
        · rcases Decidable.em (key y < key z) with hl | hl
          · exact hl
          · exact absurd (String.le_antisymm (String.not_lt.1 hl) (String.not_lt.1 hlt)) hne
        · exact hy z hz

theorem sorted_erase {key : α → String} {xs : List α} (name : String) (h : Sorted key xs) :
    Sorted key (erase key name xs) :=
  h.sublist List.filter_sublist

/-! ## What is found -/

theorem find?_insert_self (key : α → String) (x : α) (xs : List α) :
    find? key (key x) (insert key x xs) = some x := by
  induction xs with
  | nil => exact (find?_cons key (key x) x []).trans (if_pos rfl)
  | cons y ys ih =>
      rw [insert_cons]
      split
      · rw [find?_cons, if_pos rfl]
      · split
        · rw [find?_cons, if_pos rfl]
        · next hne => rw [find?_cons, if_neg (Ne.symm hne), ih]

theorem find?_insert_of_ne {key : α → String} {x : α} {name : String} (h : name ≠ key x)
    (xs : List α) : find? key name (insert key x xs) = find? key name xs := by
  induction xs with
  | nil => exact (find?_cons key name x []).trans (if_neg h.symm)
  | cons y ys ih =>
      rw [insert_cons]
      split
      · rw [find?_cons, if_neg h.symm]
      · split
        · next heq => rw [find?_cons, if_neg h.symm, find?_cons, if_neg (heq ▸ h.symm)]
        · rw [find?_cons, find?_cons, ih]

theorem find?_erase_self (key : α → String) (name : String) (xs : List α) :
    find? key name (erase key name xs) = none := by
  refine List.find?_eq_none.2 fun x hx => ?_
  have hne := (List.mem_filter.1 hx).2
  simpa using hne

theorem find?_erase_of_ne {key : α → String} {name name' : String} (h : name' ≠ name)
    (xs : List α) : find? key name' (erase key name xs) = find? key name' xs := by
  rw [find?, erase, List.find?_filter]
  congr 1
  funext x
  by_cases hx : key x = name'
  · simp [hx, h]
  · simp [hx]

theorem eq_of_find? {key : α → String} {name : String} {x : α} {xs : List α}
    (h : find? key name xs = some x) : x ∈ xs ∧ key x = name :=
  ⟨List.mem_of_find?_eq_some h, by simpa using List.find?_some h⟩

/-- In a list in order every entry is found under its name. -/
theorem find?_of_mem {key : α → String} {x : α} {xs : List α} (h : Sorted key xs) (hx : x ∈ xs) :
    find? key (key x) xs = some x := by
  induction xs with
  | nil => cases hx
  | cons y ys ih =>
      obtain ⟨hy, hys⟩ := List.pairwise_cons.1 h
      rw [find?_cons]
      rcases List.mem_cons.1 hx with rfl | hx
      · exact if_pos rfl
      · have hne : key y ≠ key x := by
          have hlt := hy x hx
          exact fun heq => String.lt_irrefl _ (heq ▸ hlt)
        rw [if_neg hne]
        exact ih hys hx

theorem value?_insert_self (name : String) (a : α) (entries : List (String × α)) :
    value? name (insert Prod.fst (name, a) entries) = some a :=
  congrArg (Option.map Prod.snd) (find?_insert_self Prod.fst (name, a) entries)

theorem value?_insert_of_ne {name other : String} (h : other ≠ name) (a : α)
    (entries : List (String × α)) :
    value? other (insert Prod.fst (name, a) entries) = value? other entries :=
  congrArg (Option.map Prod.snd) (find?_insert_of_ne h entries)

theorem value?_erase_of_ne {name other : String} (h : other ≠ name) (entries : List (String × α)) :
    value? other (erase Prod.fst name entries) = value? other entries :=
  congrArg (Option.map Prod.snd) (find?_erase_of_ne h entries)

theorem value?_eq_some {name : String} {a : α} {entries : List (String × α)}
    (h : value? name entries = some a) : (name, a) ∈ entries := by
  obtain ⟨⟨n, b⟩, hfound, rfl⟩ := Option.map_eq_some_iff.1 h
  obtain ⟨hmem, rfl⟩ := eq_of_find? hfound
  exact hmem

theorem value?_of_mem {e : String × α} {entries : List (String × α)}
    (h : Sorted Prod.fst entries) (he : e ∈ entries) : value? e.1 entries = some e.2 := by
  rw [value?, find?_of_mem h he]
  rfl

theorem erase_of_find?_eq_none {key : α → String} {name : String} {xs : List α}
    (h : find? key name xs = none) : erase key name xs = xs := by
  refine List.filter_eq_self.2 fun x hx => ?_
  have hne := List.find?_eq_none.1 h x hx
  simpa using hne

/-! ## Lists put in order -/

theorem sorted_foldl_insert {key : α → String} (xs : List α) {done : List α}
    (h : Sorted key done) : Sorted key (xs.foldl (fun sorted x => insert key x sorted) done) := by
  induction xs generalizing done with
  | nil => exact h
  | cons x xs ih => exact ih (sorted_insert h)

theorem sorted_ofList (key : α → String) (xs : List α) : Sorted key (ofList key xs) :=
  sorted_foldl_insert xs List.Pairwise.nil

theorem mem_ofList {key : α → String} {z : α} {xs : List α} (h : z ∈ ofList key xs) : z ∈ xs := by
  suffices ∀ sorted, z ∈ xs.foldl (fun sorted x => insert key x sorted) sorted →
      z ∈ sorted ∨ z ∈ xs by
    simpa using this [] h
  clear h
  induction xs with
  | nil => exact fun _ h => .inl h
  | cons x xs ih =>
      intro sorted h
      rcases ih _ h with h | h
      · rcases mem_insert h with rfl | h
        · exact .inr List.mem_cons_self
        · exact .inl h
      · exact .inr (List.mem_cons_of_mem x h)

/-! ## Values under their own names -/

section Named

variable {key : α → String} {x : α} {entries : List (String × α)}

theorem own_insert (h : ∀ e ∈ entries, e.1 = key e.2) :
    ∀ e ∈ insert Prod.fst (key x, x) entries, e.1 = key e.2 := by
  intro e he
  rcases mem_insert he with rfl | he
  · rfl
  · exact h e he

theorem own_erase {name : String} (h : ∀ e ∈ entries, e.1 = key e.2) :
    ∀ e ∈ erase Prod.fst name entries, e.1 = key e.2 :=
  fun e he => h e (List.mem_filter.1 he).1

theorem own_named (xs : List α) : ∀ e ∈ named key xs, e.1 = key e.2 := by
  intro e he
  obtain ⟨x, -, rfl⟩ := List.mem_map.1 he
  rfl

theorem own_ofList_named (xs : List α) :
    ∀ e ∈ ofList Prod.fst (named key xs), e.1 = key e.2 :=
  fun e he => own_named xs e (mem_ofList he)

theorem map_snd_named (xs : List α) : (named key xs).map Prod.snd = xs := by
  rw [named, List.map_map]
  exact List.map_id xs

/-- Such entries are known by their values. -/
theorem named_map_snd (h : ∀ e ∈ entries, e.1 = key e.2) :
    named key (entries.map Prod.snd) = entries := by
  have hself : ∀ e ∈ entries, (key e.2, e.2) = id e := fun e he => Prod.ext (h e he).symm rfl
  rw [named, List.map_map]
  exact (List.map_congr_left hself).trans (List.map_id entries)

theorem value?_eq_some_iff {name : String} (hsorted : Sorted Prod.fst entries)
    (h : ∀ e ∈ entries, e.1 = key e.2) :
    value? name entries = some x ↔ x ∈ entries.map Prod.snd ∧ key x = name := by
  constructor
  · intro hfound
    have hmem := value?_eq_some hfound
    exact ⟨List.mem_map_of_mem hmem, (h _ hmem).symm⟩
  · rintro ⟨hx, rfl⟩
    obtain ⟨e, he, rfl⟩ := List.mem_map.1 hx
    rw [← h e he]
    exact value?_of_mem hsorted he

theorem pairwise_names (hsorted : Sorted Prod.fst entries) (h : ∀ e ∈ entries, e.1 = key e.2) :
    ((entries.map Prod.snd).map key).Pairwise (· < ·) := by
  have hnames : (entries.map Prod.snd).map key = entries.map Prod.fst := by
    rw [List.map_map]
    exact List.map_congr_left fun e he => (h e he).symm
  rw [hnames]
  exact List.pairwise_map.2 hsorted

end Named

theorem insert_last {key : α → String} {x : α} {xs : List α} (h : ∀ y ∈ xs, key y < key x) :
    insert key x xs = xs ++ [x] := by
  induction xs with
  | nil => rfl
  | cons y ys ih =>
      have hy : key y < key x := h y List.mem_cons_self
      have hlt : ¬ key x < key y := fun hx => String.lt_irrefl _ (String.lt_trans hy hx)
      have hne : key x ≠ key y := fun he => String.lt_irrefl _ (he ▸ hy)
      rw [insert_cons, if_neg hlt, if_neg hne, ih fun z hz => h z (List.mem_cons_of_mem y hz)]
      rfl

/-- A list in order stays as it is. -/
theorem ofList_of_sorted {key : α → String} {xs : List α} (h : Sorted key xs) :
    ofList key xs = xs := by
  suffices ∀ done, Sorted key (done ++ xs) →
      xs.foldl (fun sorted x => insert key x sorted) done = done ++ xs from this [] h
  clear h
  induction xs with
  | nil => simp
  | cons x xs ih =>
      intro done h
      have hlast : ∀ y ∈ done, key y < key x := fun y hy =>
        (List.pairwise_append.1 h).2.2 y hy x List.mem_cons_self
      rw [List.foldl_cons, insert_last hlast, ih]
      · simp
      · simpa using h

/-! ## Lists in order -/

theorem Sorted.nodup {key : α → String} {xs : List α} (h : Sorted key xs) : xs.Nodup := by
  refine List.Pairwise.imp (fun {x y} hlt heq => ?_) h
  rw [heq] at hlt
  exact String.lt_irrefl _ hlt

/-- A list in order is known by its entries. -/
theorem Sorted.unique {key : α → String} {xs ys : List α} (hx : Sorted key xs)
    (hy : Sorted key ys) (h : ∀ z, z ∈ xs ↔ z ∈ ys) : xs = ys := by
  have hperm : xs.Perm ys := (List.perm_ext_iff_of_nodup hx.nodup hy.nodup).2 h
  exact hperm.eq_of_pairwise (fun _ _ _ _ hlt hgt => absurd hgt (String.lt_asymm hlt)) hx hy

/-- Entries of different names are in order once they are sorted. -/
theorem sorted_mergeSort {key : α → String} {xs : List α}
    (h : xs.Pairwise fun x y => key x ≠ key y) :
    Sorted key (xs.mergeSort fun x y => key x ≤ key y) := by
  have hsorted : (xs.mergeSort fun x y => decide (key x ≤ key y)).Pairwise
      fun x y => decide (key x ≤ key y) = true := by
    refine List.pairwise_mergeSort (fun x y z hxy hyz => ?_) (fun x y => ?_) xs
    · simpa using String.le_trans (by simpa using hxy) (by simpa using hyz)
    · simpa using String.le_total (key x) (key y)
  have hperm := List.mergeSort_perm xs fun x y => decide (key x ≤ key y)
  have hdistinct := (hperm.pairwise_iff fun {x y} hne => hne.symm).2 h
  refine (hsorted.and hdistinct).imp fun {x y} hxy => ?_
  have hle : key x ≤ key y := by simpa using hxy.1
  exact String.not_le.1 fun hge => hxy.2 (String.le_antisymm hle hge)

end Sluice.Keyed
