import Sluice.Double.Basic

/-!
# Values

The structured data that flows between the commands of a pipeline: null, booleans, numbers, text,
sequences and mappings. A mapping keeps its fields in the order in which they were first set, and
an integer in the range `-2 ^ 63 .. 2 ^ 64 - 1` is kept exactly; every other number is a finite
double.
-/

namespace Sluice

/-- The integers that fit a 64-bit word, signed or unsigned. -/
def FitsWord (i : Int) : Prop :=
  -0x8000000000000000 ≤ i ∧ i < 0x10000000000000000

instance (i : Int) : Decidable (FitsWord i) :=
  inferInstanceAs (Decidable (_ ∧ _))

/-- An integer that fits a word, or a finite double. -/
inductive Number where
  | int (value : Int) (fits : FitsWord value)
  | double (value : Double) (finite : value.isFinite = true)
deriving DecidableEq

/-- A piece of structured data. -/
inductive Value where
  | null
  | bool (b : Bool)
  | num (n : Number)
  | str (s : String)
  | seq (items : List Value)
  | map (fields : List (String × Value))

instance : Inhabited Value := ⟨.null⟩

/-- The fields of a mapping, in order. -/
abbrev Fields := List (String × Value)

/-! ## Numbers -/

namespace Number

def ofInt? (i : Int) : Option Number :=
  if h : FitsWord i then some (.int i h) else none

/-- The double as a number, when it is finite. -/
def ofDouble? (d : Double) : Option Number :=
  if h : d.isFinite = true then some (.double d h) else none

/-- A count as a number; counts beyond the range stop at its end. -/
def ofNat (n : Nat) : Number :=
  .int (min n 0xffffffffffffffff : Nat) (by unfold FitsWord; omega)

end Number

/-! ## Fields -/

namespace Fields

def get? : Fields → String → Option Value
  | [], _ => none
  | (k, v) :: rest, key => if k = key then some v else get? rest key

/-- Sets a key: in its place if it is there, at the end if it is new. -/
def put : Fields → String → Value → Fields
  | [], key, value => [(key, value)]
  | (k, v) :: rest, key, value =>
    if k = key then (k, value) :: rest else (k, v) :: put rest key value

def keys (fields : Fields) : List String :=
  fields.map Prod.fst

/-- Sets the pairs one after another: the first position and the last value of a key count. -/
def ofPairs (pairs : List (String × Value)) : Fields :=
  pairs.foldl (fun fields p => fields.put p.1 p.2) []

@[simp] theorem get?_put (fields : Fields) (key key' : String) (value : Value) :
    (fields.put key value).get? key' = if key = key' then some value else fields.get? key' := by
  induction fields with
  | nil => simp [put, get?]
  | cons f fs ih =>
    obtain ⟨k, v⟩ := f
    by_cases h : k = key
    · subst h
      by_cases h' : k = key' <;> simp [put, get?, h']
    · by_cases h' : k = key'
      · subst h'
        simp [put, get?, h, Ne.symm h]
      · simp [put, get?, h, h', ih]

end Fields

namespace Value

def ofNat (n : Nat) : Value :=
  .num (.ofNat n)

def ofText? : Option String → Value
  | some s => .str s
  | none => .null

/-! ## Equality -/

mutual

/-- Structural equality, the order of fields included. -/
def same : Value → Value → Bool
  | .null, .null => true
  | .bool a, .bool b => decide (a = b)
  | .num a, .num b => decide (a = b)
  | .str a, .str b => decide (a = b)
  | .seq xs, .seq ys => sameItems xs ys
  | .map xs, .map ys => sameFields xs ys
  | _, _ => false

def sameItems : List Value → List Value → Bool
  | [], [] => true
  | x :: xs, y :: ys => same x y && sameItems xs ys
  | _, _ => false

def sameFields : List (String × Value) → List (String × Value) → Bool
  | [], [] => true
  | (k, x) :: xs, (l, y) :: ys => decide (k = l) && same x y && sameFields xs ys
  | _, _ => false

end

mutual

theorem eq_of_same (a : Value) : ∀ b, same a b = true → a = b := by
  intro b h
  cases a with
  | seq xs =>
    cases b with
    | seq ys => exact congrArg _ (eq_of_sameItems xs ys h)
    | _ => simp [same] at h
  | map xs =>
    cases b with
    | map ys => exact congrArg _ (eq_of_sameFields xs ys h)
    | _ => simp [same] at h
  | _ => cases b <;> simp_all [same]

theorem eq_of_sameItems (xs : List Value) : ∀ ys, sameItems xs ys = true → xs = ys := by
  intro ys h
  match xs, ys with
  | [], [] => rfl
  | [], _ :: _ => simp [sameItems] at h
  | _ :: _, [] => simp [sameItems] at h
  | x :: xs, y :: ys =>
    simp only [sameItems, Bool.and_eq_true] at h
    rw [eq_of_same x y h.1, eq_of_sameItems xs ys h.2]

theorem eq_of_sameFields (xs : List (String × Value)) :
    ∀ ys, sameFields xs ys = true → xs = ys := by
  intro ys h
  match xs, ys with
  | [], [] => rfl
  | [], _ :: _ => simp [sameFields] at h
  | _ :: _, [] => simp [sameFields] at h
  | (k, x) :: xs, (l, y) :: ys =>
    simp only [sameFields, Bool.and_eq_true, decide_eq_true_eq] at h
    rw [h.1.1, eq_of_same x y h.1.2, eq_of_sameFields xs ys h.2]

end

mutual

theorem same_self : ∀ a : Value, same a a = true
  | .null => rfl
  | .bool _ => decide_eq_true rfl
  | .num _ => decide_eq_true rfl
  | .str _ => decide_eq_true rfl
  | .seq xs => sameItems_self xs
  | .map xs => sameFields_self xs

theorem sameItems_self : ∀ xs : List Value, sameItems xs xs = true
  | [] => rfl
  | x :: xs => by simp [sameItems, same_self x, sameItems_self xs]

theorem sameFields_self : ∀ xs : List (String × Value), sameFields xs xs = true
  | [] => rfl
  | (_, x) :: xs => by simp [sameFields, same_self x, sameFields_self xs]

end

instance : DecidableEq Value := fun a b =>
  if h : same a b = true then isTrue (eq_of_same a b h)
  else isFalse fun e => h (e ▸ same_self a)

/-! ## Well-formed values -/

mutual

/-- No mapping inside the value has a key twice. -/
def Distinct : Value → Prop
  | .seq xs => DistinctList xs
  | .map fs => (fs.map Prod.fst).Nodup ∧ DistinctFields fs
  | _ => True

def DistinctList : List Value → Prop
  | [] => True
  | x :: xs => Distinct x ∧ DistinctList xs

def DistinctFields : List (String × Value) → Prop
  | [] => True
  | (_, x) :: xs => Distinct x ∧ DistinctFields xs

end

mutual

/-- How many sequences and mappings stand around the innermost part. -/
def depth : Value → Nat
  | .seq xs => depthList xs + 1
  | .map fs => depthFields fs + 1
  | _ => 0

def depthList : List Value → Nat
  | [] => 0
  | x :: xs => max (depth x) (depthList xs)

def depthFields : List (String × Value) → Nat
  | [] => 0
  | (_, x) :: xs => max (depth x) (depthFields xs)

end

end Value

end Sluice
