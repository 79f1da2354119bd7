import Sluice.Text.Bytes
import Sluice.Value.Basic

/-!
# Reading JSON text

`Value.read` turns JSON text into a value or says what is wrong and where. A key that occurs
twice keeps its first position and takes its last value, at most 127 sequences and mappings may
stand inside each other, and a number too large for a double is refused. Strings and numbers return
a rest that is shorter than what they were given; nesting is bounded by the length of the text.
-/

namespace Sluice.Value

/-- What can be wrong with JSON text. -/
inductive Fault where
  | endInList
  | endInObject
  | endInString
  | endInValue
  | expectedColon
  | expectedListCommaOrEnd
  | expectedObjectCommaOrEnd
  | expectedIdent
  | expectedValue
  | invalidEscape
  | invalidNumber
  | numberOutOfRange
  | controlCharacter
  | keyMustBeString
  | loneSurrogate
  | trailingComma
  | trailingCharacters
  | brokenSurrogatePair
  | tooDeep
deriving DecidableEq

def Fault.message : Fault → String
  | endInList => "EOF while parsing a list"
  | endInObject => "EOF while parsing an object"
  | endInString => "EOF while parsing a string"
  | endInValue => "EOF while parsing a value"
  | expectedColon => "expected `:`"
  | expectedListCommaOrEnd => "expected `,` or `]`"
  | expectedObjectCommaOrEnd => "expected `,` or `\x7d`"
  | expectedIdent => "expected ident"
  | expectedValue => "expected value"
  | invalidEscape => "invalid escape"
  | invalidNumber => "invalid number"
  | numberOutOfRange => "number out of range"
  | controlCharacter => "control character (\\u0000-\\u001F) found while parsing a string"
  | keyMustBeString => "key must be a string"
  | loneSurrogate => "lone leading surrogate in hex escape"
  | trailingComma => "trailing comma"
  | trailingCharacters => "trailing characters"
  | brokenSurrogatePair => "unexpected end of hex escape"
  | tooDeep => "recursion limit exceeded"

/-- Where reading stopped: `past` bytes into what was left. -/
structure Stop where
  fault : Fault
  left : List Char
  past : Nat

/-- What is left after a step, shorter than what was there before. -/
abbrev Rest (cs : List Char) := { r : List Char // r.length < cs.length }

/-- What is left after a step that may take nothing. -/
abbrev Below (cs : List Char) := { r : List Char // r.length ≤ cs.length }

namespace Reader

/-! ## Blanks and fixed words -/

/-- The blanks of JSON: space, tab, line feed, carriage return. -/
def isBlank (c : Char) : Bool :=
  c == ' ' || c == '\t' || c == '\n' || c == '\r'

def skip : List Char → List Char
  | [] => []
  | c :: cs => if isBlank c then skip cs else c :: cs

theorem skip_length_le (cs : List Char) : (skip cs).length ≤ cs.length := by
  induction cs with
  | nil => simp [skip]
  | cons c cs ih =>
    unfold skip
    split
    · exact Nat.le_succ_of_le ih
    · simp

/-- The remaining letters of a fixed word. -/
def word : List Char → (cs : List Char) → Except Stop (Below cs)
  | [], cs => .ok ⟨cs, Nat.le_refl _⟩
  | _ :: _, [] => .error ⟨.endInValue, [], 0⟩
  | w :: ws, c :: cs =>
    if c = w then (word ws cs).map fun r => ⟨r.1, Nat.le_succ_of_le r.2⟩
    else .error ⟨.expectedIdent, c :: cs, 1⟩

/-! ## Strings -/

def hexValue? (c : Char) : Option Nat :=
  if '0' ≤ c ∧ c ≤ '9' then some (c.toNat - 48)
  else if 'a' ≤ c ∧ c ≤ 'f' then some (c.toNat - 87)
  else if 'A' ≤ c ∧ c ≤ 'F' then some (c.toNat - 55)
  else none

def hexFour (cs : List Char) : Except Stop (Nat × Rest cs) :=
  match cs with
  | a :: b :: c :: d :: rest =>
    match hexValue? a, hexValue? b, hexValue? c, hexValue? d with
    | some a, some b, some c, some d =>
      .ok (((a * 16 + b) * 16 + c) * 16 + d, ⟨rest, by simp; omega⟩)
    | _, _, _, _ => .error ⟨.invalidEscape, cs, 4⟩
  | _ =>
    if Text.byteLength cs < 4 then .error ⟨.endInString, [], 0⟩
    else .error ⟨.invalidEscape, cs, 4⟩

/-- The character of a `\u` escape, a surrogate pair included. -/
def unicodeEscape (cs : List Char) : Except Stop (Char × Rest cs) := do
  let (n, ⟨rest, hrest⟩) ← hexFour cs
  if 0xdc00 ≤ n ∧ n ≤ 0xdfff then .error ⟨.loneSurrogate, rest, 0⟩
  else if n < 0xd800 ∨ 0xdbff < n then .ok (Char.ofNat n, ⟨rest, hrest⟩)
  else
    match rest, hrest with
    | [], _ => .error ⟨.endInString, [], 0⟩
    | '\\' :: [], _ => .error ⟨.endInString, [], 0⟩
    | '\\' :: 'u' :: rest', h => do
      let (low, ⟨rest'', hlow⟩) ← hexFour rest'
      if low < 0xdc00 ∨ 0xdfff < low then .error ⟨.loneSurrogate, rest'', 0⟩
      else
        .ok (Char.ofNat ((n - 0xd800) * 0x400 + (low - 0xdc00) + 0x10000),
          ⟨rest'', by simp at h; omega⟩)
    | '\\' :: rest', _ => .error ⟨.brokenSurrogatePair, rest', 1⟩
    | rest', _ => .error ⟨.brokenSurrogatePair, rest', 1⟩

/-- The character of an escape, from what follows the backslash. -/
def escape (cs : List Char) : Except Stop (Char × Rest cs) :=
  match cs with
  | [] => .error ⟨.endInString, [], 0⟩
  | c :: rest =>
    let plain (d : Char) : Except Stop (Char × Rest (c :: rest)) := .ok (d, ⟨rest, by simp⟩)
    match c with
    | '"' => plain '"'
    | '\\' => plain '\\'
    | '/' => plain '/'
    | 'b' => plain '\x08'
    | 'f' => plain '\x0c'
    | 'n' => plain '\n'
    | 'r' => plain '\r'
    | 't' => plain '\t'
    | 'u' => (unicodeEscape rest).map fun (d, r) => (d, ⟨r.1, Nat.lt_succ_of_lt r.2⟩)
    | _ => .error ⟨.invalidEscape, cs, 1⟩

def stringBody (cs : List Char) : Except Stop (List Char × Rest cs) :=
  match cs with
  | [] => .error ⟨.endInString, [], 0⟩
  | c :: rest =>
    if c = '"' then .ok ([], ⟨rest, by simp⟩)
    else if c = '\\' then
      match escape rest with
      | .error stop => .error stop
      | .ok (d, ⟨r, hr⟩) =>
        (stringBody r).map fun (ds, r') => (d :: ds, ⟨r'.1, by have := r'.2; simp; omega⟩)
    else if c.toNat < 0x20 then .error ⟨.controlCharacter, c :: rest, 1⟩
    else (stringBody rest).map fun (ds, r') => (c :: ds, ⟨r'.1, by have := r'.2; simp; omega⟩)
termination_by cs.length
decreasing_by all_goals simp; try omega

/-! ## Numbers -/

def digitValue (c : Char) : Nat :=
  c.toNat - 48

/-- Extends a significand by digits for as long as it stays below `2 ^ 64`; the digits that do
not fit are counted. -/
def extend (significand : Nat) : List Char → Nat × Nat
  | [] => (significand, 0)
  | c :: cs =>
    let next := significand * 10 + digitValue c
    if next < 0x10000000000000000 then extend next cs else (significand, cs.length + 1)

/-- A double times `10 ^ power`, by one multiplication or division for each 308 places. None when
the result is too large. Two divisions bring every significand below the least double. -/
def scale : Nat → Double → Int → Option Double
  | 0, d, _ => some d
  | fuel + 1, d, power =>
    if power.natAbs ≤ 308 then
      let r :=
        if 0 ≤ power then d.mul (.ofDecimal false 1 power)
        else d.div (.ofDecimal false 1 (-power))
      if r.isFinite then some r else none
    else if d.mantissa = 0 then some d
    else if 0 ≤ power then none
    else scale fuel (d.div (.ofDecimal false 1 308)) (power + 308)

/-- The double of a significand and a power of ten. -/
def decimal (negative : Bool) (significand : Nat) (power : Int) (rest : List Char) :
    Except Stop Number :=
  match (scale 3 (Double.ofNat significand) power).bind fun d =>
      Number.ofDouble? (if negative then d.neg else d) with
  | some n => .ok n
  | none => .error ⟨.numberOutOfRange, rest, 0⟩

def digits (cs : List Char) : List Char × Below cs :=
  (cs.takeWhile Char.isDigit, ⟨cs.dropWhile Char.isDigit, (List.dropWhile_sublist _).length_le⟩)

/-- The digits after a point; none when there is no point. -/
def fraction (cs : List Char) : Except Stop (List Char × Below cs) :=
  match cs with
  | '.' :: rest =>
    match digits rest with
    | ([], _) => .error (if rest.isEmpty then ⟨.endInValue, [], 0⟩ else ⟨.invalidNumber, rest, 1⟩)
    | (ds, ⟨after, h⟩) => .ok (ds, ⟨after, Nat.le_succ_of_le h⟩)
  | cs => .ok ([], ⟨cs, Nat.le_refl _⟩)

/-- The digits of the exponent, which has to fit 32 bits: one that does not is an error unless it
cannot change the number, which is when the significand is zero or the exponent is negative. -/
def exponentValue (negative vanishes : Bool) (cs : List Char) : Nat → List Char → Except Stop Int
  | n, [] => .ok (if negative then -(n : Int) else n)
  | n, d :: ds =>
    let next := n * 10 + digitValue d
    if next < 0x80000000 then exponentValue negative vanishes (cs.drop 1) next ds
    else if vanishes then .ok 0
    else if negative then .ok (-0x80000000)
    else .error ⟨.numberOutOfRange, cs, 1⟩

def dropSign : List Char → List Char
  | '+' :: rest | '-' :: rest => rest
  | cs => cs

theorem length_le_of_dropSign (e : Char) (rest : List Char) {after : List Char}
    (h : after.length ≤ (dropSign rest).length) : after.length ≤ (e :: rest).length := by
  have hle : (dropSign rest).length ≤ rest.length := by
    unfold dropSign
    split
    · exact Nat.le_succ _
    · exact Nat.le_succ _
    · exact Nat.le_refl _
  exact Nat.le_succ_of_le (Nat.le_trans h hle)

def untouched (cs : List Char) : Below cs := ⟨cs, Nat.le_refl _⟩

def exponent (vanishes : Bool) (cs : List Char) : Except Stop (Option Int × Below cs) :=
  match cs with
  | [] => .ok (none, untouched [])
  | e :: rest =>
    if e = 'e' ∨ e = 'E' then
      let negative := rest.head? == some '-'
      let unsigned := dropSign rest
      match digits unsigned with
      | ([], _) =>
        .error (if unsigned.isEmpty then ⟨.endInValue, [], 0⟩ else ⟨.invalidNumber, unsigned, 1⟩)
      | (ds, ⟨after, h⟩) =>
        (exponentValue negative vanishes unsigned 0 ds).map fun n =>
          (some n, ⟨after, length_le_of_dropSign e rest h⟩)
    else .ok (none, untouched (e :: rest))

/-- A number written without point and exponent: an integer if it fits a word. `-0` is a double. -/
def whole? (negative : Bool) (n : Nat) : Option Number :=
  if negative then if n = 0 then none else Number.ofInt? (-n) else Number.ofInt? n

def number (negative : Bool) (cs : List Char) : Except Stop (Number × Rest cs) :=
  match cs with
  | [] => .error ⟨.endInValue, [], 0⟩
  | c :: rest =>
    if !c.isDigit then .error ⟨.invalidNumber, c :: rest, 1⟩
    else if c = '0' ∧ rest.head?.any Char.isDigit then .error ⟨.invalidNumber, rest, 1⟩
    else do
      let (ds, ⟨r₁, h₁⟩) := digits rest
      let (frac, ⟨r₂, h₂⟩) ← fraction r₁
      let (significand, dropped) := extend 0 (c :: ds)
      let (significand, lost) := extend significand frac
      let (e, ⟨r₃, h₃⟩) ← exponent (significand == 0) r₂
      have h : r₃.length < (c :: rest).length := by simp; omega
      let exact :=
        if frac.isEmpty && e.isNone && dropped == 0 then whole? negative significand else none
      match exact with
      | some n => .ok (n, ⟨r₃, h⟩)
      | none =>
        let power : Int := dropped - (frac.length - lost : Nat) + e.getD 0
        let n ← decimal negative significand power r₃
        .ok (n, ⟨r₃, h⟩)

/-! ## Values -/

/-- What stands in front of an item: nothing for the first one, then a comma. -/
def beforeItem (first : Bool) (c : Char) (rest : List Char) : Except Stop (List Char) :=
  if first then .ok (c :: rest)
  else if c = ',' then
    match skip rest with
    | [] => .error ⟨.endInValue, [], 0⟩
    | d :: after => if d = ']' then .error ⟨.trailingComma, d :: after, 1⟩ else .ok (d :: after)
  else .error ⟨.expectedListCommaOrEnd, c :: rest, 1⟩

/-- What stands in front of a key: nothing for the first one, then a comma. Ends behind the
opening quote of the key. -/
def beforeKey (first : Bool) (c : Char) (rest : List Char) : Except Stop (List Char) :=
  if first then if c = '"' then .ok rest else .error ⟨.keyMustBeString, c :: rest, 1⟩
  else if c = ',' then
    match skip rest with
    | [] => .error ⟨.endInValue, [], 0⟩
    | d :: after =>
      if d = '"' then .ok after
      else if d = '\x7d' then .error ⟨.trailingComma, d :: after, 1⟩
      else .error ⟨.keyMustBeString, d :: after, 1⟩
  else .error ⟨.expectedObjectCommaOrEnd, c :: rest, 1⟩

def colon (cs : List Char) : Except Stop (List Char) :=
  match skip cs with
  | [] => .error ⟨.endInObject, [], 0⟩
  | c :: rest => if c = ':' then .ok rest else .error ⟨.expectedColon, c :: rest, 1⟩

/-- A value that is neither sequence nor mapping. -/
def scalar (c : Char) (rest : List Char) : Except Stop (Value × Rest (c :: rest)) :=
  if c = 'n' then
    (word ['u', 'l', 'l'] rest).map fun r => (.null, ⟨r.1, Nat.lt_succ_of_le r.2⟩)
  else if c = 't' then
    (word ['r', 'u', 'e'] rest).map fun r => (.bool true, ⟨r.1, Nat.lt_succ_of_le r.2⟩)
  else if c = 'f' then
    (word ['a', 'l', 's', 'e'] rest).map fun r => (.bool false, ⟨r.1, Nat.lt_succ_of_le r.2⟩)
  else if c = '-' then
    (number true rest).map fun (n, r) => (.num n, ⟨r.1, Nat.lt_succ_of_lt r.2⟩)
  else if c.isDigit then (number false (c :: rest)).map fun (n, r) => (.num n, r)
  else .error ⟨.expectedValue, c :: rest, 1⟩

mutual

/-- One value, with room for `depth` more levels. The fuel bounds the number of steps. -/
def value : (fuel depth : Nat) → List Char → Except Stop (Value × List Char)
  | 0, _, cs => .error ⟨.tooDeep, cs, 0⟩
  | fuel + 1, depth, cs =>
    match skip cs with
    | [] => .error ⟨.endInValue, [], 0⟩
    | c :: rest =>
      if c = '"' then (stringBody rest).map fun (s, r) => (.str (String.ofList s), r.1)
      else if c = '[' then
        if depth = 0 then .error ⟨.tooDeep, c :: rest, 1⟩
        else (items fuel (depth - 1) true rest).map fun (xs, r) => (.seq xs, r)
      else if c = '\x7b' then
        if depth = 0 then .error ⟨.tooDeep, c :: rest, 1⟩
        else (fields fuel (depth - 1) true rest).map fun (fs, r) => (.map (Fields.ofPairs fs), r)
      else (scalar c rest).map fun (v, r) => (v, r.1)

def items : (fuel depth : Nat) → (first : Bool) → List Char → Except Stop (List Value × List Char)
  | 0, _, _, cs => .error ⟨.tooDeep, cs, 0⟩
  | fuel + 1, depth, first, cs =>
    match skip cs with
    | [] => .error ⟨.endInList, [], 0⟩
    | c :: rest =>
      if c = ']' then .ok ([], rest)
      else do
        let start ← beforeItem first c rest
        let (x, r) ← value fuel depth start
        let (xs, r) ← items fuel depth false r
        .ok (x :: xs, r)

def fields : (fuel depth : Nat) → (first : Bool) → List Char →
    Except Stop (List (String × Value) × List Char)
  | 0, _, _, cs => .error ⟨.tooDeep, cs, 0⟩
  | fuel + 1, depth, first, cs =>
    match skip cs with
    | [] => .error ⟨.endInObject, [], 0⟩
    | c :: rest =>
      if c = '\x7d' then .ok ([], rest)
      else do
        let start ← beforeKey first c rest
        let (k, r) ← stringBody start
        let after ← colon r.1
        let (x, r) ← value fuel depth after
        let (fs, r) ← fields fuel depth false r
        .ok ((String.ofList k, x) :: fs, r)

end

/-- A whole text: one value with nothing but blanks around it. -/
def document (cs : List Char) : Except Stop Value :=
  -- Every step but the last of two takes a character.
  match value (2 * cs.length + 2) 127 cs with
  | .error stop => .error stop
  | .ok (v, rest) =>
    match skip rest with
    | [] => .ok v
    | left => .error ⟨.trailingCharacters, left, 1⟩

end Reader

/-! ## Positions -/

/-- A fault with its line and the bytes before it on that line. -/
structure ReadError where
  fault : Fault
  line : Nat
  column : Nat
deriving DecidableEq

/-- The line, from 1, and the bytes since its start, at byte `index`. -/
def lineAndColumn : List Char → Nat → Nat × Nat → Nat × Nat
  | [], _, at' => at'
  | c :: cs, index, (line, column) =>
    if index = 0 then (line, column)
    else if c = '\n' then lineAndColumn cs (index - 1) (line + 1, 0)
    else lineAndColumn cs (index - c.utf8Size) (line, column + min index c.utf8Size)

def ReadError.message (e : ReadError) : String :=
  s!"{e.fault.message} at line {e.line} column {e.column}"

def read (text : String) : Except ReadError Value :=
  let cs := text.toList
  match Reader.document cs with
  | .ok v => .ok v
  | .error stop =>
    let size := Text.byteLength cs
    let index := min size (size - Text.byteLength stop.left + stop.past)
    let (line, column) := lineAndColumn cs index (1, 0)
    .error ⟨stop.fault, line, column⟩

/-- Reads JSON text, without a reason when it is not JSON. -/
def read? (text : String) : Option Value :=
  (Reader.document text.toList).toOption

end Sluice.Value
