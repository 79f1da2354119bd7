import Sluice.Query.Arithmetic
import Sluice.Query.Reader
import Sluice.Text.Blank
import Sluice.Text.Regex.Machine
import Sluice.Text.Regex.Reader
import Sluice.Text.Utf8

/-!
# Built-in functions of values

The functions that a query can call and that need no term as an argument: each takes its input and
the values of its arguments and gives a stream. `natives` lists them with their names.
-/

namespace Sluice.Query

/-- A function of an input and arguments. -/
abbrev Native := Datum → List Datum → Results Datum

namespace Native

/-! ## Shapes of functions -/

def plain (f : Datum → Except Trouble Datum) : Native
  | d, _ => .ofExcept (f d)

def with1 (f : Datum → Datum → Except Trouble Datum) : Native
  | d, [x] => .ofExcept (f d x)
  | _, _ => .done

def with2 (f : Datum → Datum → Datum → Except Trouble Datum) : Native
  | d, [x, y] => .ofExcept (f d x y)
  | _, _ => .done

def needText : Datum → Except Trouble String
  | .str s => .ok s
  | d => .error (cannotUse d "string")

def needItems : Datum → Except Trouble (List Datum)
  | .arr xs => .ok xs
  | d => .error (cannotUse d "array")

def needNumber : Datum → Except Trouble Quantity
  | .num q => .ok q
  | d => .error (cannotUse d "number")

/-- A function of texts. -/
def onText (f : String → Datum) : Native :=
  plain fun d => (needText d).map f

def onTexts (f : String → String → Datum) : Native :=
  with1 fun d x => do .ok (f (← needText d) (← needText x))

/-! ## Numbers -/

def magnitude : Quantity → Quantity
  | .int i => .int i.natAbs
  | q => .double ⟨q.toDouble.bits &&& 0x7fffffffffffffff⟩

/-- A number rounded to an integer by a rule for `num / den`. The first integer above those of 64
bits becomes the last of them. -/
def rounded (rule : Int → Nat → Int) : Native :=
  plain fun d => do
    match ← needNumber d with
    | .int i => .ok (.ofInt i)
    | q =>
      let x := q.toDouble
      if x.isFinite then
        let num : Int := x.ratio.1
        let whole := rule (if x.isNegative then -num else num) x.ratio.2
        .ok (.ofInt (if whole = 0x8000000000000000 then whole - 1 else whole))
      else .ok (.ofDouble x)

/-- A half goes away from zero. -/
def roundHalf (num : Int) (den : Nat) : Int :=
  let n : Int := (2 * num.natAbs + den) / (2 * den)
  if num < 0 then -n else n

def viaFloat (f : Float → Float) : Native :=
  plain fun d => do .ok (.ofDouble (.ofFloat (f (← needNumber d).toDouble.toFloat)))

/-- Whether a count has not reached its end, for a step of a sign. -/
def before (sign : Ordering) (d stop : Datum) : Bool :=
  match sign with
  | .gt => d.compare stop == .lt
  | .lt => d.compare stop == .gt
  | .eq => d.compare stop != .eq

/-- Steps from a datum toward another, `n` at most. -/
def countFrom (sign : Ordering) (stop step : Datum) : Nat → Datum → Results Datum
  | 0, _ => .fault .exhausted
  | n + 1, d =>
    if before sign d stop then
      .next (.ok d) fun _ =>
        match arithmetic .add d step with
        | .ok d => countFrom sign stop step n d
        | .error t => .fault t
    else .done

/-- How many steps a count may take. -/
def maxCount : Nat := 1000000000

/-- The data from one up (or down) to another, which is left out. Without a step in either
direction the count stands still. -/
def range : Native
  | _, [start, stop, step] => countFrom (step.compare (.ofInt 0)) stop step maxCount start
  | _, _ => .done

/-! ## Texts -/

def upper (c : Char) : Char :=
  if 'a' ≤ c && c ≤ 'z' then Char.ofNat (c.toNat - 32) else c

def lower (c : Char) : Char :=
  if 'A' ≤ c && c ≤ 'Z' then Char.ofNat (c.toNat + 32) else c

def mapText (f : List Char → List Char) : Native :=
  onText fun s => .str (String.ofList (f s.toList))

def explode : Native :=
  onText fun s => .arr (s.toList.map fun c => .ofInt c.toNat)

/-- The bytes of a code point; a negative number stands for a byte of its own. -/
def pointBytes : Datum → Except Trouble (List UInt8)
  | .num (.int i) =>
    if 0 ≤ i && i.toNat.isValidChar then .ok (String.singleton (Char.ofNat i.toNat)).toUTF8.toList
    else if i < 0 && -255 ≤ i then .ok [UInt8.ofNat i.natAbs]
    else .error (.raised (.str s!"cannot use {i} as character"))
  | x => .error (cannotUse x "integer")

def implode : Native :=
  plain fun d => do
    let points ← (← needItems d).mapM pointBytes
    .ok (.str (Text.decodeLossy points.flatten))

def dropLead (s t : String) : Datum :=
  .str (String.ofList ((Text.stripLead? t.toList s.toList).getD s.toList))

def dropTail (s t : String) : Datum :=
  .str (String.ofList ((Text.stripTail? t.toList s.toList).getD s.toList))

def occurs (needle : List Char) (cs : List Char) : Bool :=
  (Text.cut? needle cs).isSome

/-- The positions of a text in a text, or of items in a sequence. -/
def indices : Native :=
  with1 fun d x =>
    match d, x with
    | .str s, .str t =>
      .ok (.arr (if t.isEmpty then [] else Datum.positions (t.toList.isPrefixOf ·) 0 s.toList))
    | .arr xs, .arr ys => .ok (.arr (Datum.occurrences xs ys))
    | .arr xs, y => .ok (.arr (Datum.positions (fun rest => rest.head?.any y.same) 0 xs))
    | d, y => .error (cannotIndex d y)

/-! ## Formats -/

def base64Digits : List Char :=
  "ABCDEFGHIJKLMNOPQRSTUVWXYZabcdefghijklmnopqrstuvwxyz0123456789+/".toList

def base64 : List UInt8 → List Char
  | [] => []
  | [a] =>
    let n := a.toNat * 16
    [base64Digits.getD (n / 64) 'A', base64Digits.getD (n % 64) 'A', '=', '=']
  | [a, b] =>
    let n := (a.toNat * 256 + b.toNat) * 4
    [base64Digits.getD (n / 4096) 'A', base64Digits.getD (n / 64 % 64) 'A',
      base64Digits.getD (n % 64) 'A', '=']
  | a :: b :: c :: rest =>
    let n := (a.toNat * 256 + b.toNat) * 256 + c.toNat
    base64Digits.getD (n / 262144) 'A' :: base64Digits.getD (n / 4096 % 64) 'A' ::
      base64Digits.getD (n / 64 % 64) 'A' :: base64Digits.getD (n % 64) 'A' :: base64 rest

/-- The bytes of base 64 digits: six bits a digit, given out by eights. -/
def unbase64 (bits count : Nat) : List Char → Option (List UInt8)
  | [] => some []
  | c :: cs =>
    if c = '=' then (if cs.all (· == '=') then some [] else none)
    else do
      let digit ← base64Digits.findIdx? (· == c)
      let bits := bits * 64 + digit
      if count + 6 < 8 then unbase64 bits (count + 6) cs
      else
        let left := count + 6 - 8
        (unbase64 (bits % Nat.pow 2 left) left cs).map (UInt8.ofNat (bits / Nat.pow 2 left) :: ·)

/-- A character in a text for a web page. -/
def htmlChar (c : Char) : List Char :=
  match c with
  | '<' => "&lt;".toList
  | '>' => "&gt;".toList
  | '&' => "&amp;".toList
  | '\'' => "&#39;".toList
  | '"' => "&quot;".toList
  | c => [c]

def uriByte (b : UInt8) : List Char :=
  let c := Char.ofNat b.toNat
  if c.isAlphanum || c == '-' || c == '_' || c == '.' || c == '~' then [c]
  else ['%', upper (hexDigit (b.toNat / 16)), upper (hexDigit (b.toNat % 16))]

def shellWord : Datum → Except Trouble (List Char)
  | .str s => .ok ('\'' :: (s.toList.flatMap fun c =>
      if c = '\'' then ['\'', '\\', '\'', '\''] else [c]) ++ ['\''])
  | .arr _ => .error (.raised (.str "cannot be escaped for shell"))
  | .obj _ => .error (.raised (.str "cannot be escaped for shell"))
  | d => .ok d.chars

def format (name : String) (d : Datum) : Except Trouble Datum :=
  match name with
  | "json" => .ok (.str d.json)
  | "html" => .ok (.str (String.ofList (d.text.toList.flatMap htmlChar)))
  | "uri" => .ok (.str (String.ofList (d.text.toUTF8.toList.flatMap uriByte)))
  | "base64" => .ok (.str (String.ofList (base64 d.text.toUTF8.toList)))
  | "base64d" =>
    match unbase64 0 0 d.text.toList with
    | some bytes => .ok (.str (Text.decodeLossy bytes))
    | none => .error (.raised (.str "trying to decode invalid base64"))
  | "sh" =>
    match d with
    | .arr xs => do .ok (.str (String.ofList (Text.joinChars [' '] (← xs.mapM shellWord))))
    | d => do .ok (.str (String.ofList (← shellWord d)))
  | _ => .ok (.str d.text)

def formats : List String :=
  ["text", "json", "html", "uri", "base64", "base64d", "sh"]

/-! ## Containers -/

mutual

/-- Whether the first datum holds the second: a text as a part, items and fields each. -/
def holds : Nat → Datum → Datum → Bool
  | 0, a, b => a.same b
  | n + 1, a, b =>
    match a, b with
    | .str s, .str t => occurs t.toList s.toList
    | .arr xs, .arr ys => ys.all fun y => xs.any fun x => holds n x y
    | .obj xs, .obj ys => ys.all fun y => ((field? y.1 xs).map fun x => holds n x y.2).getD false
    | a, b => a.same b

end

def keyed (d keys : Datum) : Except Trouble (List (Datum × Datum)) := do
  .ok ((← needItems keys).zip (← needItems d))

/-- Stretches of pairs with equal keys. -/
def stretches : List (Datum × Datum) → List (List (Datum × Datum))
  | [] => []
  | p :: ps =>
    match stretches ps with
    | (q :: qs) :: rest => if p.1.same q.1 then (p :: q :: qs) :: rest else [p] :: (q :: qs) :: rest
    | rest => [p] :: rest

def sortPairs (ps : List (Datum × Datum)) : List (Datum × Datum) :=
  Datum.sortOn Datum.compare Prod.fst ps

/-- The last of the pairs whose key no other key beats. -/
def best (beats : Datum → Datum → Bool) : List (Datum × Datum) → Datum
  | [] => .null
  | p :: ps => (ps.foldl (fun top q => if beats q.1 top.1 then q else top) p).2

def size : Datum → Except Trouble Datum
  | .null => .ok (.ofInt 0)
  | .num q => .ok (.num (magnitude q))
  | .str s => .ok (.ofInt s.length)
  | .arr xs => .ok (.ofInt xs.length)
  | .obj fs => .ok (.ofInt fs.length)
  | d => .error (.raised (.str s!"{d.json} has no length"))

/-- The datum that a text stands for, or all of them. -/
def fromJson : Native
  | .str s, _ => Datum.readAll s
  | d, _ => .fault (cannotUse d "string")

/-- A number itself, or the numbers in a text. -/
def toNumber : Native
  | .num q, _ => .one (.num q)
  | .str s, _ => (Datum.readAll s).bind fun d =>
      match d with
      | .num q => .one (.num q)
      | d => .raise s!"cannot parse {d.json} as number"
  | d, _ => .raise s!"cannot parse {d.json} as number"

/-! ## Expressions -/

/-- The letters that change how an expression is used. -/
structure Flags where
  mode : Text.Regex.Mode
  everywhere : Bool
  skipEmpty : Bool

def Flags.none : Flags :=
  ⟨.plain, false, false⟩

def Flags.add (f : Flags) : Char → Option Flags
  | 'g' => some { f with everywhere := true }
  | 'n' => some { f with skipEmpty := true }
  | 'i' => some { f with mode := { f.mode with ignoreCase := true } }
  | 'x' => some { f with mode := { f.mode with ignoreBlanks := true } }
  | 'm' => some { f with mode := { f.mode with multiLine := true } }
  | 's' => some { f with mode := { f.mode with dotAll := true } }
  | 'p' => some { f with mode := { f.mode with multiLine := true, dotAll := true } }
  | 'l' => some { f with mode := { f.mode with swapGreed := true } }
  | _ => Option.none

/-- A text with the matches of an expression in it, and the names of its groups. -/
structure Found where
  text : List Char
  hits : List Text.Regex.Match
  names : List (Nat × Option String)

/-- The matches of an expression in a text: the first one, or with a letter for it all. -/
def search (d pattern flags : Datum) : Except Trouble Found := do
  let text ← needText d
  let source ← needText pattern
  let letters ← needText flags
  match letters.toList.foldlM Flags.add Flags.none with
  | none => .error (.raised (.str s!"invalid regex flags: {letters}"))
  | some f =>
    match Text.Regex.read? f.mode source with
    | none => .error (.raised (.str s!"invalid regex: {source}"))
    | some r =>
      let hits := (Text.Regex.matchAll r text).filter fun m => !(f.skipEmpty && m.start = m.stop)
      .ok ⟨text.toList, if f.everywhere then hits else hits.take 1, r.groups⟩

/-- A stretch of a text as a mapping. -/
def stretch (text : List Char) (start stop : Nat) (name : Option String) : Datum :=
  .obj ([(.str "offset", .ofInt start), (.str "length", .ofInt (stop - start : Nat)),
    (.str "string", .str (String.ofList ((text.drop start).take (stop - start))))] ++
    (name.toList.map fun name => (.str "name", .str name)))

/-- A match: its own stretch, then those of the groups that have taken part. -/
def matchData (found : Found) (m : Text.Regex.Match) : Datum :=
  .arr (stretch found.text m.start m.stop none :: m.groups.map fun (number, start, stop) =>
    stretch found.text start stop ((found.names.find? fun g => g.1 = number).bind Prod.snd))

def matchesOf : Native :=
  with2 fun d pattern flags => do
    let found ← search d pattern flags
    .ok (.arr (found.hits.map (matchData found)))

/-- The text between the matches, of which `rest` begins at a position; with `hits` the matches
between its pieces. -/
def pieces (found : Found) (hits : Bool) (origin : Nat) (rest : List Char) :
    List Text.Regex.Match → List Datum
  | [] => [.str (String.ofList rest)]
  | m :: ms =>
    .str (String.ofList (rest.take (m.start - origin))) ::
      ((if hits then [matchData found m] else []) ++
        pieces found hits m.stop (rest.drop (m.stop - origin)) ms)

/-- The text between the matches of an expression, perhaps with the matches. -/
def piecesOf (hits : Bool) : Native :=
  with2 fun d pattern flags => do
    let found ← search d pattern flags
    .ok (.arr (pieces found hits 0 found.text found.hits))

end Native

open Native in
def natives : List (String × Nat × Native) :=
  [("length", 0, plain size),
    ("utf8bytelength", 0, onText fun s => .ofInt s.utf8ByteSize),
    ("keys_unsorted", 0, plain fun d => d.keys.map .arr),
    ("type", 0, plain fun d => .ok (.str d.typeName)),
    ("tojson", 0, plain fun d => .ok (.str d.json)),
    ("fromjson", 0, fromJson),
    ("tostring", 0, plain fun d => .ok (.str d.text)),
    ("tonumber", 0, toNumber),
    ("ascii_upcase", 0, mapText fun cs => cs.map upper),
    ("ascii_downcase", 0, mapText fun cs => cs.map lower),
    ("trim", 0, mapText Text.trimChars),
    ("ltrim", 0, mapText fun cs => cs.dropWhile Text.isBlank),
    ("rtrim", 0, mapText fun cs => (cs.reverse.dropWhile Text.isBlank).reverse),
    ("explode", 0, explode),
    ("implode", 0, implode),
    ("floor", 0, rounded fun num den => num.fdiv den),
    ("ceil", 0, rounded fun num den => -((-num).fdiv den)),
    ("round", 0, rounded roundHalf),
    ("trunc", 0, rounded fun num den => num.tdiv den),
    ("sqrt", 0, viaFloat Float.sqrt),
    ("cbrt", 0, viaFloat Float.cbrt),
    ("exp", 0, viaFloat Float.exp),
    ("exp2", 0, viaFloat Float.exp2),
    ("log", 0, viaFloat Float.log),
    ("log2", 0, viaFloat Float.log2),
    ("log10", 0, viaFloat Float.log10),
    ("sin", 0, viaFloat Float.sin),
    ("cos", 0, viaFloat Float.cos),
    ("tan", 0, viaFloat Float.tan),
    ("asin", 0, viaFloat Float.asin),
    ("acos", 0, viaFloat Float.acos),
    ("atan", 0, viaFloat Float.atan),
    ("fabs", 0, viaFloat Float.abs),
    ("pow", 2, with2 fun _ x y => do
      .ok (.num (.viaFloat Float.pow (← needNumber x) (← needNumber y)))),
    ("sort", 0, plain fun d => (needItems d).map fun xs => .arr (Datum.sortOn Datum.compare id xs)),
    ("reverse", 0, plain fun d => (needItems d).map fun xs => .arr xs.reverse),
    ("_sort_by", 1, with1 fun d keys => (keyed d keys).map fun ps =>
      .arr ((sortPairs ps).map Prod.snd)),
    ("_group_by", 1, with1 fun d keys => (keyed d keys).map fun ps =>
      .arr ((stretches (sortPairs ps)).map fun g => .arr (g.map Prod.snd))),
    ("_unique_by", 1, with1 fun d keys => (keyed d keys).map fun ps =>
      .arr ((stretches (sortPairs ps)).filterMap fun g => g.head?.map Prod.snd)),
    ("_min_by", 1, with1 fun d keys => (keyed d keys).map
      (best fun x top => x.compare top == .lt)),
    ("_max_by", 1, with1 fun d keys => (keyed d keys).map
      (best fun x top => x.compare top != .lt)),
    ("has", 1, with1 fun d key => (d.has key).map .bool),
    ("contains", 1, with1 fun d x => .ok (.bool (holds (x.depth + 1) d x))),
    ("startswith", 1, onTexts fun s t => .bool (t.toList.isPrefixOf s.toList)),
    ("endswith", 1, onTexts fun s t => .bool (t.toList.isSuffixOf s.toList)),
    ("ltrimstr", 1, onTexts dropLead),
    ("rtrimstr", 1, onTexts dropTail),
    ("split", 1, onTexts splitData),
    ("indices", 1, indices),
    ("_matches", 2, matchesOf),
    ("_split", 2, piecesOf false),
    ("_splitMatches", 2, piecesOf true),
    ("range", 3, range)] ++
  formats.map fun name => ("@" ++ name, 0, plain (format name))

end Sluice.Query
