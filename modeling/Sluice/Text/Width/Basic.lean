import Sluice.Text.Width.Tables

/-!
# Display width

How many terminal columns a text takes. A character alone takes none, one or two (`ofChar?`); in
a text its neighbours matter, so the width is counted from the end and what stands behind a
character is carried along as an `After`: an emoji that is joined to the one behind it, a skin
tone, a selector that asks for emoji or for text, a letter that merges with the one before it.
-/

namespace Sluice.Text.Width

/-! ## Single characters -/

/-- Controls have no width of their own. -/
def isControl (c : Char) : Bool :=
  c.toNat < 0x20 || (0x7f ≤ c.toNat && c.toNat < 0xa0)

/-- The columns of a character that is no control. -/
def ofPlainChar (c : Char) : Nat :=
  if c.toNat < 0xa0 then 1
  else if within zeroWidth c then 0
  else if within doubleWidth c || c.toNat = 0x17a4 then 2
  else if c.toNat = 0x17d8 then 3
  else 1

/-- The columns of a character by itself; controls have no width. -/
def ofChar? (c : Char) : Option Nat :=
  if isControl c then none else some (ofPlainChar c)

/-! ## What stands behind a character -/

/-- Letters that can merge with the letter before them. -/
inductive Letter where
  | alef
  | lamed
  | ya
  | yaAfterVowel
  | tifinagh
  | tifinaghAfterJoiner
  | lisuTone
  | orkhon
  | khmer
  | kiratE
  | kiratAi
deriving DecidableEq

/-- Whether joiners and hidden marks may stand between a letter and the one it merges with. -/
def Letter.isLoose : Letter → Bool
  | alef | kiratE | kiratAi => false
  | _ => true

/-- The class of what stands behind a character. -/
inductive Tail where
  | plain
  | lineFeed
  /-- An emoji. -/
  | emoji
  /-- A skin tone. -/
  | tone
  /-- One regional indicator, or the first of several. -/
  | indicator
  | indicators
  /-- A joiner and an emoji. -/
  | joined
  /-- The same behind an enclosing keycap, the tags of a flag, or regional indicators. -/
  | joinedKeycap
  | joinedTags
  | joinedIndicator
  | joinedEven
  | joinedOdd
  /-- A letter, perhaps behind a joiner. -/
  | letter (l : Letter) (joined : Bool)
deriving DecidableEq

/-- What a selector asks for. -/
inductive Style where
  | unset
  | text
  | emoji
  | quotation
deriving DecidableEq

/-- What stands behind a character. -/
structure After where
  tail : Tail
  style : Style
deriving DecidableEq

namespace After

/-- Nothing that matters. -/
def nothing : After := ⟨.plain, .unset⟩

/-- Something, and no selector. -/
def bare (tail : Tail) : After := ⟨tail, .unset⟩

def joinsEmoji (a : After) : Bool :=
  match a.tail with
  | .joined | .joinedKeycap => true
  | _ => false

def askEmoji (a : After) : After :=
  match a.tail with
  | .letter .. | .joined | .joinedKeycap => { a with style := .emoji }
  | _ => ⟨.plain, .emoji⟩

def askText (a : After) : After :=
  match a.tail with
  | .letter .. => { a with style := .text }
  | _ => ⟨.plain, .text⟩

/-- What is left when a selector has nothing to act on. -/
def dropStyle (a : After) : After :=
  match a.style, a.tail with
  | .unset, _ => a
  | _, .letter .. => { a with style := .unset }
  | _, _ => nothing

end After

/-! ## Steps from the end -/

def isIndicator (c : Char) : Bool :=
  0x1f1e6 ≤ c.toNat && c.toNat ≤ 0x1f1ff

def isTone (c : Char) : Bool :=
  0x1f3fb ≤ c.toNat && c.toNat ≤ 0x1f3ff

/-- A tag that spells the region of a flag. -/
def isTag (c : Char) : Bool :=
  (0xe0030 ≤ c.toNat && c.toNat ≤ 0xe0039) || (0xe0061 ≤ c.toNat && c.toNat ≤ 0xe007a)

/-- A quotation mark that a selector can make wide. -/
def isQuotation (c : Char) : Bool :=
  c.toNat = 0x2018 || c.toNat = 0x2019 || c.toNat = 0x201c || c.toNat = 0x201d

/-- A character of no special relation to what stands behind it. -/
def alone (c : Char) : Int × After :=
  if c = '\n' then (1, .bare .lineFeed)
  else if c.toNat ≤ 0xa0 then (1, .nothing)
  else
    let n := c.toNat
    let letter (l : Letter) : Int × After := (1, .bare (.letter l false))
    if n = 0x5dc then letter .lamed
    else if within Width.alef c then letter .alef
    else if within stackable c then letter .khmer
    else if n = 0x1a10 then letter .ya
    else if within Width.tifinagh c then letter .tifinagh
    else if n = 0xa4fc || n = 0xa4fd then letter .lisuTone
    else if n = 0x10c03 then letter .orkhon
    else if n = 0x16d67 then letter .kiratE
    else if n = 0x16d68 then letter .kiratAi
    else if n = 0xfe0f then (0, After.nothing.askEmoji)
    else if n = 0xfe0e then (0, After.nothing.askText)
    else if n = 0xfe01 then (0, ⟨.plain, .quotation⟩)
    else if isIndicator c then (1, .bare .indicator)
    else if isTone c then (2, .bare .tone)
    else if within emojiByDefault c then (2, .bare .emoji)
    else (ofPlainChar c, .nothing)

/-- A character in front of a letter that it may merge with. -/
def beforeLetter? (c : Char) (l : Letter) (joined : Bool) : Option (Int × After) :=
  let n := c.toNat
  match l with
  | .alef =>
    if within lam c then some (0, .nothing)
    else if within joinsThrough c then some (0, .bare (.letter .alef joined))
    else none
  | .lamed => if joined && n = 0x5d0 then some (0, .nothing) else none
  | .khmer => if n = 0x17d2 then some (-1, .nothing) else none
  | .ya => if joined && n = 0x1a17 then some (0, .bare (.letter .yaAfterVowel true)) else none
  | .yaAfterVowel => if n = 0x1a15 then some (0, .nothing) else none
  | .tifinagh =>
    if n = 0x2d7f then some (1, .bare (.letter .tifinaghAfterJoiner true))
    else if joined && within Width.tifinagh c then some (0, .nothing)
    else none
  | .tifinaghAfterJoiner => if within Width.tifinagh c then some (-1, .nothing) else none
  | .lisuTone => if 0xa4f8 ≤ n && n ≤ 0xa4fb then some (0, .nothing) else none
  | .orkhon => if joined && n = 0x10c32 then some (0, .nothing) else none
  | .kiratE =>
    if n = 0x16d63 || n = 0x16d69 then some (0, .nothing)
    else if n = 0x16d67 then some (0, .bare (.letter .kiratAi false))
    else none
  | .kiratAi => if n = 0x16d63 then some (0, .nothing) else none

/-- A character in front of a tail that it may be shown as one with. -/
def beforeTail? (c : Char) (tail : Tail) : Option (Int × After) :=
  match tail with
  | .plain | .lineFeed => none
  | .letter l joined =>
    if l.isLoose && c.toNat = 0x200d then some (0, .bare (.letter l true))
    else if l.isLoose && within ignorableMark c then some (0, .bare (.letter l joined))
    else beforeLetter? c l joined
  | .emoji => if c.toNat = 0x200d then some (0, .bare .joined) else none
  | .tone =>
    if within modifiable c then some (0, .bare .emoji)
    else if c.toNat = 0x200d then some (0, .bare .joined)
    else none
  | .indicator => if isIndicator c then some (1, .bare .indicators) else none
  | .indicators =>
    if isIndicator c then some (1, .bare .indicators)
    else if c.toNat = 0x200d then some (0, .bare .joined)
    else none
  | .joined =>
    if c.toNat = 0x20e3 then some (0, .bare .joinedKeycap)
    else if isIndicator c then some (1, .bare .joinedIndicator)
    else if isTone c then some (0, .bare .tone)
    else if c.toNat = 0xe007f then some (0, .bare .joinedTags)
    else if within emojiByDefault c then some (0, .bare .emoji)
    else none
  | .joinedKeycap => none
  | .joinedTags =>
    if isTag c then some (0, .bare .joinedTags)
    else if c.toNat = 0x1f3f4 then some (0, .bare .emoji)
    else none
  | .joinedIndicator => if isIndicator c then some (-1, .bare .joinedEven) else none
  | .joinedEven =>
    if isIndicator c then some (3, .bare .joinedOdd)
    else if c.toNat = 0x200d then some (0, .bare .joined)
    else none
  | .joinedOdd =>
    if isIndicator c then some (-1, .bare .joinedEven)
    else if c.toNat = 0x200d then some (0, .bare .joined)
    else none

/-- The columns that a character adds in front of what stands behind it. -/
def step (c : Char) (after : After) : Int × After :=
  if after.style = .emoji && within emojiOnRequest c then
    (if after.joinsEmoji then 0 else 2, .bare .emoji)
  else if after.style = .quotation && isQuotation c then (2, .nothing)
  else if c.toNat ≤ 0xa0 then
    if c = '\r' && after = .bare .lineFeed then (0, .nothing) else alone c
  else if c.toNat = 0xfe0f then (0, (if after.style = .emoji then after.dropStyle else after).askEmoji)
  else if c.toNat = 0xfe0e then (0, (if after.style = .emoji then after.dropStyle else after).askText)
  else if after.style = .text && within textOnRequest c then (1, .nothing)
  else
    match beforeTail? c after.dropStyle.tail with
    | some added => added
    | none => alone c

/-- The columns of the characters and what they are to a character in front of them. -/
def scan : List Char → Int × After
  | [] => (0, .nothing)
  | c :: cs =>
    let (sum, after) := scan cs
    let (added, here) := step c after
    (sum + added, here)

/-- How many columns a text takes. Controls take one each. -/
def ofChars (cs : List Char) : Nat :=
  (scan cs).1.toNat

end Width

/-- How many columns a text takes on a terminal. -/
def width (s : String) : Nat :=
  Width.ofChars s.toList

end Sluice.Text
