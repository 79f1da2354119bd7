/-!
# Words of a command line

A text cut into words as a shell cuts it: words stand between blanks, quotes and backslashes keep
characters that would end a word, and `#` at the start of a word begins a remark.
-/

namespace Sluice.Text.Words

/-- Where the reader is. The word at hand is kept in reverse. -/
inductive Place where
  | gap
  | remark
  | bare (word : List Char)
  /-- Behind a backslash. -/
  | escaped (word : List Char)
  | single (word : List Char)
  | double (word : List Char)
  /-- Behind a backslash between double quotes. -/
  | escapedDouble (word : List Char)

def isGap (c : Char) : Bool :=
  c == ' ' || c == '\t' || c == '\n'

/-- Where a character leads inside a word; `none` if it ends the word. -/
def inWord (c : Char) (word : List Char) : Option Place :=
  if c == '"' then some (.double word)
  else if c == '\'' then some (.single word)
  else if c == '\\' then some (.escaped word)
  else if isGap c then none
  else some (.bare (c :: word))

/-- Between double quotes a backslash is a character of its own before most characters. -/
def unescape (c : Char) (word : List Char) : List Char :=
  if c == '$' || c.toNat == 0x60 || c == '"' || c == '\\' then c :: word
  else if c == '\n' then word
  else c :: '\\' :: word

/-- The words from a place on; `none` if a quote is not closed or nothing follows a backslash. -/
def read : List Char → Place → Option (List String)
  | [], .gap | [], .remark => some []
  | [], .bare word => some [String.ofList word.reverse]
  | [], _ => none
  | c :: cs, .gap =>
    if c == '#' then read cs .remark
    else
      match inWord c [] with
      | none => read cs .gap
      | some place => read cs place
  | c :: cs, .remark => read cs (if c == '\n' then .gap else .remark)
  | c :: cs, .bare word =>
    match inWord c word with
    | none => (read cs .gap).map (String.ofList word.reverse :: ·)
    | some place => read cs place
  | c :: cs, .escaped word => read cs (.bare (if c == '\n' then word else c :: word))
  | c :: cs, .single word => read cs (if c == '\'' then .bare word else .single (c :: word))
  | c :: cs, .double word =>
    if c == '"' then read cs (.bare word)
    else if c == '\\' then read cs (.escapedDouble word)
    else read cs (.double (c :: word))
  | c :: cs, .escapedDouble word => read cs (.double (unescape c word))

end Words

def words? (s : String) : Option (List String) :=
  Words.read s.toList .gap

example : words? "sh -c 'echo \"$1\"' a\\ b # rest" = some ["sh", "-c", "echo \"$1\"", "a b"] := by
  decide +kernel

end Sluice.Text
