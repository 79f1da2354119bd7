import Sluice.Host
import Sluice.Text.Search
import Sluice.Text.Utf8

/-!
# A small command interpreter

Just enough of a command interpreter to run short scripts in memory: simple commands one after the
other or joined by `&&` and `||`, quotes, parameters, redirections between the two output channels,
and a handful of commands. There are no pipes, no variables and no files.
-/

namespace Sluice.Sandbox.Sh

/-! ## Scripts -/

inductive Fragment where
  | text (cs : List Char)
  /-- A parameter; outside double quotes its value is cut at blanks. -/
  | parameter (name : String) (quoted : Bool)

/-- Where an output channel leads. -/
inductive Sink where
  | out
  | err
  | nowhere
deriving DecidableEq

inductive Lexeme where
  | word (fragments : List Fragment)
  /-- The output of channel 1 or 2 goes elsewhere. -/
  | redirect (channel : Nat) (target : List Fragment) (duplicate : Bool)
  | closeInput
  /-- The end of a command; the next one runs in any case. -/
  | next (newLine : Bool)
  | andThen
  | orElse

def isBlank (c : Char) : Bool :=
  c == ' ' || c == '\t'

/-- What ends a word outside quotes. -/
def endsWord (c : Char) : Bool :=
  isBlank c || c == '\n' || c == ';' || c == '&' || c == '|' || c == '<' || c == '>'

def parameter? (cs : List Char) : Option (String × List Char) :=
  match cs with
  | '{' :: rest => (Text.cut? ['}'] rest).map fun (name, rest) => (String.ofList name, rest)
  | c :: rest =>
    if c.isDigit || c == '#' || c == '@' || c == '*' || c == '?' || c == '$' then
      some (String.singleton c, rest)
    else
      match cs.takeWhile fun c => c.isAlphanum || c == '_' with
      | [] => none
      | name => some (String.ofList name, cs.drop name.length)
  | [] => none

def doubleQuoted : Nat → List Char → Option (List Fragment × List Char)
  | 0, _ | _, [] => none
  | fuel + 1, c :: cs =>
    let add (fragment : Fragment) (rest : List Char) : Option (List Fragment × List Char) :=
      (doubleQuoted fuel rest).map fun (fragments, rest) => (fragment :: fragments, rest)
    if c == '"' then some ([], cs)
    else if c == '\\' then
      match cs with
      | d :: rest =>
        if d == '"' || d == '\\' || d == '$' then add (.text [d]) rest
        else if d == '\n' then add (.text []) rest
        else add (.text ['\\', d]) rest
      | [] => none
    else if c == '$' then
      match parameter? cs with
      | some (name, rest) => add (.parameter name true) rest
      | none => add (.text ['$']) cs
    else add (.text [c]) cs

/-- A word, with what follows it. -/
def word : Nat → List Char → Option (List Fragment × List Char)
  | 0, _ => none
  | _, [] => some ([], [])
  | fuel + 1, c :: cs =>
    let add (fragments : List Fragment) (rest : List Char) : Option (List Fragment × List Char) :=
      (word fuel rest).map fun (more, rest) => (fragments ++ more, rest)
    if endsWord c then some ([], c :: cs)
    else if c == '\'' then
      (Text.cut? ['\''] cs).bind fun (inside, rest) => add [.text inside] rest
    else if c == '"' then
      (doubleQuoted fuel cs).bind fun (inside, rest) => add (.text [] :: inside) rest
    else if c == '\\' then
      match cs with
      | d :: rest => add [.text (if d == '\n' then [] else [d])] rest
      | [] => add [.text ['\\']] []
    else if c == '$' then
      match parameter? cs with
      | some (name, rest) => add [.parameter name false] rest
      | none => add [.text ['$']] cs
    else add [.text [c]] cs

def lexemes : Nat → List Char → Option (List Lexeme)
  | 0, _ => none
  | _, [] => some []
  | fuel + 1, c :: cs =>
    let redirect (channel : Nat) (rest : List Char) : Option (List Lexeme) :=
      let (duplicate, rest) := match rest with
        | '&' :: rest => (true, rest)
        | rest => (false, rest.dropWhile isBlank)
      (word (rest.length + 1) rest).bind fun (target, rest) =>
        (lexemes fuel rest).map (.redirect channel target duplicate :: ·)
    match c, cs with
    | '#', cs => lexemes fuel (cs.dropWhile (· != '\n'))
    | '\n', cs => (lexemes fuel cs).map (.next true :: ·)
    | ';', cs => (lexemes fuel cs).map (.next false :: ·)
    | '&', '&' :: cs => (lexemes fuel cs).map (.andThen :: ·)
    | '|', '|' :: cs => (lexemes fuel cs).map (.orElse :: ·)
    | '<', '&' :: '-' :: cs => (lexemes fuel cs).map (.closeInput :: ·)
    | '>', cs => redirect 1 cs
    | '1', '>' :: cs => redirect 1 cs
    | '2', '>' :: cs => redirect 2 cs
    | c, cs =>
      if isBlank c then lexemes fuel cs
      else if endsWord c then none
      else
        (word (cs.length + 2) (c :: cs)).bind fun (fragments, rest) =>
          (lexemes fuel rest).map (.word fragments :: ·)

/-! ## Processes -/

structure Process where
  /-- The name of the script and its parameters. -/
  arguments : List String
  input : List UInt8
  out : List UInt8
  err : List UInt8
  status : Nat
  line : Nat

/-- The number by which a script knows its own process. -/
def ownNumber : String := "4242"

def Process.values (p : Process) (name : String) : List String :=
  match name with
  | "#" => [toString (p.arguments.length - 1)]
  | "@" | "*" => p.arguments.drop 1
  | "?" => [toString p.status]
  | "$" => [ownNumber]
  | name =>
    match name.toNat? with
    | some n => [(p.arguments[n]?).getD ""]
    | none => [""]

/-- The words that a word stands for. A word without quotes and with nothing in it stands for
none. -/
def Process.fields (p : Process) : List Fragment → Option (List Char) → List String
  | [], none => []
  | [], some now => [String.ofList now]
  | .text cs :: rest, now => p.fields rest (some (now.getD [] ++ cs))
  | .parameter name true :: rest, now =>
    match (p.values name).reverse with
    | [] => p.fields rest now
    | [v] => p.fields rest (some (now.getD [] ++ v.toList))
    | last :: others =>
      match others.reverse with
      | [] => p.fields rest now
      | v :: vs =>
        (String.ofList (now.getD [] ++ v.toList)) :: vs ++ p.fields rest (some last.toList)
  | .parameter name false :: rest, now =>
    let value := (String.intercalate " " (p.values name)).toList
    let pieces := (Text.splitAll ' ' (value.map fun c => if c == '\n' || c == '\t' then ' ' else c))
    match (pieces.filter fun piece => !piece.isEmpty) with
    | [] => p.fields rest now
    | v :: vs =>
      match vs.reverse with
      | [] => p.fields rest (some (now.getD [] ++ v))
      | last :: others =>
        (String.ofList (now.getD [] ++ v)) :: others.reverse.map String.ofList
          ++ p.fields rest (some last)

/-- Where the two channels of a command lead. -/
structure Channels where
  out : Sink
  err : Sink
  closesInput : Bool

def Channels.plain : Channels := ⟨.out, .err, false⟩

def Channels.target (c : Channels) (name : String) (duplicate : Bool) : Sink :=
  if !duplicate then .nowhere
  else if name == "1" then c.out
  else if name == "2" then c.err
  else .nowhere

def Channels.redirect (c : Channels) (channel : Nat) (name : String) (duplicate : Bool) :
    Channels :=
  let sink := c.target name duplicate
  if channel == 2 then { c with err := sink } else { c with out := sink }

def Process.write (p : Process) (sink : Sink) (bytes : List UInt8) : Process :=
  match sink with
  | .out => { p with out := p.out ++ bytes }
  | .err => { p with err := p.err ++ bytes }
  | .nowhere => p

/-! ## Commands -/

/-- The number of up to `width` octal digits, with what follows them. -/
def octal (width : Nat) (cs : List Char) : Nat × List Char :=
  let digits := (cs.take width).takeWhile fun c => '0' ≤ c && c ≤ '7'
  (digits.foldl (fun n c => n * 8 + (c.toNat - '0'.toNat)) 0, cs.drop digits.length)

/-- The byte that a letter behind a backslash stands for. -/
def escapeByte? (c : Char) : Option UInt8 :=
  match c with
  | 'n' => some 10
  | 't' => some 9
  | 'r' => some 13
  | 'a' => some 7
  | 'b' => some 8
  | 'f' => some 12
  | 'v' => some 11
  | '\\' => some 92
  | '"' => some 34
  | _ => none

def bytesOf (c : Char) : List UInt8 :=
  Text.encode (String.singleton c)

/-- The bytes of a text with escapes, in which octal numbers begin with `0` or, `directly`, at
once. -/
def unescape (directly : Bool) : Nat → List Char → List UInt8
  | 0, _ | _, [] => []
  | fuel + 1, '\\' :: c :: cs =>
    if c == '0' && !directly then
      let (n, rest) := octal 3 cs
      UInt8.ofNat n :: unescape directly fuel rest
    else if directly && '0' ≤ c && c ≤ '7' then
      let (n, rest) := octal 3 (c :: cs)
      UInt8.ofNat n :: unescape directly fuel rest
    else
      match escapeByte? c with
      | some b => b :: unescape directly fuel cs
      | none => 92 :: bytesOf c ++ unescape directly fuel cs
  | fuel + 1, c :: cs => bytesOf c ++ unescape directly fuel cs

/-- One pass over a format: what is printed, and the arguments that are left. -/
def formatOnce : Nat → List Char → List String → List UInt8 × List String
  | 0, _, args | _, [], args => ([], args)
  | fuel + 1, '%' :: '%' :: cs, args =>
    let (bytes, left) := formatOnce fuel cs args
    (37 :: bytes, left)
  | fuel + 1, '%' :: c :: cs, args =>
    let text := args.head?.getD (if c == 'd' then "0" else "")
    let shown := if c == 'b' then unescape false text.length text.toList else Text.encode text
    let (bytes, left) := formatOnce fuel cs args.tail
    (shown ++ bytes, left)
  | fuel + 1, '\\' :: c :: cs, args =>
    if '0' ≤ c && c ≤ '7' then
      let (n, rest) := octal 3 (c :: cs)
      let (bytes, left) := formatOnce fuel rest args
      (UInt8.ofNat n :: bytes, left)
    else
      let (bytes, left) := formatOnce fuel cs args
      ((match escapeByte? c with
        | some b => [b]
        | none => 92 :: bytesOf c) ++ bytes, left)
  | fuel + 1, c :: cs, args =>
    let (bytes, left) := formatOnce fuel cs args
    (bytesOf c ++ bytes, left)

/-- A format, used again while it takes arguments and there are any. -/
def formatAll : Nat → String → List String → List UInt8
  | 0, _, _ => []
  | fuel + 1, format, args =>
    let (bytes, left) := formatOnce format.length format.toList args
    if left.isEmpty || left.length == args.length then bytes
    else bytes ++ formatAll fuel format left

/-- The signal that the arguments of `kill` name, and the process. -/
def killed? (args : List String) : Option Nat :=
  let numbers := [("9", 9), ("KILL", 9), ("15", 15), ("TERM", 15), ("2", 2), ("INT", 2), ("1", 1),
    ("HUP", 1), ("6", 6), ("ABRT", 6), ("3", 3), ("QUIT", 3), ("11", 11), ("SEGV", 11)]
  match args with
  | [number] => if number == ownNumber then some 15 else none
  | [signal, number] =>
    if number == ownNumber then
      match signal.toList with
      | '-' :: name => numbers.lookup (String.ofList name)
      | _ => none
    else none
  | _ => none

/-- What a command does to a process; an ending ends it. -/
def command (p : Process) (c : Channels) (name : String) (args : List String) :
    Process × Option ProcessEnd :=
  let well : Process := { p with status := 0 }
  match name with
  | ":" | "true" => (well, none)
  | "false" => ({ p with status := 1 }, none)
  | "echo" =>
    let (lineEnd, args) := match args with
      | "-n" :: args => (([] : List UInt8), args)
      | args => ([10], args)
    let text := String.intercalate " " args
    (well.write c.out (unescape false (text.length + 1) text.toList ++ lineEnd), none)
  | "printf" =>
    match args with
    | format :: args => (well.write c.out (formatAll (args.length + 1) format args), none)
    | [] => ({ p with status := 2 }, none)
  | "cat" =>
    let fed := if c.closesInput then [] else p.input
    (({ well with input := [] } : Process).write c.out fed, none)
  | "exec" => (if c.closesInput then { well with input := [] } else well, none)
  | "exit" =>
    let status := (args.head?.bind String.toNat?).getD p.status
    (p, some (.exited (status % 256)))
  | "kill" =>
    match killed? args with
    | some signal => (p, some (.killed signal))
    | none => ({ p with status := 1 }, none)
  | name =>
    let script := p.arguments.head?.getD ""
    let complaint := s!"{script}: {p.line}: {name}: not found\n"
    (({ p with status := 127 } : Process).write c.err (Text.encode complaint), none)

/-! ## Running -/

/-- A command as far as it has been read. -/
structure Pending where
  words : List String
  channels : Channels
  /-- Whether the command before it lets it run. -/
  runs : Bool

def Pending.run (now : Pending) (p : Process) : Process × Option ProcessEnd :=
  match now.words with
  | [] => (p, none)
  | name :: args => if now.runs then command p now.channels name args else (p, none)

def runAll : List Lexeme → Pending → Process → Process × ProcessEnd
  | [], now, p =>
    match now.run p with
    | (p, some ending) => (p, ending)
    | (p, none) => (p, .exited p.status)
  | .word fragments :: rest, now, p =>
    let words := if now.runs then p.fields fragments none else [""]
    runAll rest { now with words := now.words ++ words } p
  | .redirect channel target duplicate :: rest, now, p =>
    let name := String.intercalate " " (p.fields target none)
    runAll rest { now with channels := now.channels.redirect channel name duplicate } p
  | .closeInput :: rest, now, p =>
    runAll rest { now with channels := { now.channels with closesInput := true } } p
  | .next newLine :: rest, now, p =>
    match now.run p with
    | (p, some ending) => (p, ending)
    | (p, none) =>
      runAll rest ⟨[], .plain, true⟩ { p with line := p.line + if newLine then 1 else 0 }
  | .andThen :: rest, now, p =>
    match now.run p with
    | (p, some ending) => (p, ending)
    | (p, none) => runAll rest ⟨[], .plain, p.status == 0⟩ p
  | .orElse :: rest, now, p =>
    match now.run p with
    | (p, some ending) => (p, ending)
    | (p, none) => runAll rest ⟨[], .plain, p.status != 0⟩ p

/-- Runs a script under a name with its parameters and its input. -/
def run (script : String) (arguments : List String) (input : String) : Finished :=
  let p : Process := ⟨arguments, Text.encode input, [], [], 0, 1⟩
  match lexemes (script.length + 1) script.toList with
  | some parts =>
    let (p, ending) := runAll parts ⟨[], .plain, true⟩ p
    ⟨ending, p.out, p.err⟩
  | none =>
    let name := arguments.head?.getD ""
    ⟨.exited 2, [], Text.encode s!"{name}: 1: Syntax error: Unterminated quoted string\n"⟩

end Sluice.Sandbox.Sh
