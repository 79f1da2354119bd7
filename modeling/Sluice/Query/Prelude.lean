import Sluice.Query.Parser

/-!
# Definitions in the query language

The built-in functions that are terms themselves, written in the language that they extend, so
that paths and assignments go through them.
-/

namespace Sluice.Query

/-- The definitions, each ended by a semicolon. -/
def preludeText : List String :=
  ["def true: 0 == 0;",
    "def false: 0 == 1;",
    "def null: [][0];",
    "def not: if . then false else true end;",
    "def isboolean: . == true or . == false;",
    "def isnumber: type == \"number\";",
    "def isstring: type == \"string\";",
    "def isarray: type == \"array\";",
    "def isobject: type == \"object\";",
    "def nan: 0 / 0;",
    "def infinite: 1 / 0;",
    "def isnan: . < nan and nan < .;",
    "def isinfinite: . == infinite or . == -infinite;",
    "def isfinite: isnumber and (isinfinite | not);",
    "def isnormal: isnumber and ((. == 0 or isnan or isinfinite) | not);",
    "def isvalid(f): try (f | true) catch false;",
    "def error(f): f | error;",
    "def select(f): if f then . else empty end;",
    "def values: select(. != null);",
    "def nulls: select(. == null);",
    "def booleans: select(isboolean);",
    "def numbers: select(isnumber);",
    "def strings: select(isstring);",
    "def arrays: select(isarray);",
    "def objects: select(isobject);",
    "def iterables: select(isarray or isobject);",
    "def scalars: select((isarray or isobject) | not);",
    "def recurse(f): def rec: ., (f | rec); rec;",
    "def recurse(f; cond): recurse(f | select(cond));",
    "def recurse: recurse(.[]?);",
    "def map(f): [.[] | f];",
    "def map_values(f): .[] |= f;",
    "def add(f): reduce f as $x (null; . + $x);",
    "def add: add(.[]);",
    "def keys: keys_unsorted | sort;",
    "def range($upto): range(0; $upto; 1);",
    "def range($from; $upto): range($from; $upto; 1);",
    "def repeat(f): def rec: ., (f | rec); rec;",
    "def while(cond; f): def rec: if cond then ., (f | rec) else empty end; rec;",
    "def until(cond; f): def rec: if cond then . else f | rec end; rec;",
    "def abs: if . < 0 then -. else . end;",
    "def toarray: if isarray then . else [.] end;",
    "def ascii: [.] | implode;",
    "def sort_by(f): _sort_by(map([f]));",
    "def group_by(f): _group_by(map([f]));",
    "def unique_by(f): _unique_by(map([f]));",
    "def unique: unique_by(.);",
    "def min_by(f): _min_by(map([f]));",
    "def max_by(f): _max_by(map([f]));",
    "def min: min_by(.);",
    "def max: max_by(.);",
    "def first: .[0];",
    "def last: .[-1];",
    "def nth($n): .[$n];",
    "def first(f): label $out | f | ., break $out;",
    "def skip($n; f): if $n > 0 then foreach f as $x ($n; . - 1; " ++
      "if . < 0 then $x else empty end) else f end;",
    "def nth($n; f): first(skip($n; f));",
    "def limit($n; f): if $n > 0 then label $out | foreach f as $x (0; . + 1; " ++
      "$x, if . >= $n then break $out else empty end) else empty end;",
    "def isempty(f): first((f | false), true);",
    "def any(f; cond): isempty(first(f | cond | select(.))) | not;",
    "def all(f; cond): isempty(first(f | cond | select(. | not)));",
    "def any(cond): any(.[]; cond);",
    "def all(cond): all(.[]; cond);",
    "def any: any(.);",
    "def all: all(.);",
    "def in(xs): . as $x | xs | has($x);",
    "def inside(xs): . as $x | xs | contains($x);",
    "def index($x): indices($x) | .[0];",
    "def rindex($x): indices($x) | .[-1];",
    "def join($x): [.[] | tostring] | .[:-1][] += $x | add // \"\";",
    "def flatten: [recurse(arrays[]) | select(isarray | not)];",
    "def flatten($d): if $d > 0 then map(if isarray then flatten($d - 1) else [.] end) | add else . end;",
    "def transpose: [range([.[] | length] | max) as $i | [.[][$i]]];",
    "def to_entries: [keys_unsorted[] as $k | \x7bkey: $k, value: .[$k]\x7d];",
    "def from_entries: reduce .[] as $x (\x7b\x7d; . + \x7b($x | .key): $x.value\x7d);",
    "def with_entries(f): to_entries | map(f) | from_entries;",
    "def paths: path(..) | select(length > 0);",
    "def paths(f): path(.. | select(f)) | select(length > 0);",
    "def getpath($path): reduce $path[] as $p (.; .[$p]);",
    "def setpath($path; $x): getpath($path) |= $x;",
    "def del(f): f |= empty;",
    "def delpaths($ps): reduce ($ps | sort | reverse)[] as $p (.; del(getpath($p)));",
    "def walk(f): def rec: (.[]? |= rec) | f; rec;",
    "def combinations: if length == 0 then [] else .[0][] as $x | (.[1:] | combinations) as $w | [$x] + $w end;",
    "def combinations($n): [limit($n; repeat(.))] | combinations;",
    "def test($re; $flags): _matches($re; $flags) | length > 0;",
    "def test($re): test($re; \"\");",
    "def match($re; $flags): _matches($re; $flags)[] | .[0] + \x7bcaptures: .[1:]\x7d;",
    "def match($re): match($re; \"\");",
    "def _named: map(select(.name) | \x7bkey: .name, value: .string\x7d) | from_entries;",
    "def capture($re; $flags): _matches($re; $flags)[] | _named;",
    "def capture($re): capture($re; \"\");",
    "def scan($re; $flags): _matches($re; \"g\" + $flags)[] | .[0].string;",
    "def scan($re): scan($re; \"\");",
    "def split($re; $flags): _split($re; $flags + \"g\");",
    "def splits($re; $flags): split($re; $flags) | .[];",
    "def splits($re): splits($re; \"\");",
    "def sub($re; f; $flags): reduce _splitMatches($re; $flags)[] as $x (\"\"; " ++
      ". + ($x | if isstring then . else _named | f end));",
    "def sub($re; f): sub($re; f; \"\");",
    "def gsub($re; f; $flags): sub($re; f; \"g\" + $flags);",
    "def gsub($re; f): gsub($re; f; \"\");",
    "def debug: .;",
    "def debug(f): .;"]

/-- A named function that is a term. -/
structure Definition where
  name : String
  params : List Parameter
  body : Term

def definitions : Term → List Definition
  | .define name params body rest => ⟨name, params, body⟩ :: definitions rest
  | _ => []

/-- The built-in definitions, each seeing those before it and itself. -/
def prelude : List Definition :=
  match parse? (String.join preludeText ++ ".") with
  | some t => definitions t
  | none => []

end Sluice.Query
