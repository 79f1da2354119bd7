import Sluice.Path

/-!
# Previews and summaries

What an operator sees of a value at a glance: one line of bounded length, or the type, size and
keys.
-/

namespace Sluice.Value

/-- At most `limit` characters of a text; an ellipsis stands for what is cut. -/
def shorten (limit : Nat) (text : String) : String :=
  if text.length ≤ limit then text
  else String.ofList (text.toList.take (limit - 1) ++ ['…'])

def preview (limit : Nat) (v : Value) : String :=
  shorten limit v.compact

def keyList (fields : Fields) : Value :=
  .seq (fields.keys.map .str)

def details : Value → Fields
  | .seq [] => [("length", .ofNat 0)]
  | .seq (.map first :: rest) =>
    [("length", .ofNat (rest.length + 1)), ("item_zero_keys", keyList first)]
  | .seq (first :: rest) =>
    [("length", .ofNat (rest.length + 1)), ("item_zero_preview", .str (first.preview 80))]
  | .map fields => [("length", .ofNat fields.length), ("keys", keyList fields)]
  | v => [("preview", .str (v.preview 80))]

def summary (name : String) (v : Value) : Value :=
  .map (("name", .str name) :: ("type", .str v.typeName) :: v.details)

end Sluice.Value
