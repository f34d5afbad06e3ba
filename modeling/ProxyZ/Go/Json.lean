import ProxyZ.Go.Bytes

/-!
# JSON data

A decoded JSON document. The fields of an object stand in the order the encoder writes them, each key
once, so that equal documents are equal values.
-/

namespace Go

/-- A JSON value; a number is kept as the text it is written with. -/
inductive Json
  | null
  | bool (b : Bool)
  | num (text : Str)
  | str (s : Str)
  | arr (items : List Json)
  | obj (fields : List (Str × Json))

/-- A decoded `map[string]any`. -/
abbrev Fields := List (Str × Json)

/-- `v == s` for an `any` value and a string. -/
def Json.isStr : Json → Str → Bool
  | .str t, s => t == s
  | _, _ => false

end Go
