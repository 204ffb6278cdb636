/-!
# Compact JSON text

Texts of JSON values without blanks. In a string, quotes, backslashes and control characters are
escaped, the common control characters by a letter and the others by four hexadecimal digits;
everything else is written as it is.
-/

namespace GranuleMonitor.Json

/-- The escaped form of a character in a string. -/
def escape (c : Char) : List Char :=
  if c = '"' then ['\\', '"']
  else if c = '\\' then ['\\', '\\']
  else if c = '\x08' then ['\\', 'b']
  else if c = '\x0c' then ['\\', 'f']
  else if c = '\n' then ['\\', 'n']
  else if c = '\r' then ['\\', 'r']
  else if c = '\t' then ['\\', 't']
  else if c.toNat < 0x20 then
    ['\\', 'u', '0', '0', Nat.digitChar (c.toNat / 16), Nat.digitChar (c.toNat % 16)]
  else [c]

/-- A string. -/
def string (text : String) : String :=
  "\"" ++ String.ofList (text.toList.flatMap escape) ++ "\""

/-- A number without a fraction. -/
def number (n : Nat) : String := toString n

/-- An array of values. -/
def array (values : List String) : String :=
  "[" ++ String.intercalate "," values ++ "]"

/-- An object with fields in the given order. -/
def object (fields : List (String × String)) : String :=
  "\x7b" ++
    String.intercalate "," (fields.map fun (name, value) => string name ++ ":" ++ value) ++ "\x7d"

end GranuleMonitor.Json
