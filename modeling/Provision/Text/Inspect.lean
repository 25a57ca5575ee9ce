import Provision.Text.Unprintable

/-! # Diagnostic form of texts

Diagnostics show a text between quotes, so that its ends and everything invisible in it can be
seen. -/

namespace Provision.Text

/-- The hexadecimal digits of a number, in lower case and without leading zeros. -/
def hexDigits (n : Nat) : String := String.ofList (Nat.toDigits 16 n)

/-- How one character is shown. -/
def inspectChar (c : Char) : String :=
  if c = '"' then "\\\""
  else if c = '\\' then "\\\\"
  else if c = '\t' then "\\t"
  else if c = '\n' then "\\n"
  else if c = '\r' then "\\r"
  else if c.toNat = 0 then "\\0"
  else if isUnprintable c then "\\u\x7b" ++ hexDigits c.toNat ++ "\x7d"
  else String.singleton c

/-- A text as diagnostics show it. -/
def inspect (s : String) : String := "\"" ++ String.join (s.toList.map inspectChar) ++ "\""

/-- A list of texts as diagnostics show it. -/
def inspectList (texts : List String) : String :=
  "[" ++ String.intercalate ", " (texts.map inspect) ++ "]"

/-- The fields of a record as diagnostics show them, each a name and its shown value. -/
def inspectFields (fields : List (String × String)) : String :=
  String.intercalate ", " (fields.map fun (name, value) => name ++ ": " ++ value)

/-- A record as diagnostics show it. -/
def inspectRecord (type : String) (fields : List (String × String)) : String :=
  type ++ " \x7b " ++ inspectFields fields ++ " \x7d"

/-- A record of which diagnostics show only some fields. -/
def inspectPartial (type : String) (fields : List (String × String)) : String :=
  type ++ " \x7b " ++ inspectFields fields ++ ", .. \x7d"

end Provision.Text
