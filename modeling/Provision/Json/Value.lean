import Provision.Json.Quoted
import Provision.Json.Number

/-! # Values and their compact form

A value is what a decoded text means. Its compact form has no blanks, writes the members of an
object in the order the value holds them, and copies a raw part as it is. -/

namespace Provision.Json

/-- A decoded value. -/
inductive Value where
  | null
  | bool (value : Bool)
  | int (value : Int)
  | float (value : Float)
  | string (value : String)
  | array (items : List Value)
  /-- An object; the members are written in this order. -/
  | object (members : List (String × Value))
  /-- A part kept as it was written. -/
  | raw (text : Bytes)

namespace Value

/-- The value of a number. -/
def ofNumber : Number → Value
  | .natural n => int n
  | .negative n => int (-n)
  | .float x => float x

/-- The value of the member `name`, if there is one. -/
def member? (name : String) : Value → Option Value
  | object members => members.lookup name
  | _ => none

/-- The text that a value is. -/
def text? : Value → Option String
  | string s => some s
  | _ => none

/-- Puts a member at its place in a list sorted by name, in the place of one of that name. -/
def insertMember (name : String) (value : Value) :
    List (String × Value) → List (String × Value)
  | [] => [(name, value)]
  | (n, v) :: rest =>
    if name < n then (name, value) :: (n, v) :: rest
    else if name = n then (name, value) :: rest
    else (n, v) :: insertMember name value rest

/-- An object of these members sorted by name; of several with one name the last counts. -/
def ofMembers (members : List (String × Value)) : Value :=
  object (members.foldl (fun sorted (name, value) => insertMember name value sorted) [])

mutual

/-- The compact form of a value. -/
def print : Value → Bytes
  | null => Text.bytes "null"
  | bool true => Text.bytes "true"
  | bool false => Text.bytes "false"
  | int i => Number.ofInt i
  | float x => Text.bytes (Decimal.ofFloat x)
  | string s => Quoted.encode s
  | array items => 0x5b :: (printItems items ++ [0x5d])
  | object members => 0x7b :: (printMembers members ++ [0x7d])
  | raw text => text

/-- The compact forms of items, with commas between them. -/
def printItems : List Value → Bytes
  | [] => []
  | [item] => print item
  | item :: rest => print item ++ 0x2c :: printItems rest

/-- The compact forms of members, with commas between them. -/
def printMembers : List (String × Value) → Bytes
  | [] => []
  | [(name, value)] => Quoted.encode name ++ 0x3a :: print value
  | (name, value) :: rest =>
    Quoted.encode name ++ 0x3a :: (print value ++ 0x2c :: printMembers rest)

end

end Value

end Provision.Json
