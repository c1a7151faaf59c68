import Meteogram.Number.Shortest
import Meteogram.Text.Quoted

/-!
# Written data

The text of a data file: an object of fields, each a list of points, without
blanks. A point is a time in milliseconds and a value. Characters beyond the
printable ASCII ones are written by their numbers.
-/

set_option autoImplicit false

namespace Meteogram.Data

open Number (Binary64)

/-- A point of a series. -/
structure Point where
  /-- Milliseconds from the start of the year 1970. -/
  time : Int
  value : Binary64
  deriving DecidableEq, Repr

/-- The fields of a data file with their points, in the order of their first
use. -/
abbrev Fields := List (String × List Point)

/-! ## Strings -/

/-- The escape of a unit of sixteen bits. -/
def unitEscape (n : Nat) : List Char :=
  '\\' :: 'u' :: Text.hexDigits 4 n

/-- A character inside a string. A character beyond sixteen bits is written as
two units. -/
def charText (c : Char) : List Char :=
  let n := c.toNat
  if c = '"' then ['\\', '"']
  else if c = '\\' then ['\\', '\\']
  else if c = '\n' then ['\\', 'n']
  else if c = '\r' then ['\\', 'r']
  else if c = '\t' then ['\\', 't']
  else if n = 8 then ['\\', 'b']
  else if n = 12 then ['\\', 'f']
  else if 32 ≤ n && n ≤ 126 then [c]
  else if n < 0x10000 then unitEscape n
  else unitEscape (0xD800 + (n - 0x10000) / 0x400) ++ unitEscape (0xDC00 + (n - 0x10000) % 0x400)

/-- A string in quotation marks. -/
def stringText (text : String) : String :=
  String.ofList ('"' :: text.toList.flatMap charText ++ ['"'])

/-! ## Points and fields -/

/-- The value of a point. -/
def valueText : Binary64 → String
  | .nan => "NaN"
  | .infinite false => "Infinity"
  | .infinite true => "-Infinity"
  | number => number.text

/-- A point. -/
def pointText (point : Point) : String :=
  "[" ++ toString point.time ++ "," ++ valueText point.value ++ "]"

/-- A field with its points. -/
def fieldText (field : String × List Point) : String :=
  stringText field.1 ++ ":[" ++ String.intercalate "," (field.2.map pointText) ++ "]"

/-- The text of a data file. -/
def fileText (fields : Fields) : String :=
  "\x7b" ++ String.intercalate "," (fields.map fieldText) ++ "\x7d"

end Meteogram.Data
