import StudyDemo.Foundation.CMemory

/-! # JSON values and their texts

Values as `struct json_object` holds them, and what `json_object_to_json_string_ext`
prints of them. `NULL` is the value `null`. Floating point is left to a library. -/

namespace StudyDemo.Json

open CMemory

abbrev Text := List Byte

def ascii (character : Char) : Byte := BitVec.ofNat 8 character.toNat

def text (characters : List Char) : Text := characters.map ascii

inductive Value (Double : Type)
  | null
  | boolean (value : Bool)
  | int (value : BitVec 64)
  | double (value : Double)
  | string (characters : Text)
  | array (values : List (Value Double))
  | object (entries : List (Text × Value Double))

instance (Double : Type) : Inhabited (Value Double) := ⟨.null⟩

/-- The C library's functions for floating point: `sscanf` with `%lf`, `snprintf` with
`%f`, where zeros at the end may be dropped, and the conversion to `int32_t`. -/
structure Doubles where
  Double : Type
  scan : Text → Option Double
  print : Bool → Double → Text
  toInt : Double → Int

/-- Doubles as their own texts, for examples. -/
def textDoubles : Doubles where
  Double := Text
  scan characters := some characters
  print _ value := value
  toInt _ := 0

/-! ## Numbers -/

/-- `isspace` in the C locale. -/
def isSpace (c : Byte) : Bool := c = 0x20 || (0x09 ≤ c && c ≤ 0x0d)

def isDigit (c : Byte) : Bool := ascii '0' ≤ c && c ≤ ascii '9'

def int64Min : Int := -2 ^ 63
def int64Max : Int := 2 ^ 63 - 1

/-- The number that decimal digits write. -/
def digitsValue (digits : Text) : Nat :=
  Nat.ofDigitChars 10 (digits.map fun c => Char.ofNat c.toNat) 0

/-- `json_parse_int64` where `sscanf` reports what is out of range: the nearest number
then. -/
def jsonParseInt64 (buf : Text) : Option (BitVec 64) :=
  let buf := buf.dropWhile isSpace
  let negative := buf.head? = some (ascii '-')
  let signed := negative ∨ buf.head? = some (ascii '+')
  let digits := (if signed then buf.tail else buf).takeWhile isDigit
  if digits = [] then
    none
  else if negative then
    some (BitVec.ofInt 64 (max int64Min (-(digitsValue digits : Int))))
  else
    some (BitVec.ofInt 64 (min int64Max (digitsValue digits : Int)))

/-- What `printf` writes for `PRId64`. -/
def decimal (value : BitVec 64) : Text :=
  if value.toInt < 0 then ascii '-' :: text (Nat.toDigits 10 value.toInt.natAbs)
  else text (Nat.toDigits 10 value.toInt.natAbs)

/-! ## Texts -/

def jsonHexChars : Text :=
  text ['0', '1', '2', '3', '4', '5', '6', '7', '8', '9', 'a', 'b', 'c', 'd', 'e', 'f',
    'A', 'B', 'C', 'D', 'E', 'F']

/-- What `json_escape_str` writes for a character that does not stand for itself. -/
def escapeChar (c : Byte) : Option Text :=
  if c = 0x08 then some (text ['\\', 'b'])
  else if c = 0x0a then some (text ['\\', 'n'])
  else if c = 0x0d then some (text ['\\', 'r'])
  else if c = 0x09 then some (text ['\\', 't'])
  else if c = 0x0c then some (text ['\\', 'f'])
  else if c = ascii '"' then some (text ['\\', '"'])
  else if c = ascii '\\' then some (text ['\\', '\\'])
  else if c = ascii '/' then some (text ['\\', '/'])
  else if c < 0x20 then
    some (text ['\\', 'u', '0', '0'] ++
      [jsonHexChars.getD (c >>> 4).toNat 0, jsonHexChars.getD (c &&& 0xf).toNat 0])
  else none

/-- The loop of `json_escape_str`; the characters from `start_offset` on are not yet
written. -/
def escapeLoop (unwritten : Text) : Text → Text
  | [] => unwritten
  | c :: str =>
      match escapeChar c with
      | some escaped => unwritten ++ escaped ++ escapeLoop [] str
      | none => escapeLoop (unwritten ++ [c]) str

def jsonEscapeStr (str : Text) : Text := escapeLoop [] str

/-- `JSON_C_TO_STRING_SPACED`, `JSON_C_TO_STRING_PRETTY` and `JSON_C_TO_STRING_NOZERO`. -/
structure ToStringFlags where
  spaced : Bool
  pretty : Bool
  noZero : Bool

namespace ToStringFlags

variable (flags : ToStringFlags)

def newline : Text := if flags.pretty then text ['\n'] else []

def space : Text := if flags.spaced then text [' '] else []

def indent (level : Nat) : Text := if flags.pretty then List.replicate (level * 2) (ascii ' ') else
    []

/-- What stands between two children and in front of the first. -/
def separator (hadChildren : Bool) (level : Nat) : Text :=
  (if hadChildren then text [','] ++ flags.newline else []) ++ flags.space ++
    flags.indent (level + 1)

/-- What stands behind the last child. -/
def closing (hadChildren : Bool) (level : Nat) : Text :=
  (if hadChildren then flags.newline else []) ++ flags.indent level ++ flags.space

end ToStringFlags

section Printing

variable (doubles : Doubles) (flags : ToStringFlags)

mutual

/-- The `_to_json_string` function of a value; `null` has none and is written by the
functions of arrays and objects. -/
def toJsonString (level : Nat) : Value doubles.Double → Text
  | .null => text ['n', 'u', 'l', 'l']
  | .boolean true => text ['t', 'r', 'u', 'e']
  | .boolean false => text ['f', 'a', 'l', 's', 'e']
  | .int value => decimal value
  | .double value => doubles.print flags.noZero value
  | .string characters => text ['"'] ++ jsonEscapeStr characters ++ text ['"']
  | .array values =>
      text ['['] ++ flags.newline ++ itemsString level false values ++
        flags.closing (!values.isEmpty) level ++ text [']']
  | .object entries =>
      text ['{'] ++ flags.newline ++ entriesString level false entries ++
        flags.closing (!entries.isEmpty) level ++ text ['}']

/-- The loop of `json_object_array_to_json_string`. -/
def itemsString (level : Nat) (hadChildren : Bool) : List (Value doubles.Double) → Text
  | [] => []
  | value :: values =>
      flags.separator hadChildren level ++ toJsonString (level + 1) value ++
        itemsString level true values

/-- The loop of `json_object_object_to_json_string`. A key ends at its first zero. -/
def entriesString (level : Nat) (hadChildren : Bool) :
    List (Text × Value doubles.Double) → Text
  | [] => []
  | (key, value) :: entries =>
      flags.separator hadChildren level ++ text ['"'] ++
        jsonEscapeStr (key.takeWhile (· ≠ 0)) ++ text ['"', ':'] ++ flags.space ++
        toJsonString (level + 1) value ++ entriesString level true entries

end

def jsonObjectToJsonStringExt (value : Value doubles.Double) : Text :=
  toJsonString doubles flags 0 value

end Printing

/-! ## Looking into values -/

section Getters

variable (doubles : Doubles)

def int32Min : Int := -2 ^ 31
def int32Max : Int := 2 ^ 31 - 1

/-- A number as the nearest `int32_t`. -/
def clampInt32 (value : BitVec 64) : Int := max int32Min (min int32Max value.toInt)

def jsonObjectGetInt : Value doubles.Double → Int
  | .string characters =>
      match jsonParseInt64 (characters.takeWhile (· ≠ 0)) with
      | none => 0
      | some value => clampInt32 value
  | .int value => clampInt32 value
  | .double value => doubles.toInt value
  | .boolean value => if value then 1 else 0
  | _ => 0

def jsonObjectObjectGet (jso : Value doubles.Double) (key : Text) : Value doubles.Double :=
  match jso with
  | .object entries => (entries.lookup key).getD .null
  | _ => .null

end Getters

end StudyDemo.Json
