import StudyDemo.Json.Entries
import StudyDemo.Json.Values

/-! # The JSON tokener

`json_tokener_parse_ex` as a state machine over the characters of a text. The text is
either as long as `len` says, or ends with a zero (`len` is -1), and then nothing may be
read behind what is there. -/

namespace StudyDemo.Json

open CMemory

inductive TokenerError
  | success
  | goOn
  | depth
  | parseEof
  | parseUnexpected
  | parseNull
  | parseBoolean
  | parseNumber
  | parseArray
  | parseObjectKeyName
  | parseObjectKeySep
  | parseObjectValueSep
  | parseString
  | parseComment
  deriving DecidableEq

inductive TokenerState
  | eatws
  | start
  | finish
  | null
  | commentStart
  | comment
  | commentEol
  | commentEnd
  | string
  | stringEscape
  | escapeUnicode
  | boolean
  | number
  | array
  | arrayAdd
  | arraySep
  | objectFieldStart
  | objectField
  | objectFieldEnd
  | objectValue
  | objectValueAdd
  | objectSep
  | arrayAfterSep
  | objectFieldStartAfterSep
  deriving DecidableEq

/-- `struct json_tokener_srec`. -/
structure Srec (Double : Type) where
  state : TokenerState
  savedState : TokenerState
  current : Value Double
  objFieldName : Text

/-- What `json_tokener_reset_level` leaves. -/
def Srec.reset {Double : Type} : Srec Double where
  state := .eatws
  savedState := .start
  current := .null
  objFieldName := []

/-- `struct json_tokener`: the level at `depth`, those below it, and the buffers. -/
structure Tokener (Double : Type) where
  pb : Text
  maxDepth : Nat
  isDouble : Bool
  stPos : Nat
  err : TokenerError
  ucsChar : BitVec 32
  quoteChar : Byte
  strict : Bool
  top : Srec Double
  below : List (Srec Double)

namespace Tokener

variable {Double : Type} (tok : Tokener Double)

def depth : Nat := tok.below.length

/-- `printbuf_memappend_fast`. -/
def append (characters : Text) : Tokener Double := { tok with pb := tok.pb ++ characters }

/-- `printbuf_reset`. -/
def resetBuffer : Tokener Double := { tok with pb := [] }

def fail (err : TokenerError) : Tokener Double := { tok with err := err }

def setState (state : TokenerState) : Tokener Double :=
  { tok with top := { tok.top with state := state } }

/-- White space may follow, and then the saved state. -/
def eat (savedState : TokenerState) : Tokener Double :=
  { tok with top := { tok.top with state := .eatws, savedState := savedState } }

def setCurrent (current : Value Double) : Tokener Double :=
  { tok with top := { tok.top with current := current } }

/-- One level deeper. -/
def push (state : TokenerState) : Tokener Double :=
  { tok with top := .reset, below := { tok.top with state := state } :: tok.below }

/-- The error when the text is at its end. -/
def peekError : TokenerError :=
  if tok.depth = 0 ∧ tok.top.state = .eatws ∧ tok.top.savedState = .finish then .success
  else .goOn

end Tokener

/-- How the code for a state ends: with `redo_char`, at the character it stands at then;
with `break`, which leaves this character; or with `goto out`. -/
inductive Turn (Double : Type)
  | redo (tok : Tokener Double) (obj : Value Double) (c : Byte) (str : Text)
  | leave (tok : Tokener Double) (c : Byte) (str : Text)
  | out (tok : Tokener Double) (c : Byte)

section Turns

variable {doubles : Doubles}

/-- `PEEK_CHAR` at the end of the text: the tokener for `goto out`. -/
def atEnd (bounded : Bool) (tok : Tokener doubles.Double) : Option (Tokener doubles.Double) :=
  if bounded then some (tok.fail tok.peekError) else none

/-- A loop that passes the characters of a kind: those it passed, and the character where
it ends with the text behind that, or the tokener for `goto out` and the last character. -/
def pass (bounded : Bool) (kind : Byte → Bool) (tok : Tokener doubles.Double) (c : Byte) :
    Text → Option (Text × (Tokener doubles.Double × Byte ⊕ Byte × Text))
  | [] =>
      if kind c then
        if c = 0 then some ([c], .inl (tok, c))
        else (atEnd bounded tok).map fun tok => ([c], .inl (tok, c))
      else
        some ([], .inr (c, []))
  | next :: str =>
      if kind c then
        if c = 0 then some ([c], .inl (tok, c))
        else (pass bounded kind tok next str).map fun result => (c :: result.1, result.2)
      else
        some ([], .inr (c, next :: str))

/-! ## White space and comments -/

def turnEatws (bounded : Bool) (tok : Tokener doubles.Double) (obj : Value doubles.Double)
    (c : Byte) (str : Text) : Option (Turn doubles.Double) := do
  match ← pass bounded isSpace tok c str with
  | (_, .inl (tok, c)) => some (.out tok c)
  | (_, .inr (c, str)) =>
      if c = ascii '/' then
        some (.leave ((tok.resetBuffer.append [c]).setState .commentStart) c str)
      else
        some (.redo (tok.setState tok.top.savedState) obj c str)

def turnCommentStart (tok : Tokener doubles.Double) (c : Byte) (str : Text) :
    Turn doubles.Double :=
  if c = ascii '*' then .leave ((tok.setState .comment).append [c]) c str
  else if c = ascii '/' then .leave ((tok.setState .commentEol).append [c]) c str
  else .out (tok.fail .parseComment) c

def turnComment (bounded : Bool) (tok : Tokener doubles.Double) (c : Byte) (str : Text) :
    Option (Turn doubles.Double) := do
  match ← pass bounded (· ≠ ascii '*') tok c str with
  | (passed, .inl (tok, c)) => some (.out (tok.append passed) c)
  | (passed, .inr (c, str)) =>
      some (.leave ((tok.append (passed ++ [c])).setState .commentEnd) c str)

def turnCommentEol (bounded : Bool) (tok : Tokener doubles.Double) (c : Byte) (str : Text) :
    Option (Turn doubles.Double) := do
  match ← pass bounded (· ≠ ascii '\n') tok c str with
  | (passed, .inl (tok, c)) => some (.out (tok.append passed) c)
  | (passed, .inr (c, str)) => some (.leave ((tok.append passed).setState .eatws) c str)

def turnCommentEnd (tok : Tokener doubles.Double) (c : Byte) (str : Text) :
    Turn doubles.Double :=
  if c = ascii '/' then .leave ((tok.append [c]).setState .eatws) c str
  else .leave ((tok.append [c]).setState .comment) c str

/-! ## The start of a value -/

def turnStart (tok : Tokener doubles.Double) (obj : Value doubles.Double) (c : Byte)
    (str : Text) : Turn doubles.Double :=
  if c = ascii '{' then .leave ((tok.eat .objectFieldStart).setCurrent (.object [])) c str
  else if c = ascii '[' then .leave ((tok.eat .array).setCurrent (.array [])) c str
  else if c = ascii 'N' ∨ c = ascii 'n' then
    .redo { tok.resetBuffer.setState .null with stPos := 0 } obj c str
  else if c = ascii '"' ∨ c = ascii '\'' then
    .leave { tok.resetBuffer.setState .string with quoteChar := c } c str
  else if c = ascii 'T' ∨ c = ascii 't' ∨ c = ascii 'F' ∨ c = ascii 'f' then
    .redo { tok.resetBuffer.setState .boolean with stPos := 0 } obj c str
  else if isDigit c ∨ c = ascii '-' then
    .redo { tok.resetBuffer.setState .number with isDouble := false } obj c str
  else
    .out (tok.fail .parseUnexpected) c

/-- `finish`: a value is complete and goes to the level below. -/
def turnFinish (tok : Tokener doubles.Double) (c : Byte) (str : Text) : Turn doubles.Double :=
  match tok.below with
  | [] => .out tok c
  | level :: below => .redo { tok with top := level, below := below } tok.top.current c str

/-! ## Words and numbers -/

def toLower (c : Byte) : Byte := if ascii 'A' ≤ c && c ≤ ascii 'Z' then c + 0x20 else c

/-- `strncasecmp` of a word with the buffer says that they are the same. -/
def sameWord (word buf : Text) (length : Nat) : Bool :=
  (word.take length).map toLower = (buf.take length).map toLower

def jsonNullStr : Text := text ['n', 'u', 'l', 'l']
def jsonTrueStr : Text := text ['t', 'r', 'u', 'e']
def jsonFalseStr : Text := text ['f', 'a', 'l', 's', 'e']

def turnNull (tok : Tokener doubles.Double) (obj : Value doubles.Double) (c : Byte)
    (str : Text) : Turn doubles.Double :=
  let tok := tok.append [c]
  if sameWord jsonNullStr tok.pb (min (tok.stPos + 1) 4) then
    if tok.stPos = 4 then
      .redo ((tok.setCurrent .null).eat .finish) obj c str
    else
      .leave { tok with stPos := tok.stPos + 1 } c str
  else
    .out (tok.fail .parseNull) c

def turnBoolean (tok : Tokener doubles.Double) (obj : Value doubles.Double) (c : Byte)
    (str : Text) : Turn doubles.Double :=
  let tok := tok.append [c]
  if sameWord jsonTrueStr tok.pb (min (tok.stPos + 1) 4) then
    if tok.stPos = 4 then
      .redo ((tok.setCurrent (.boolean true)).eat .finish) obj c str
    else
      .leave { tok with stPos := tok.stPos + 1 } c str
  else if sameWord jsonFalseStr tok.pb (min (tok.stPos + 1) 5) then
    if tok.stPos = 5 then
      .redo ((tok.setCurrent (.boolean false)).eat .finish) obj c str
    else
      .leave { tok with stPos := tok.stPos + 1 } c str
  else
    .out (tok.fail .parseBoolean) c

/-- `json_number_chars`. -/
def isNumberChar (c : Byte) : Bool :=
  isDigit c || c = ascii '.' || c = ascii '+' || c = ascii '-' || c = ascii 'e' || c = ascii 'E'

/-- The characters that make a number a double. -/
def isDoubleChar (c : Byte) : Bool := c = ascii '.' || c = ascii 'e' || c = ascii 'E'

def Tokener.appendNumber {Double : Type} (tok : Tokener Double) (passed : Text) :
    Tokener Double :=
  { tok.append passed with isDouble := tok.isDouble || passed.any isDoubleChar }

/-- The value of the characters in the buffer. -/
def numberValue (tok : Tokener doubles.Double) : Option (Value doubles.Double) :=
  if tok.isDouble then (doubles.scan tok.pb).map .double else (jsonParseInt64 tok.pb).map .int

def turnNumber (bounded : Bool) (tok : Tokener doubles.Double) (obj : Value doubles.Double)
    (c : Byte) (str : Text) : Option (Turn doubles.Double) := do
  match ← pass bounded isNumberChar tok c str with
  | (passed, .inl (tok, c)) => some (.out (tok.appendNumber passed) c)
  | (passed, .inr (c, str)) =>
      let tok := tok.appendNumber passed
      match numberValue tok with
      | some value => some (.redo ((tok.setCurrent value).eat .finish) obj c str)
      | none => some (.out (tok.fail .parseNumber) c)

/-! ## Strings -/

/-- The characters up to the quote or a backslash. -/
def turnString (bounded : Bool) (tok : Tokener doubles.Double) (c : Byte) (str : Text) :
    Option (Turn doubles.Double) := do
  match ← pass bounded (fun c => c ≠ tok.quoteChar && c ≠ ascii '\\') tok c str with
  | (passed, .inl (tok, c)) => some (.out (tok.append passed) c)
  | (passed, .inr (c, str)) =>
      let tok := tok.append passed
      if c = tok.quoteChar then
        some (.leave ((tok.setCurrent (.string tok.pb)).eat .finish) c str)
      else
        some (.leave ((tok.eat .string).setState .stringEscape) c str)

def turnObjectField (bounded : Bool) (tok : Tokener doubles.Double) (c : Byte) (str : Text) :
    Option (Turn doubles.Double) := do
  match ← pass bounded (fun c => c ≠ tok.quoteChar && c ≠ ascii '\\') tok c str with
  | (passed, .inl (tok, c)) => some (.out (tok.append passed) c)
  | (passed, .inr (c, str)) =>
      let tok := tok.append passed
      if c = tok.quoteChar then
        -- `strdup` ends at the first zero
        let name := tok.pb.takeWhile (· ≠ 0)
        let tok := { tok with top := { tok.top with objFieldName := name } }
        some (.leave (tok.eat .objectFieldEnd) c str)
      else
        some (.leave ((tok.eat .objectField).setState .stringEscape) c str)

/-- The control character that an escape stands for. -/
def controlChar (c : Byte) : Option Byte :=
  if c = ascii 'b' then some 0x08
  else if c = ascii 'n' then some 0x0a
  else if c = ascii 'r' then some 0x0d
  else if c = ascii 't' then some 0x09
  else if c = ascii 'f' then some 0x0c
  else none

def turnStringEscape (tok : Tokener doubles.Double) (c : Byte) (str : Text) :
    Turn doubles.Double :=
  if c = ascii '"' ∨ c = ascii '\\' ∨ c = ascii '/' then
    .leave ((tok.append [c]).setState tok.top.savedState) c str
  else
    match controlChar c with
    | some control => .leave ((tok.append [control]).setState tok.top.savedState) c str
    | none =>
        if c = ascii 'u' then
          .leave { tok.setState .escapeUnicode with ucsChar := 0, stPos := 0 } c str
        else
          .out (tok.fail .parseString) c

/-! ## Escapes with four hexadecimal digits -/

/-- `strchr` in `json_hex_chars`, which finds the zero behind them too. -/
def inHexChars (c : Byte) : Bool := jsonHexChars.contains c || c = 0

/-- `hexdigit` of a signed character. -/
def hexDigit (c : Byte) : BitVec 32 :=
  if c.toInt ≤ (ascii '9').toInt then c.signExtend 32 - (ascii '0').signExtend 32
  else (c.signExtend 32 &&& 7) + 9

def isHighSurrogate (uc : BitVec 32) : Bool := uc &&& 0xfc00 = 0xd800

def isLowSurrogate (uc : BitVec 32) : Bool := uc &&& 0xfc00 = 0xdc00

def decodeSurrogatePair (hi lo : BitVec 32) : BitVec 32 :=
  ((hi &&& 0x3ff) <<< 10) + (lo &&& 0x3ff) + 0x10000

def utf8ReplacementChar : Text := [0xef, 0xbf, 0xbd]

def byte (value : BitVec 32) : Byte := value.setWidth 8

/-- The bytes of a character that is no high surrogate. -/
def unescapedUtf (uc : BitVec 32) : Text :=
  if uc < 0x80 then [byte uc]
  else if uc < 0x800 then [byte (0xc0 ||| (uc >>> 6)), byte (0x80 ||| (uc &&& 0x3f))]
  else if isLowSurrogate uc then utf8ReplacementChar
  else if uc < 0x10000 then
    [byte (0xe0 ||| (uc >>> 12)), byte (0x80 ||| ((uc >>> 6) &&& 0x3f)),
      byte (0x80 ||| (uc &&& 0x3f))]
  else if uc < 0x110000 then
    [byte (0xf0 ||| ((uc >>> 18) &&& 0x07)), byte (0x80 ||| ((uc >>> 12) &&& 0x3f)),
      byte (0x80 ||| ((uc >>> 6) &&& 0x3f)), byte (0x80 ||| (uc &&& 0x3f))]
  else utf8ReplacementChar

/-- A digit comes into `ucs_char`. -/
def Tokener.addDigit {Double : Type} (tok : Tokener Double) (c : Byte) : Tokener Double :=
  { tok with
    ucsChar := tok.ucsChar + hexDigit c <<< ((3 - tok.stPos) * 4)
    stPos := tok.stPos + 1 }

/-- The second of two escapes makes a pair with the first, or the first is replaced. -/
def Tokener.combine {Double : Type} (tok : Tokener Double) : Option (BitVec 32) → Tokener Double
  | none => tok
  | some hi =>
      if isLowSurrogate tok.ucsChar then
        { tok with ucsChar := decodeSurrogatePair hi tok.ucsChar }
      else
        tok.append utf8ReplacementChar

/-- What the digit at the current character leads to. -/
inductive Digit (Double : Type)
  | turn (turn : Turn Double)
  | more (tok : Tokener Double)
  | second (tok : Tokener Double)

/-- Whether `\u` follows, which cannot be said where the text may not be read. -/
def escapeFollows (bounded : Bool) : Text → Option Bool
  | [] => if bounded then some false else none
  | [c] => if bounded ∨ c ≠ ascii '\\' then some false else none
  | c :: u :: _ => some (c = ascii '\\' && u = ascii 'u')

/-- A digit. The fourth one completes the escape, and with the digits of a first escape
before it the pair. -/
def digit (bounded : Bool) (tok : Tokener doubles.Double) (hi : Option (BitVec 32)) (c : Byte)
    (str : Text) : Option (Digit doubles.Double) :=
  if inHexChars c then
    let tok := tok.addDigit c
    if tok.stPos = 4 then
      let tok := tok.combine hi
      if 0x800 ≤ tok.ucsChar ∧ isHighSurrogate tok.ucsChar then do
        if ← escapeFollows bounded str then
          some (.second tok)
        else
          some (.turn
            (.leave ((tok.append utf8ReplacementChar).setState tok.top.savedState) c str))
      else
        some (.turn
          (.leave ((tok.append (unescapedUtf tok.ucsChar)).setState tok.top.savedState) c str))
    else
      some (.more tok)
  else
    some (.turn (.out (tok.fail .parseString) c))

/-- The loop over the digits. `got_hi_surrogate` is lost at the end of the text. -/
def turnEscapeUnicode (bounded : Bool) (tok : Tokener doubles.Double)
    (hi : Option (BitVec 32)) (c : Byte) (str : Text) : Option (Turn doubles.Double) :=
  match digit bounded tok hi c str with
  | none => none
  | some (.turn turn) => some turn
  | some (.more tok) =>
      let replaced := if hi = none then [] else utf8ReplacementChar
      if c = 0 then
        some (.out (tok.append replaced) c)
      else
        match str with
        | [] => (atEnd bounded tok).map fun tok => .out (tok.append replaced) c
        | next :: str => turnEscapeUnicode bounded tok hi next str
  | some (.second tok) =>
      if c = 0 then
        some (.out (tok.append (utf8ReplacementChar ++ utf8ReplacementChar)) c)
      else
        match str with
        | _ :: _ :: next :: str =>
            turnEscapeUnicode bounded { tok with ucsChar := 0, stPos := 0 } (some tok.ucsChar)
              next str
        | _ => (atEnd bounded tok).map fun tok => .out (tok.append utf8ReplacementChar) c

/-! ## Arrays and objects -/

def turnArray (tok : Tokener doubles.Double) (obj : Value doubles.Double) (c : Byte)
    (str : Text) : Turn doubles.Double :=
  if c = ascii ']' then
    if tok.top.state = .arrayAfterSep ∧ tok.strict then .out (tok.fail .parseUnexpected) c
    else .leave (tok.eat .finish) c str
  else if tok.maxDepth ≤ tok.depth + 1 then
    .out (tok.fail .depth) c
  else
    .redo (tok.push .arrayAdd) obj c str

/-- `json_object_array_add`. -/
def Value.arrayAdd {Double : Type} (current obj : Value Double) : Value Double :=
  match current with
  | .array values => .array (values ++ [obj])
  | current => current

/-- `json_object_object_add`. -/
def Value.objectAdd {Double : Type} (current : Value Double) (key : Text) (obj : Value Double) :
    Value Double :=
  match current with
  | .object entries => .object (Entries.add entries key obj)
  | current => current

def turnArrayAdd (tok : Tokener doubles.Double) (obj : Value doubles.Double) (c : Byte)
    (str : Text) : Turn doubles.Double :=
  .redo ((tok.setCurrent (tok.top.current.arrayAdd obj)).eat .arraySep) obj c str

def turnArraySep (tok : Tokener doubles.Double) (c : Byte) (str : Text) : Turn doubles.Double :=
  if c = ascii ']' then .leave (tok.eat .finish) c str
  else if c = ascii ',' then .leave (tok.eat .arrayAfterSep) c str
  else .out (tok.fail .parseArray) c

def turnObjectFieldStart (tok : Tokener doubles.Double) (c : Byte) (str : Text) :
    Turn doubles.Double :=
  if c = ascii '}' then
    if tok.top.state = .objectFieldStartAfterSep ∧ tok.strict then
      .out (tok.fail .parseUnexpected) c
    else
      .leave (tok.eat .finish) c str
  else if c = ascii '"' ∨ c = ascii '\'' then
    .leave ({ tok with quoteChar := c }.resetBuffer.setState .objectField) c str
  else
    .out (tok.fail .parseObjectKeyName) c

def turnObjectFieldEnd (tok : Tokener doubles.Double) (c : Byte) (str : Text) :
    Turn doubles.Double :=
  if c = ascii ':' then .leave (tok.eat .objectValue) c str
  else .out (tok.fail .parseObjectKeySep) c

def turnObjectValue (tok : Tokener doubles.Double) (obj : Value doubles.Double) (c : Byte)
    (str : Text) : Turn doubles.Double :=
  if tok.maxDepth ≤ tok.depth + 1 then .out (tok.fail .depth) c
  else .redo (tok.push .objectValueAdd) obj c str

def turnObjectValueAdd (tok : Tokener doubles.Double) (obj : Value doubles.Double) (c : Byte)
    (str : Text) : Turn doubles.Double :=
  let current := tok.top.current.objectAdd tok.top.objFieldName obj
  let tok := { tok with top := { tok.top with current := current, objFieldName := [] } }
  .redo (tok.eat .objectSep) obj c str

def turnObjectSep (tok : Tokener doubles.Double) (c : Byte) (str : Text) : Turn doubles.Double :=
  if c = ascii '}' then .leave (tok.eat .finish) c str
  else if c = ascii ',' then .leave (tok.eat .objectFieldStartAfterSep) c str
  else .out (tok.fail .parseObjectValueSep) c

/-! ## The main loop -/

/-- The code for the state. -/
def turn (bounded : Bool) (tok : Tokener doubles.Double) (obj : Value doubles.Double)
    (c : Byte) (str : Text) : Option (Turn doubles.Double) :=
  match tok.top.state with
  | .eatws => turnEatws bounded tok obj c str
  | .start => some (turnStart tok obj c str)
  | .finish => some (turnFinish tok c str)
  | .null => some (turnNull tok obj c str)
  | .commentStart => some (turnCommentStart tok c str)
  | .comment => turnComment bounded tok c str
  | .commentEol => turnCommentEol bounded tok c str
  | .commentEnd => some (turnCommentEnd tok c str)
  | .string => turnString bounded tok c str
  | .stringEscape => some (turnStringEscape tok c str)
  | .escapeUnicode => turnEscapeUnicode bounded tok none c str
  | .boolean => some (turnBoolean tok obj c str)
  | .number => turnNumber bounded tok obj c str
  | .array => some (turnArray tok obj c str)
  | .arrayAdd => some (turnArrayAdd tok obj c str)
  | .arraySep => some (turnArraySep tok c str)
  | .objectFieldStart => some (turnObjectFieldStart tok c str)
  | .objectField => turnObjectField bounded tok c str
  | .objectFieldEnd => some (turnObjectFieldEnd tok c str)
  | .objectValue => some (turnObjectValue tok obj c str)
  | .objectValueAdd => some (turnObjectValueAdd tok obj c str)
  | .objectSep => some (turnObjectSep tok c str)
  | .arrayAfterSep => some (turnArray tok obj c str)
  | .objectFieldStartAfterSep => some (turnObjectFieldStart tok c str)

/-- Where the main loop stands: at the switch with a character and the text behind it, or
behind `out:` with the last character. -/
inductive Place (Double : Type)
  | redo (tok : Tokener Double) (obj : Value Double) (c : Byte) (str : Text)
  | out (tok : Tokener Double) (c : Byte)

/-- From one switch to the next. -/
def step (bounded : Bool) : Place doubles.Double → Option (Place doubles.Double)
  | .out tok c => some (.out tok c)
  | .redo tok obj c str => do
      match ← turn bounded tok obj c str with
      | .redo tok obj c str => some (.redo tok obj c str)
      | .out tok c => some (.out tok c)
      | .leave tok c str =>
          if c = 0 then some (.out tok c)
          else
            match str with
            | [] => (atEnd bounded tok).map fun tok => .out tok c
            | c :: str => some (.redo tok obj c str)

/-- The main loop, for at most so many switches. -/
def parseLoop (bounded : Bool) :
    Nat → Place doubles.Double → Option (Tokener doubles.Double × Byte)
  | _, .out tok c => some (tok, c)
  | 0, .redo .. => none
  | fuel + 1, .redo tok obj c str => do
      let place ← step bounded (.redo tok obj c str)
      parseLoop bounded fuel place

/-- What stands behind `out:`. -/
def parseOut (tok : Tokener doubles.Double) (c : Byte) :
    Tokener doubles.Double × Value doubles.Double :=
  let tok :=
    if c = 0 ∧ tok.top.state ≠ .finish ∧ tok.top.savedState ≠ .finish then tok.fail .parseEof
    else tok
  if tok.err = .success then
    ({ tok with top := .reset, below := tok.below.map fun _ => .reset }, tok.top.current)
  else
    (tok, .null)

/-- No text takes more switches for a character. -/
def switches : Nat := 10

/-- `json_tokener_parse_ex`; its result may be `NULL`. -/
def jsonTokenerParseEx (bounded : Bool) (tok : Tokener doubles.Double) (str : Text) :
    Option (Tokener doubles.Double × Value doubles.Double) := do
  let tok := tok.fail .success
  match str with
  | [] => do
      let tok ← atEnd bounded tok
      some (parseOut tok 1)
  | c :: str =>
      let (tok, c) ← parseLoop bounded (switches * (str.length + 1)) (.redo tok .null c str)
      some (parseOut tok c)

def jsonTokenerNewEx (depth : Nat) : Tokener doubles.Double where
  pb := []
  maxDepth := depth
  isDouble := false
  stPos := 0
  err := .success
  ucsChar := 0
  quoteChar := 0
  strict := false
  top := .reset
  below := []

def jsonTokenerDefaultDepth : Nat := 32

/-- `json_tokener_parse_verbose` of the text at an address; its result may be `NULL`. -/
def jsonTokenerParseVerbose (doubles : Doubles) (str : Text) :
    Option (TokenerError × Value doubles.Double) := do
  let (tok, obj) ← jsonTokenerParseEx false (jsonTokenerNewEx jsonTokenerDefaultDepth) str
  some (tok.err, if tok.err = .success then obj else .null)

def jsonTokenerParse (doubles : Doubles) (str : Text) : Option (Value doubles.Double) :=
  (jsonTokenerParseVerbose doubles str).map Prod.snd

end Turns

end StudyDemo.Json
