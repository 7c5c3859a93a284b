import StudyDemo.Sql.Lexer

/-! # Commands made by `sprintf`

A format is text with conversions in it. The tokens of a formatted command can be
read off the format: a printed number is one token, and a printed string stays
inside its quotes when it contains none. -/

namespace StudyDemo.Sql

/-- An argument, with the conversion that prints it. -/
inductive Argument
  | int (value : BitVec 32)
  | unsignedLong (value : BitVec 32)
  | unsignedLongLong (value : BitVec 64)
  | string (characters : Text)

/-- A conversion, or a character that is printed as it is. -/
inductive Piece
  | d
  | lu
  | llu
  | s
  | character (character : Char)

def pieces : Text → List Piece
  | '%' :: 'd' :: format => .d :: pieces format
  | '%' :: 'l' :: 'u' :: format => .lu :: pieces format
  | '%' :: 'l' :: 'l' :: 'u' :: format => .llu :: pieces format
  | '%' :: 's' :: format => .s :: pieces format
  | character :: format => .character character :: pieces format
  | [] => []

/-- The characters before the first NUL. -/
def cString (characters : Text) : Text :=
  characters.takeWhile fun character => decide (character ≠ '\x00')

def decimal (value : Int) : Text :=
  if value < 0 then '-' :: Nat.toDigits 10 value.natAbs else Nat.toDigits 10 value.natAbs

/-- The printed text. A conversion without its argument ends it. -/
def print : List Piece → List Argument → Text
  | .character character :: format, arguments => character :: print format arguments
  | .d :: format, .int value :: arguments => decimal value.toInt ++ print format arguments
  | .lu :: format, .unsignedLong value :: arguments =>
      decimal value.toNat ++ print format arguments
  | .llu :: format, .unsignedLongLong value :: arguments =>
      decimal value.toNat ++ print format arguments
  | .s :: format, .string characters :: arguments =>
      cString characters ++ print format arguments
  | _, _ => []

/-- The format is a row of string literals. -/
def sprintf (format : List String) (arguments : List Argument) : Text :=
  print (pieces (format.flatMap String.toList)) arguments

structure Command where
  format : List String
  arguments : List Argument

def Command.text (command : Command) : Text := sprintf command.format command.arguments

/-! ## Lengths -/

/-- The most characters that an argument is printed as. -/
def Argument.width : Argument → Nat
  | .int _ => 11
  | .unsignedLong _ => 10
  | .unsignedLongLong _ => 20
  | .string characters => (cString characters).length

theorem length_decimal_le {value : Int} {digits : Nat} (positive : 0 < digits)
    (short : value.natAbs < 10 ^ digits) : (decimal value).length ≤ digits + 1 := by
  have few := (Nat.length_toDigits_le_iff (by decide) positive).mpr short
  rw [decimal]
  split_ifs
  · exact Nat.succ_le_succ few
  · exact Nat.le_succ_of_le few

theorem length_decimal_natural_le {value digits : Nat} (positive : 0 < digits)
    (short : value < 10 ^ digits) : (decimal (value : Int)).length ≤ digits := by
  have notNegative : ¬(value : Int) < 0 := by omega
  rw [decimal, if_neg notNegative, Int.natAbs_natCast]
  exact (Nat.length_toDigits_le_iff (by decide) positive).mpr short

theorem length_print_le (format : List Piece) (arguments : List Argument) :
    (print format arguments).length ≤
      format.length + (arguments.map Argument.width).sum := by
  induction format generalizing arguments with
  | nil =>
      cases arguments <;> exact Nat.zero_le _
  | cons piece format induction =>
      cases piece with
      | character character =>
          have later := induction arguments
          rw [print, List.length_cons, List.length_cons]
          omega
      | d =>
          match arguments with
          | .int value :: arguments =>
              have later := induction arguments
              have bound := value.isLt
              have short : value.toInt.natAbs < 10 ^ 10 := by
                rw [BitVec.toInt_eq_toNat_cond]
                split_ifs <;> omega
              have first := length_decimal_le (by decide) short
              rw [print, List.length_append, List.length_cons, List.map_cons, List.sum_cons,
                Argument.width]
              omega
          | [] => exact Nat.zero_le _
          | .unsignedLong _ :: _ => exact Nat.zero_le _
          | .unsignedLongLong _ :: _ => exact Nat.zero_le _
          | .string _ :: _ => exact Nat.zero_le _
      | lu =>
          match arguments with
          | .unsignedLong value :: arguments =>
              have later := induction arguments
              have short : value.toNat < 10 ^ 10 := Nat.lt_trans value.isLt (by decide)
              have first := length_decimal_natural_le (by decide) short
              rw [print, List.length_append, List.length_cons, List.map_cons, List.sum_cons,
                Argument.width]
              omega
          | [] => exact Nat.zero_le _
          | .int _ :: _ => exact Nat.zero_le _
          | .unsignedLongLong _ :: _ => exact Nat.zero_le _
          | .string _ :: _ => exact Nat.zero_le _
      | llu =>
          match arguments with
          | .unsignedLongLong value :: arguments =>
              have later := induction arguments
              have short : value.toNat < 10 ^ 20 := Nat.lt_trans value.isLt (by decide)
              have first := length_decimal_natural_le (by decide) short
              rw [print, List.length_append, List.length_cons, List.map_cons, List.sum_cons,
                Argument.width]
              omega
          | [] => exact Nat.zero_le _
          | .int _ :: _ => exact Nat.zero_le _
          | .unsignedLong _ :: _ => exact Nat.zero_le _
          | .string _ :: _ => exact Nat.zero_le _
      | s =>
          match arguments with
          | .string characters :: arguments =>
              have later := induction arguments
              rw [print, List.length_append, List.length_cons, List.map_cons, List.sum_cons,
                Argument.width]
              omega
          | [] => exact Nat.zero_le _
          | .int _ :: _ => exact Nat.zero_le _
          | .unsignedLong _ :: _ => exact Nat.zero_le _
          | .unsignedLongLong _ :: _ => exact Nat.zero_le _

theorem Command.length_text_le (command : Command) :
    command.text.length ≤ (pieces (command.format.flatMap String.toList)).length +
      (command.arguments.map Argument.width).sum := length_print_le _ _

/-! ## Strings between quotes -/

theorem print_characters (characters : Text) (format : List Piece) (arguments : List Argument) :
    print (characters.map .character ++ format) arguments = characters ++ print format arguments := by
  induction characters with
  | nil => rfl
  | cons character characters induction =>
      rw [List.map_cons, List.cons_append, print, induction, List.cons_append]

theorem sprintf_quoted {format : List String} {fixed characters : Text}
    (written : pieces (format.flatMap String.toList) =
      fixed.map .character ++ [.s, .character '\'']) :
    sprintf format [.string characters] = fixed ++ (cString characters ++ ['\'']) := by
  rw [sprintf, written, print_characters]
  rfl

/-! ## Tokens of a format -/

/-- A number printed before these pieces ends there. -/
def endsNumber : List Piece → Bool
  | [] => true
  | .character character :: _ => AtBoundary [character]
  | _ => false

/-- A printed number is a token of its own. -/
def numberToken (state : LexState) (value : Int) (format : List Piece)
    (rest : Option (List Token)) : Option (List Token) :=
  match state with
  | .between => if endsNumber format then rest.map fun tokens => .number value :: tokens else none
  | _ => none

/-- The tokens of what is printed, with printed strings inside quotes only. -/
def formatTokens : LexState → List Piece → List Argument → Option (List Token)
  | state, [], _ => lexEnd state
  | state, .character character :: format, arguments =>
      (lexStep state character).bind fun step =>
        (formatTokens step.1 format arguments).map fun tokens => step.2 ++ tokens
  | state, .d :: format, .int value :: arguments =>
      numberToken state value.toInt format (formatTokens .between format arguments)
  | state, .lu :: format, .unsignedLong value :: arguments =>
      numberToken state value.toNat format (formatTokens .between format arguments)
  | state, .llu :: format, .unsignedLongLong value :: arguments =>
      numberToken state value.toNat format (formatTokens .between format arguments)
  | .string content, .s :: format, .string characters :: arguments =>
      formatTokens (.string (content ++ cString characters)) format arguments
  | _, _, _ => none

/-- No printed string contains a quote. -/
def QuoteFree (arguments : List Argument) : Prop :=
  ∀ characters, Argument.string characters ∈ arguments → '\'' ∉ cString characters

def Argument.isQuoteFree : Argument → Bool
  | .string characters => decide ('\'' ∉ cString characters)
  | _ => true

instance (arguments : List Argument) : Decidable (QuoteFree arguments) :=
  decidable_of_iff (∀ argument ∈ arguments, argument.isQuoteFree) <| by
    constructor
    · exact fun all characters member => of_decide_eq_true (all _ member)
    · intro quoteFree argument member
      cases argument with
      | string characters => exact decide_eq_true (quoteFree characters member)
      | _ => rfl

theorem QuoteFree.tail {argument : Argument} {arguments : List Argument}
    (quoteFree : QuoteFree (argument :: arguments)) : QuoteFree arguments :=
  fun characters member => quoteFree characters (List.mem_cons_of_mem _ member)

theorem lexFrom_decimal {value : Int} (short : value.natAbs < 2 ^ 64) {text : Text}
    (boundary : AtBoundary text) :
    lexFrom .between (decimal value ++ text) =
      (lexFrom .between text).map fun tokens => .number value :: tokens := by
  have fewDigits : value.natAbs < 10 ^ mostDigits :=
    Nat.lt_of_lt_of_le short (by decide)
  rw [decimal]
  split_ifs with negative
  · have sign : -(value.natAbs : Int) = value := by omega
    rw [List.cons_append, lexFrom_negative fewDigits boundary, sign]
  · have same : (value.natAbs : Int) = value := by omega
    rw [lexFrom_natural fewDigits boundary, same]

theorem atBoundary_print {format : List Piece} (ends : endsNumber format)
    (arguments : List Argument) : AtBoundary (print format arguments) := by
  match format with
  | [] =>
      rw [print]
      · rfl
      all_goals simp
  | .character character :: format => exact ends

theorem lexFrom_numberToken {state : LexState} {value : Int} {format : List Piece}
    {arguments : List Argument} {rest : Option (List Token)} {tokens : List Token}
    (short : value.natAbs < 2 ^ 64)
    (printed : ∀ after, rest = some after →
      lexFrom .between (print format arguments) = some after)
    (number : numberToken state value format rest = some tokens) :
    lexFrom state (decimal value ++ print format arguments) = some tokens := by
  cases state with
  | between =>
      rw [numberToken] at number
      split_ifs at number with ends
      rw [lexFrom_decimal short (atBoundary_print ends arguments)]
      cases after : rest with
      | none =>
          rw [after] at number
          cases number
      | some after' =>
          rw [after] at number
          rw [printed after' after]
          exact number
  | word letters => cases number
  | sign => cases number
  | number negative digits => cases number
  | string content => cases number
  | closed content => cases number
  | comment => cases number

theorem lexFrom_print {format : List Piece} {arguments : List Argument}
    (quoteFree : QuoteFree arguments) {state : LexState} {tokens : List Token}
    (formatted : formatTokens state format arguments = some tokens) :
    lexFrom state (print format arguments) = some tokens := by
  induction format generalizing state arguments tokens with
  | nil =>
      have printed : print [] arguments = [] := by
        cases arguments <;> rfl
      rw [printed]
      exact formatted
  | cons piece format induction =>
      cases piece with
      | character character =>
          rw [print, lexFrom_cons]
          rw [formatTokens, Option.bind_eq_some_iff] at formatted
          obtain ⟨step, stepped, rest⟩ := formatted
          obtain ⟨after, later, whole⟩ := Option.map_eq_some_iff.mp rest
          rw [stepped, Option.bind_some, induction quoteFree later, Option.map_some, whole]
      | d =>
          match arguments, quoteFree with
          | .int value :: arguments, quoteFree =>
              have short : value.toInt.natAbs < 2 ^ 64 := by
                have bound := value.isLt
                rw [BitVec.toInt_eq_toNat_cond]
                split_ifs <;> omega
              rw [formatTokens] at formatted
              exact lexFrom_numberToken short (fun _ => induction quoteFree.tail) formatted
      | lu =>
          match arguments, quoteFree with
          | .unsignedLong value :: arguments, quoteFree =>
              have short : (value.toNat : Int).natAbs < 2 ^ 64 := by
                have bound := value.isLt
                omega
              rw [formatTokens] at formatted
              exact lexFrom_numberToken short (fun _ => induction quoteFree.tail) formatted
      | llu =>
          match arguments, quoteFree with
          | .unsignedLongLong value :: arguments, quoteFree =>
              have short : (value.toNat : Int).natAbs < 2 ^ 64 := by
                have bound := value.isLt
                omega
              rw [formatTokens] at formatted
              exact lexFrom_numberToken short (fun _ => induction quoteFree.tail) formatted
      | s =>
          match state, arguments, quoteFree with
          | .string content, .string characters :: arguments, quoteFree =>
              rw [formatTokens] at formatted
              rw [print, lexFrom_string content (quoteFree characters List.mem_cons_self)]
              exact induction quoteFree.tail formatted

theorem lex_sprintf {format : List String} {arguments : List Argument} {tokens : List Token}
    (quoteFree : QuoteFree arguments)
    (formatted : formatTokens .between (pieces (format.flatMap String.toList)) arguments =
      some tokens) :
    lex (sprintf format arguments) = some tokens := lexFrom_print quoteFree formatted

end StudyDemo.Sql
