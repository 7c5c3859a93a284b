import StudyDemo.Sql.Format

/-! # Lengths of formatted commands

When the arguments are those the conversions ask for, a command is exactly as long as
its literal characters and its printed arguments together. -/

namespace StudyDemo.Sql

inductive Conversion
  | d
  | lu
  | llu
  | s
  deriving DecidableEq

def Argument.conversion : Argument → Conversion
  | .int _ => .d
  | .unsignedLong _ => .lu
  | .unsignedLongLong _ => .llu
  | .string _ => .s

/-- The conversion that the piece is, if it is not printed as it is. -/
def Piece.conversion : Piece → Option Conversion
  | .character _ => none
  | .d => some .d
  | .lu => some .lu
  | .llu => some .llu
  | .s => some .s

def conversions (format : List Piece) : List Conversion := format.filterMap Piece.conversion

/-- The characters that are printed as they are. -/
def literals (format : List Piece) : Nat := format.countP fun piece => piece.conversion.isNone

def digits (value : Nat) : Nat := (Nat.toDigits 10 value).length

def Argument.printed : Argument → Text
  | .int value => decimal value.toInt
  | .unsignedLong value => decimal value.toNat
  | .unsignedLongLong value => decimal value.toNat
  | .string characters => cString characters

@[simp] theorem length_decimal_natural (value : Nat) : (decimal value).length = digits value := by
  have notNegative : ¬(value : Int) < 0 := Int.not_lt.mpr (Int.natCast_nonneg value)
  rw [decimal, if_neg notNegative, Int.natAbs_natCast, digits]

@[simp] theorem length_printed_string (characters : Text) :
    (Argument.string characters).printed.length = (cString characters).length := rfl

@[simp] theorem length_printed_unsignedLong (value : BitVec 32) :
    (Argument.unsignedLong value).printed.length = digits value.toNat :=
  length_decimal_natural _

@[simp] theorem length_printed_unsignedLongLong (value : BitVec 64) :
    (Argument.unsignedLongLong value).printed.length = digits value.toNat :=
  length_decimal_natural _

theorem print_of_conversion {piece : Piece} {argument : Argument}
    (isConversion : piece.conversion = some argument.conversion) (format : List Piece)
    (arguments : List Argument) :
    print (piece :: format) (argument :: arguments) =
      argument.printed ++ print format arguments := by
  cases piece with
  | character character => cases isConversion
  | d => cases argument <;> first | rfl | cases isConversion
  | lu => cases argument <;> first | rfl | cases isConversion
  | llu => cases argument <;> first | rfl | cases isConversion
  | s => cases argument <;> first | rfl | cases isConversion

theorem print_of_literal {piece : Piece} (isLiteral : piece.conversion = none)
    (format : List Piece) (arguments : List Argument) :
    (print (piece :: format) arguments).length = (print format arguments).length + 1 := by
  cases piece with
  | character character => rw [print, List.length_cons]
  | d => cases isLiteral
  | lu => cases isLiteral
  | llu => cases isLiteral
  | s => cases isLiteral

theorem length_print {format : List Piece} {arguments : List Argument}
    (suited : conversions format = arguments.map Argument.conversion) :
    (print format arguments).length =
      literals format + (arguments.map fun argument => argument.printed.length).sum := by
  induction format generalizing arguments with
  | nil =>
      have none : arguments = [] := List.map_eq_nil_iff.mp suited.symm
      rw [none]
      rfl
  | cons piece format induction =>
      cases isConversion : piece.conversion with
      | none =>
          rw [conversions, List.filterMap_cons_none isConversion] at suited
          have counted : literals (piece :: format) = literals format + 1 :=
            List.countP_cons_of_pos (isConversion ▸ rfl)
          rw [print_of_literal isConversion, induction suited, counted]
          omega
      | some conversion =>
          rw [conversions, List.filterMap_cons_some isConversion] at suited
          have counted : literals (piece :: format) = literals format :=
            List.countP_cons_of_neg (isConversion ▸ Bool.false_ne_true)
          cases arguments with
          | nil => cases suited
          | cons argument arguments =>
              obtain ⟨same, later⟩ := List.cons.inj suited
              rw [print_of_conversion (same ▸ isConversion), List.length_append, induction later,
                counted, List.map_cons, List.sum_cons]
              omega

theorem Command.length_text {command : Command} {asked : List Conversion} {most : Nat}
    (format : conversions (pieces (command.format.flatMap String.toList)) = asked ∧
      literals (pieces (command.format.flatMap String.toList)) = most)
    (given : command.arguments.map Argument.conversion = asked) :
    command.text.length =
      most + (command.arguments.map fun argument => argument.printed.length).sum := by
  rw [Command.text, sprintf, length_print (format.1.trans given.symm), format.2]

end StudyDemo.Sql
