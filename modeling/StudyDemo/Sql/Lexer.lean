import Mathlib.Data.List.Basic
import Mathlib.Tactic.Common
import Mathlib.Tactic.IntervalCases

/-! # Tokens of SQL

A command is read one character at a time. A literal string runs from a quote to
the next one that is not doubled, a comment from two minus signs to the end of its
line, and words are taken without regard to case. Text that uses other
punctuation has no tokens here. -/

namespace StudyDemo.Sql

abbrev Text := List Char

inductive Token
  | word (letters : Text)
  | number (value : Int)
  | string (content : Text)
  | symbol (character : Char)
  deriving DecidableEq

/-- What the lexer is in the middle of. `closed` has seen a quote that may turn out
to be the first of a doubled one. -/
inductive LexState
  | between
  | word (letters : Text)
  | sign
  | number (negative : Bool) (digits : Text)
  | string (content : Text)
  | closed (content : Text)
  | comment
  deriving DecidableEq

def isSpace (character : Char) : Bool :=
  character = ' ' || character = '\t' || character = '\n' || character = '\r' ||
    character = '\x0c'

/-- A character of a word. Bytes of encoded text belong to words too. -/
def isWordStart (character : Char) : Bool :=
  character.isAlpha || character = '_' || decide (0x80 ≤ character.toNat)

def isWordPart (character : Char) : Bool :=
  isWordStart character || character.isDigit || character = '$'

def isPunctuation (character : Char) : Bool :=
  character = '(' || character = ')' || character = ',' || character = '=' ||
    character = '*' || character = ';'

/-- Longer numbers are not read: they leave the range of floating values. -/
def mostDigits : Nat := 200

def numberValue (negative : Bool) (digits : Text) : Int :=
  if negative then -(Nat.ofDigitChars 10 digits 0 : Int) else Nat.ofDigitChars 10 digits 0

/-- A character that begins something. -/
def startToken (character : Char) : Option (LexState × List Token) :=
  if isSpace character then some (.between, [])
  else if isWordStart character then some (.word [character.toLower], [])
  else if character.isDigit then some (.number false [character], [])
  else if character = '\'' then some (.string [], [])
  else if character = '-' then some (.sign, [])
  else if isPunctuation character then some (.between, [.symbol character])
  else none

/-- What ended before this character, and what the character begins. -/
def endToken (token : Token) (character : Char) : Option (LexState × List Token) :=
  (startToken character).map fun started => (started.1, token :: started.2)

/-- One character. A sign stands directly before the digits of its number. -/
def lexStep : LexState → Char → Option (LexState × List Token)
  | .between, character => startToken character
  | .word letters, character =>
      if isWordPart character then some (.word (letters ++ [character.toLower]), [])
      else if character = '\'' then none
      else endToken (.word letters) character
  | .sign, character =>
      if character = '-' then some (.comment, [])
      else if character.isDigit then some (.number true [character], [])
      else none
  | .number negative digits, character =>
      if character.isDigit then
        if digits.length < mostDigits then some (.number negative (digits ++ [character]), [])
        else none
      else if isWordPart character || character = '.' then none
      else endToken (.number (numberValue negative digits)) character
  | .string content, character =>
      if character = '\'' then some (.closed content, [])
      else some (.string (content ++ [character]), [])
  | .closed content, character =>
      if character = '\'' then some (.string (content ++ ['\'']), [])
      else endToken (.string content) character
  | .comment, character =>
      if character = '\n' then some (.between, []) else some (.comment, [])

/-- The end of the command. A string must have been closed. -/
def lexEnd : LexState → Option (List Token)
  | .between => some []
  | .word letters => some [.word letters]
  | .sign => none
  | .number negative digits => some [.number (numberValue negative digits)]
  | .string _ => none
  | .closed content => some [.string content]
  | .comment => some []

/-- The tokens of the rest of a command. -/
def lexFrom : LexState → Text → Option (List Token)
  | state, [] => lexEnd state
  | state, character :: text =>
      (lexStep state character).bind fun step =>
        (lexFrom step.1 text).map fun tokens => step.2 ++ tokens

def lex (text : Text) : Option (List Token) := lexFrom .between text

theorem lexFrom_cons (state : LexState) (character : Char) (text : Text) :
    lexFrom state (character :: text) =
      (lexStep state character).bind fun step =>
        (lexFrom step.1 text).map fun tokens => step.2 ++ tokens := rfl

/-- The state after a text, and the tokens that ended in it. -/
def lexThrough : LexState → Text → Option (LexState × List Token)
  | state, [] => some (state, [])
  | state, character :: text =>
      (lexStep state character).bind fun step =>
        (lexThrough step.1 text).map fun after => (after.1, step.2 ++ after.2)

theorem lexFrom_append (state : LexState) (text rest : Text) :
    lexFrom state (text ++ rest) =
      (lexThrough state text).bind fun after =>
        (lexFrom after.1 rest).map fun tokens => after.2 ++ tokens := by
  induction text generalizing state with
  | nil =>
      rw [List.nil_append, lexThrough, Option.bind_some]
      exact (Option.map_id' : _).symm
  | cons character text induction =>
      rw [List.cons_append, lexFrom_cons, lexThrough]
      cases lexStep state character with
      | none => rfl
      | some step =>
          rw [Option.bind_some, Option.bind_some, induction, Option.bind_map]
          cases lexThrough step.1 text with
          | none => rfl
          | some after =>
              rw [Option.bind_some]
              dsimp only [Option.bind_some, Function.comp_apply]
              cases lexFrom after.1 rest with
              | none => rfl
              | some tokens => exact congrArg some (List.append_assoc _ _ _).symm

/-- The text does not go on with a character of a number or a word. -/
def AtBoundary : Text → Bool
  | [] => true
  | character :: _ => !(isWordPart character || character = '.')

/-! ## Strings -/

/-- Without a quote the content of a string is what is written. -/
theorem lexFrom_string (content : Text) {inside : Text} (noQuote : '\'' ∉ inside) (text : Text) :
    lexFrom (.string content) (inside ++ text) = lexFrom (.string (content ++ inside)) text := by
  induction inside generalizing content with
  | nil => rw [List.nil_append, List.append_nil]
  | cons character inside induction =>
      have notQuote : ¬character = '\'' := fun equal => noQuote (equal ▸ List.mem_cons_self)
      have rest : '\'' ∉ inside := fun member => noQuote (List.mem_cons_of_mem _ member)
      rw [List.cons_append, lexFrom_cons, lexStep, if_neg notQuote, Option.bind_some]
      dsimp only
      rw [induction _ rest, List.append_assoc, List.singleton_append]
      exact Option.map_id'

/-- A quote is never part of a string as it stands: the string that begins here is
shorter than what is written up to its last quote. -/
theorem lexFrom_string_shorter : ∀ (inside content : Text) {tokens : List Token},
    lexFrom (.string content) (inside ++ ['\'']) = some tokens →
    ∃ literal rest, tokens = .string literal :: rest ∧
      literal.length ≤ content.length + inside.length ∧
      ('\'' ∈ inside → literal.length < content.length + inside.length)
  | [], content, tokens, read => by
      refine ⟨content, [], ?_, Nat.le_refl _, fun member => absurd member List.not_mem_nil⟩
      exact (Option.some.inj read).symm
  | [character], content, tokens, read => by
      rw [List.singleton_append, lexFrom_cons, lexStep] at read
      by_cases isQuote : character = '\''
      · rw [if_pos isQuote, Option.bind_some] at read
        cases read
      · rw [if_neg isQuote, Option.bind_some] at read
        obtain ⟨after, later, rfl⟩ := Option.map_eq_some_iff.mp read
        refine ⟨content ++ [character], [], (Option.some.inj later).symm, ?_, fun member => ?_⟩
        · exact Nat.le_of_eq (List.length_append)
        · exact absurd (List.mem_singleton.mp member).symm isQuote
  | character :: next :: inside, content, tokens, read => by
      rw [List.cons_append, lexFrom_cons, lexStep] at read
      by_cases isQuote : character = '\''
      · rw [if_pos isQuote, Option.bind_some] at read
        obtain ⟨after, later, rfl⟩ := Option.map_eq_some_iff.mp read
        dsimp only at later
        rw [List.cons_append, lexFrom_cons, lexStep] at later
        by_cases isDoubled : next = '\''
        · rw [if_pos isDoubled, Option.bind_some] at later
          obtain ⟨others, rest, rfl⟩ := Option.map_eq_some_iff.mp later
          obtain ⟨literal, tail, isLiteral, most, -⟩ :=
            lexFrom_string_shorter inside (content ++ ['\'']) rest
          rw [List.length_append, List.length_singleton] at most
          refine ⟨literal, tail, isLiteral, ?_, fun _ => ?_⟩
          · rw [List.length_cons, List.length_cons]
            omega
          · rw [List.length_cons, List.length_cons]
            omega
        · rw [if_neg isDoubled, endToken] at later
          obtain ⟨step, started, rest⟩ := Option.bind_eq_some_iff.mp later
          obtain ⟨first, _, rfl⟩ := Option.map_eq_some_iff.mp started
          obtain ⟨others, _, rfl⟩ := Option.map_eq_some_iff.mp rest
          refine ⟨content, _, rfl, ?_, fun _ => ?_⟩
          · exact Nat.le_add_right _ _
          · rw [List.length_cons]
            omega
      · rw [if_neg isQuote, Option.bind_some] at read
        obtain ⟨after, later, rfl⟩ := Option.map_eq_some_iff.mp read
        obtain ⟨literal, tail, isLiteral, most, less⟩ :=
          lexFrom_string_shorter (next :: inside) (content ++ [character]) later
        rw [List.length_append, List.length_singleton] at most less
        refine ⟨literal, tail, isLiteral, ?_, fun member => ?_⟩
        · rw [List.length_cons]
          omega
        · have fewer := less
            ((List.mem_cons.mp member).resolve_left fun equal => isQuote equal.symm)
          rw [List.length_cons]
          omega

/-! ## Numbers -/

theorem startToken_digit {character : Char} (digit : character.isDigit) :
    startToken character = some (.number false [character], []) := by
  have bounds : 48 ≤ character.toNat ∧ character.toNat ≤ 57 := by
    rw [Char.isDigit, Bool.and_eq_true, decide_eq_true_iff, decide_eq_true_iff] at digit
    exact ⟨UInt32.le_iff_toNat_le.mp digit.1, UInt32.le_iff_toNat_le.mp digit.2⟩
  have listed : character ∈ ['0', '1', '2', '3', '4', '5', '6', '7', '8', '9'] := by
    rw [← Char.ofNat_toNat character]
    generalize character.toNat = code at bounds
    obtain ⟨low, high⟩ := bounds
    interval_cases code <;> decide
  simp only [List.mem_cons, List.not_mem_nil, or_false] at listed
  rcases listed with rfl | rfl | rfl | rfl | rfl | rfl | rfl | rfl | rfl | rfl <;> rfl

theorem lexFrom_digits (negative : Bool) (digits : Text) {more : Text}
    (areDigits : ∀ character ∈ more, character.isDigit)
    (few : digits.length + more.length ≤ mostDigits) (text : Text) :
    lexFrom (.number negative digits) (more ++ text) =
      lexFrom (.number negative (digits ++ more)) text := by
  induction more generalizing digits with
  | nil => rw [List.nil_append, List.append_nil]
  | cons character more induction =>
      have digit := areDigits character List.mem_cons_self
      have rest : ∀ other ∈ more, other.isDigit := fun other member =>
        areDigits other (List.mem_cons_of_mem _ member)
      rw [List.length_cons] at few
      have fewer : (digits ++ [character]).length + more.length ≤ mostDigits := by
        rw [List.length_append, List.length_singleton]
        omega
      rw [List.cons_append, lexFrom_cons, lexStep, if_pos digit, if_pos (by omega),
        Option.bind_some]
      dsimp only
      rw [induction _ rest fewer, List.append_assoc, List.singleton_append]
      exact Option.map_id'

theorem lexFrom_number_end (negative : Bool) (digits : Text) {text : Text}
    (boundary : AtBoundary text) :
    lexFrom (.number negative digits) text =
      (lexFrom .between text).map fun tokens =>
        .number (numberValue negative digits) :: tokens := by
  cases text with
  | nil => rfl
  | cons character text =>
      simp only [AtBoundary, Bool.not_eq_true', Bool.or_eq_false_iff] at boundary
      have notDigit : ¬character.isDigit = true := by
        intro digit
        have part : isWordPart character = true := by simp [isWordPart, digit]
        rw [boundary.1] at part
        exact Bool.false_ne_true part
      have ends : lexStep (.number negative digits) character =
          endToken (.number (numberValue negative digits)) character := by
        rw [lexStep, if_neg notDigit, boundary.1, boundary.2]
        rfl
      rw [lexFrom_cons, lexFrom_cons, ends, endToken, lexStep]
      cases startToken character with
      | none => rfl
      | some started =>
          simp only [Option.map_some, Option.bind_some, Option.map_map]
          rfl

/-- The decimal digits of a number, of which the first has been read. -/
theorem lexFrom_toDigits (negative : Bool) {number : Nat} (short : number < 10 ^ mostDigits)
    {text : Text} (boundary : AtBoundary text) :
    ∃ first rest, Nat.toDigits 10 number = first :: rest ∧ first.isDigit ∧
      lexFrom (.number negative [first]) (rest ++ text) =
        (lexFrom .between text).map fun tokens =>
          .number (numberValue negative (Nat.toDigits 10 number)) :: tokens := by
  have areDigits : ∀ character ∈ Nat.toDigits 10 number, character.isDigit :=
    fun character member => Nat.isDigit_of_mem_toDigits (by decide) (by decide) member
  have few := (Nat.length_toDigits_le_iff (by decide) (by decide)).mpr short
  cases written : Nat.toDigits 10 number with
  | nil => exact absurd written Nat.toDigits_ne_nil
  | cons first rest =>
      rw [written] at areDigits few
      rw [List.length_cons, Nat.add_comm] at few
      have restDigits : ∀ character ∈ rest, character.isDigit := fun character member =>
        areDigits character (List.mem_cons_of_mem _ member)
      refine ⟨first, rest, rfl, areDigits first List.mem_cons_self, ?_⟩
      rw [lexFrom_digits negative [first] restDigits few, List.singleton_append,
        lexFrom_number_end negative _ boundary]

theorem lexFrom_natural {number : Nat} (short : number < 10 ^ mostDigits) {text : Text}
    (boundary : AtBoundary text) :
    lexFrom .between (Nat.toDigits 10 number ++ text) =
      (lexFrom .between text).map fun tokens => .number number :: tokens := by
  have value : numberValue false (Nat.toDigits 10 number) = number := by
    rw [numberValue, if_neg Bool.false_ne_true, Nat.ofDigitChars_ten_toDigits]
  obtain ⟨first, rest, written, isDigit, read⟩ := lexFrom_toDigits false short boundary
  rw [value] at read
  rw [written, List.cons_append, lexFrom_cons, lexStep, startToken_digit isDigit,
    Option.bind_some]
  dsimp only
  rw [read]
  exact Option.map_id'

theorem lexFrom_negative {number : Nat} (short : number < 10 ^ mostDigits) {text : Text}
    (boundary : AtBoundary text) :
    lexFrom .between ('-' :: (Nat.toDigits 10 number ++ text)) =
      (lexFrom .between text).map fun tokens => .number (-number) :: tokens := by
  have value : numberValue true (Nat.toDigits 10 number) = -number := by
    rw [numberValue, if_pos rfl, Nat.ofDigitChars_ten_toDigits]
  have sign : startToken '-' = some (.sign, []) := by decide
  obtain ⟨first, rest, written, isDigit, read⟩ := lexFrom_toDigits true short boundary
  rw [value] at read
  have notSign : ¬first = '-' := by
    intro equal
    rw [equal] at isDigit
    exact absurd isDigit (by decide)
  rw [lexFrom_cons, lexStep, sign, Option.bind_some]
  dsimp only
  rw [written, List.cons_append, lexFrom_cons, lexStep, if_neg notSign, if_pos isDigit,
    Option.bind_some]
  dsimp only
  rw [read]
  simp only [List.nil_append, Option.map_id']

end StudyDemo.Sql
