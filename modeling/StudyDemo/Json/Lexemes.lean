import StudyDemo.Json.Progress

/-! # What the tokener reads of printed words, numbers and strings

Runs of the main loop over the texts that `json_object_to_json_string_ext` writes for
values that hold no others. Whatever text follows, the run comes to the character behind
the value with the value in the level at the top of the stack. -/

namespace StudyDemo.Json

open CMemory

variable {doubles : Doubles} {bounded : Bool}

section Steps

variable {tok tok' : Tokener doubles.Double} {obj obj' : Value doubles.Double} {c c' : Byte}
variable {str str' : Text}

theorem Reaches.trans {first second third : Place doubles.Double}
    (before : Reaches bounded first second) (after : Reaches bounded second third) :
    Reaches bounded first third :=
  Relation.ReflTransGen.trans before after

theorem Reaches.redo
    (turned : turn bounded tok obj c str = some (.redo tok' obj' c' str')) :
    Reaches bounded (.redo tok obj c str) (.redo tok' obj' c' str') :=
  Relation.ReflTransGen.single (by rw [step, turned]; rfl)

theorem Reaches.leave {next : Byte}
    (turned : turn bounded tok obj c str = some (.leave tok' c' (next :: str')))
    (notZero : c' ≠ 0) : Reaches bounded (.redo tok obj c str) (.redo tok' obj next str') :=
  Relation.ReflTransGen.single (by
    rw [step, turned]
    simp only [Option.bind_eq_bind, Option.bind_some]
    rw [if_neg notZero])

theorem Reaches.leave_standing {more : Text}
    (turned : turn bounded tok obj c str = some (.leave tok' c' more)) (goesOn : more ≠ [])
    (notZero : c' ≠ 0) : Reaches bounded (.redo tok obj c str) (.standing tok' obj more) := by
  obtain ⟨next, str', rfl⟩ := List.exists_cons_of_ne_nil goesOn
  exact .leave turned notZero

theorem Reaches.standing_leave {characters : Text} {next : Byte} (c' : Byte)
    (turned : ∀ c str, c :: str = characters →
      turn bounded tok obj c str = some (.leave tok' c' (next :: str')))
    (notNil : characters ≠ []) (notZero : c' ≠ 0) :
    Reaches bounded (.standing tok obj characters) (.redo tok' obj next str') := by
  obtain ⟨c, str, rfl⟩ := List.exists_cons_of_ne_nil notNil
  exact .leave (turned c str rfl) notZero

theorem Reaches.out (turned : turn bounded tok obj c str = some (.out tok' c')) :
    Reaches bounded (.redo tok obj c str) (.out tok' c') :=
  Relation.ReflTransGen.single (by rw [step, turned]; rfl)

theorem Reaches.parseLoop {limit : Nat} {place : Place doubles.Double}
    (reaches : Reaches bounded place (.out tok c)) (wellFormed : place.WellFormed limit)
    {fuel : Nat} (enough : place.work ≤ fuel) :
    parseLoop bounded fuel place = some (tok, c) := by
  induction reaches using Relation.ReflTransGen.head_induction_on generalizing fuel with
  | refl => exact parseLoop_out fuel tok c
  | @head place next stepped reaches induction =>
      cases place with
      | out tok' c' =>
          obtain rfl := Option.some.inj stepped
          rw [parseLoop_out, ← induction wellFormed enough, parseLoop_out]
      | redo tok' obj' c' str' =>
          have after := step_wellFormed wellFormed stepped
          have less := after.2 (Nat.succ_pos _)
          cases fuel with
          | zero => exact absurd enough (Nat.not_le_of_lt (Nat.succ_pos _))
          | succ fuel =>
              rw [Json.parseLoop, stepped]
              exact induction after.1 (by omega)

theorem pass_run {kind : Byte → Bool} {passed : Text} (kinds : ∀ x ∈ passed, kind x ∧ x ≠ 0)
    (other : kind c' = false) (isText : c :: str = passed ++ c' :: str') :
    pass bounded kind tok c str = some (passed, .inr (c', str')) := by
  induction passed generalizing c str with
  | nil =>
      obtain ⟨rfl, rfl⟩ := List.cons.inj isText
      exact pass_other other
  | cons first passed induction =>
      obtain ⟨rfl, isStr⟩ := List.cons.inj isText
      obtain ⟨next, rest, isRest⟩ : ∃ next rest, passed ++ c' :: str' = next :: rest :=
        List.exists_cons_of_ne_nil (by simp)
      have isFirst := kinds c List.mem_cons_self
      have later := induction (fun x member => kinds x (List.mem_cons_of_mem c member)) isRest.symm
      rw [isStr, List.append_eq, isRest, pass, if_pos isFirst.1, if_neg isFirst.2, later]
      rfl

theorem eatws_reaches {spaces : Text} (isState : tok.top.state = .eatws)
    (isSpaces : ∀ x ∈ spaces, isSpace x) (notSpace : isSpace c = false)
    (notSlash : c ≠ ascii '/') :
    Reaches bounded (.standing tok obj (spaces ++ c :: str))
      (.redo (tok.setState tok.top.savedState) obj c str) := by
  have turned : ∀ c' str', c' :: str' = spaces ++ c :: str →
      turn bounded tok obj c' str' = some (.redo (tok.setState tok.top.savedState) obj c str) := by
    intro c' str' isText
    have notZero : ∀ x ∈ spaces, isSpace x ∧ x ≠ 0 := by
      intro x member
      refine ⟨isSpaces x member, ?_⟩
      rintro rfl
      exact absurd (isSpaces 0 member) (by decide)
    rw [turn, isState]
    dsimp only
    rw [turnEatws, pass_run notZero notSpace isText]
    exact if_neg notSlash
  obtain ⟨c', str', isText⟩ := List.exists_cons_of_ne_nil
    (show spaces ++ c :: str ≠ [] by simp)
  rw [isText]
  exact .redo (turned c' str' isText.symm)

end Steps

/-- Another tokener above the same levels, with no other error. -/
structure Above (tok tok' : Tokener doubles.Double) : Prop where
  below : tok'.below = tok.below
  maxDepth : tok'.maxDepth = tok.maxDepth
  err : tok'.err = tok.err

theorem Above.trans {first second third : Tokener doubles.Double} (before : Above first second)
    (after : Above second third) : Above first third where
  below := after.below.trans before.below
  maxDepth := after.maxDepth.trans before.maxDepth
  err := after.err.trans before.err

/-- A level that has a value, behind which white space may follow. -/
def Srec.done (value : Value doubles.Double) : Srec doubles.Double where
  state := .eatws
  savedState := .finish
  current := value
  objFieldName := []

/-- The characters bring the top of the stack from one level to another, over any others
that leave room for so many more, and before any character that may follow. -/
def Leads (bounded : Bool) (room : Nat) (follows : Byte → Bool) (first second : Srec doubles.Double)
    (characters : Text) : Prop :=
  ∀ (tok : Tokener doubles.Double) (obj : Value doubles.Double) (c : Byte) (rest : Text),
    tok.top = first → tok.depth + room < tok.maxDepth → follows c →
    ∃ tok' obj', tok'.top = second ∧ Above tok tok' ∧
      Reaches bounded (.standing tok obj (characters ++ c :: rest)) (.redo tok' obj' c rest)

/-! ## Words -/

/-- The level when a value starts. -/
def Srec.starting : Srec doubles.Double := ⟨.start, .start, .null, []⟩

section Words

variable {room : Nat} {follows : Byte → Bool}

theorem leads_null :
    Leads bounded room follows (.starting : Srec doubles.Double) (.done .null)
      (text ['n', 'u', 'l', 'l']) := by
  rintro ⟨pb, maxDepth, isDouble, stPos, err, ucsChar, quoteChar, strict, top, below⟩ obj c rest
    ⟨⟩ - -
  refine ⟨⟨text ['n', 'u', 'l', 'l'] ++ [c], maxDepth, isDouble, 4, err, ucsChar, quoteChar,
    strict, .done .null, below⟩, obj, rfl, ⟨rfl, rfl, rfl⟩, ?_⟩
  exact .trans (.redo rfl) <| .trans (.leave rfl (by decide)) <| .trans (.leave rfl (by decide)) <|
    .trans (.leave rfl (by decide)) <| .trans (.leave rfl (by decide)) <| .redo rfl

theorem leads_true :
    Leads bounded room follows (.starting : Srec doubles.Double) (.done (.boolean true))
      (text ['t', 'r', 'u', 'e']) := by
  rintro ⟨pb, maxDepth, isDouble, stPos, err, ucsChar, quoteChar, strict, top, below⟩ obj c rest
    ⟨⟩ - -
  refine ⟨⟨text ['t', 'r', 'u', 'e'] ++ [c], maxDepth, isDouble, 4, err, ucsChar, quoteChar,
    strict, .done (.boolean true), below⟩, obj, rfl, ⟨rfl, rfl, rfl⟩, ?_⟩
  exact .trans (.redo rfl) <| .trans (.leave rfl (by decide)) <| .trans (.leave rfl (by decide)) <|
    .trans (.leave rfl (by decide)) <| .trans (.leave rfl (by decide)) <| .redo rfl

theorem leads_false :
    Leads bounded room follows (.starting : Srec doubles.Double) (.done (.boolean false))
      (text ['f', 'a', 'l', 's', 'e']) := by
  rintro ⟨pb, maxDepth, isDouble, stPos, err, ucsChar, quoteChar, strict, top, below⟩ obj c rest
    ⟨⟩ - -
  refine ⟨⟨text ['f', 'a', 'l', 's', 'e'] ++ [c], maxDepth, isDouble, 5, err, ucsChar, quoteChar,
    strict, .done (.boolean false), below⟩, obj, rfl, ⟨rfl, rfl, rfl⟩, ?_⟩
  exact .trans (.redo rfl) <| .trans (.leave rfl (by decide)) <| .trans (.leave rfl (by decide)) <|
    .trans (.leave rfl (by decide)) <| .trans (.leave rfl (by decide)) <|
    .trans (.leave rfl (by decide)) <| .redo rfl

end Words

/-! ## Numbers -/

section Numbers

variable {room : Nat}

/-- The value of the characters of a number. -/
def readNumber (doubles : Doubles) (characters : Text) : Option (Value doubles.Double) :=
  if characters.any isDoubleChar then (doubles.scan characters).map .double
  else (jsonParseInt64 characters).map .int

theorem turnStart_number {tok : Tokener doubles.Double} {obj : Value doubles.Double} {c : Byte}
    {str : Text} (starts : isDigit c ∨ c = ascii '-') :
    turnStart tok obj c str =
      .redo { tok.resetBuffer.setState .number with isDouble := false } obj c str := by
  have others : ∀ c : Byte, isDigit c ∨ c = ascii '-' → c ≠ ascii '{' ∧ c ≠ ascii '[' ∧
      ¬(c = ascii 'N' ∨ c = ascii 'n') ∧ ¬(c = ascii '"' ∨ c = ascii '\'') ∧
      ¬(c = ascii 'T' ∨ c = ascii 't' ∨ c = ascii 'F' ∨ c = ascii 'f') := by
    decide
  obtain ⟨brace, bracket, null, quote, boolean⟩ := others c starts
  rw [turnStart, if_neg brace, if_neg bracket, if_neg null, if_neg quote, if_neg boolean,
    if_pos starts]

theorem turnNumber_run {tok : Tokener doubles.Double} {obj value : Value doubles.Double}
    {first c : Byte} {more str : Text} (kinds : ∀ x ∈ first :: more, isNumberChar x ∧ x ≠ 0)
    (other : isNumberChar c = false)
    (isNumber : numberValue (tok.appendNumber (first :: more)) = some value) :
    turnNumber bounded tok obj first (more ++ c :: str) =
      some (.redo (((tok.appendNumber (first :: more)).setCurrent value).eat .finish)
        obj c str) := by
  have passed : pass bounded isNumberChar tok first (more ++ c :: str) =
      some (first :: more, .inr (c, str)) := pass_run kinds other rfl
  rw [turnNumber, passed]
  simp only [Option.bind_eq_bind, Option.bind_some]
  rw [isNumber]

theorem leads_number {first : Byte} {more : Text} {value : Value doubles.Double}
    (starts : isDigit first ∨ first = ascii '-') (chars : ∀ x ∈ first :: more, isNumberChar x)
    (isValue : readNumber doubles (first :: more) = some value) :
    Leads bounded room (fun c => !isNumberChar c) .starting (.done value) (first :: more) := by
  intro tok obj c rest top _ follow
  have kinds : ∀ x ∈ first :: more, isNumberChar x ∧ x ≠ 0 := by
    intro x member
    refine ⟨chars x member, ?_⟩
    rintro rfl
    exact absurd (chars 0 member) (by decide)
  have started : turn bounded tok obj first (more ++ c :: rest) =
      some (.redo { tok.resetBuffer.setState .number with isDouble := false } obj first
        (more ++ c :: rest)) := by
    rw [turn, top]
    exact congrArg some (turnStart_number starts)
  refine ⟨_, obj, ?_, ?_, (Reaches.redo started).trans (Reaches.redo
    (turnNumber_run kinds (by simpa using follow) isValue))⟩
  · simp [Tokener.eat, Tokener.setCurrent, Tokener.appendNumber, Tokener.append, Tokener.setState,
      Tokener.resetBuffer, top, Srec.done, Srec.starting]
  · exact ⟨rfl, rfl, rfl⟩

theorem digit_cases {character : Char} (isDigit : character.isDigit) :
    48 ≤ character.toNat ∧ character.toNat ≤ 57 := by
  simp only [Char.isDigit, Bool.and_eq_true, decide_eq_true_eq] at isDigit
  exact ⟨isDigit.1, isDigit.2⟩

theorem isDigit_ascii {character : Char} (digit : character.isDigit) :
    isDigit (ascii character) = true := by
  have range := digit_cases digit
  simp only [isDigit, ascii, Bool.and_eq_true, decide_eq_true_eq, BitVec.le_def,
    BitVec.toNat_ofNat]
  have zero : '0'.toNat = 48 := rfl
  have nine : '9'.toNat = 57 := rfl
  omega

theorem ofNat_ascii {character : Char} (digit : character.isDigit) :
    Char.ofNat (ascii character).toNat = character := by
  have range := digit_cases digit
  have small : (ascii character).toNat = character.toNat := by
    simp only [ascii, BitVec.toNat_ofNat]
    omega
  rw [small, Char.ofNat_toNat]

theorem digitsValue_toDigits (number : Nat) :
    digitsValue (text (Nat.toDigits 10 number)) = number := by
  have same : (text (Nat.toDigits 10 number)).map (fun c => Char.ofNat c.toNat) =
      Nat.toDigits 10 number := by
    rw [text, List.map_map]
    refine (List.map_congr_left fun character member => ?_).trans (List.map_id _)
    exact ofNat_ascii (Nat.isDigit_of_mem_toDigits (by decide) (by decide) member)
  rw [digitsValue, same, Nat.ofDigitChars_ten_toDigits]

theorem isDigit_of_mem {number : Nat} {c : Byte} (member : c ∈ text (Nat.toDigits 10 number)) :
    isDigit c = true := by
  obtain ⟨character, isCharacter, rfl⟩ := List.mem_map.mp member
  exact isDigit_ascii (Nat.isDigit_of_mem_toDigits (by decide) (by decide) isCharacter)

theorem digit_first : ∀ c : Byte, isDigit c → isSpace c = false ∧ c ≠ ascii '-' ∧ c ≠ ascii '+' ∧
    isNumberChar c ∧ isDoubleChar c = false := by
  decide

theorem minus_first : isSpace (ascii '-') = false ∧ isDigit (ascii '-') = false := by
  decide

theorem toDigits_cons (number : Nat) :
    ∃ first more, text (Nat.toDigits 10 number) = first :: more ∧ isDigit first := by
  have notNil : text (Nat.toDigits 10 number) ≠ [] :=
    List.map_eq_nil_iff.not.mpr Nat.toDigits_ne_nil
  obtain ⟨first, more, isText⟩ := List.exists_cons_of_ne_nil notNil
  exact ⟨first, more, isText, isDigit_of_mem (isText ▸ List.mem_cons_self)⟩

theorem takeWhile_digits (number : Nat) :
    (text (Nat.toDigits 10 number)).takeWhile isDigit = text (Nat.toDigits 10 number) :=
  List.takeWhile_eq_self_iff.mpr fun _ member => isDigit_of_mem member

theorem jsonParseInt64_digits (number : Nat) :
    jsonParseInt64 (text (Nat.toDigits 10 number)) =
      some (BitVec.ofInt 64 (min int64Max number)) := by
  have taken := takeWhile_digits number
  have value := digitsValue_toDigits number
  obtain ⟨first, more, isText, digit⟩ := toDigits_cons number
  have kind := digit_first first digit
  rw [isText] at taken value ⊢
  have notMinus : ¬(first :: more).head? = some (ascii '-') :=
    fun same => kind.2.1 (Option.some.inj same)
  have notPlus : ¬(first :: more).head? = some (ascii '+') :=
    fun same => kind.2.2.1 (Option.some.inj same)
  simp only [jsonParseInt64, List.dropWhile_cons, kind.1, Bool.false_eq_true, if_false]
  rw [if_neg (not_or.mpr ⟨notMinus, notPlus⟩), taken, value, if_neg (List.cons_ne_nil _ _),
    if_neg notMinus]

theorem jsonParseInt64_minus (number : Nat) :
    jsonParseInt64 (ascii '-' :: text (Nat.toDigits 10 number)) =
      some (BitVec.ofInt 64 (max int64Min (-(number : Int)))) := by
  have taken := takeWhile_digits number
  have value := digitsValue_toDigits number
  obtain ⟨first, more, isText, digit⟩ := toDigits_cons number
  rw [isText] at taken value ⊢
  have isMinus : (ascii '-' :: first :: more).head? = some (ascii '-') := rfl
  simp only [jsonParseInt64, List.dropWhile_cons, minus_first.1, Bool.false_eq_true, if_false]
  rw [if_pos (Or.inl isMinus), List.tail_cons, taken, value, if_neg (List.cons_ne_nil _ _),
    if_pos isMinus]

theorem jsonParseInt64_decimal (value : BitVec 64) : jsonParseInt64 (decimal value) =
    some value := by
  have low := BitVec.le_toInt value
  have high := BitVec.toInt_lt (x := value)
  rw [decimal]
  split_ifs with negative
  · rw [jsonParseInt64_minus]
    have same : max int64Min (-(value.toInt.natAbs : Int)) = value.toInt := by
      simp only [int64Min]
      omega
    rw [same, BitVec.ofInt_toInt]
  · rw [jsonParseInt64_digits]
    have same : min int64Max (value.toInt.natAbs : Int) = value.toInt := by
      simp only [int64Max]
      omega
    rw [same, BitVec.ofInt_toInt]

theorem decimal_cons (value : BitVec 64) :
    ∃ first more, decimal value = first :: more ∧ (isDigit first ∨ first = ascii '-') ∧
      ∀ x ∈ first :: more, isNumberChar x ∧ isDoubleChar x = false := by
  have digits : ∀ number, ∀ x ∈ text (Nat.toDigits 10 number),
      isNumberChar x ∧ isDoubleChar x = false := by
    intro number x member
    have kind := digit_first x (isDigit_of_mem member)
    exact ⟨kind.2.2.2.1, kind.2.2.2.2⟩
  rw [decimal]
  split_ifs with negative
  · refine ⟨_, _, rfl, Or.inr rfl, fun x member => ?_⟩
    rcases List.mem_cons.mp member with rfl | member
    · decide
    · exact digits _ x member
  · obtain ⟨first, more, isText, digit⟩ := toDigits_cons value.toInt.natAbs
    rw [isText]
    exact ⟨first, more, rfl, Or.inl digit, isText ▸ digits _⟩

theorem leads_int (value : BitVec 64) :
    Leads bounded room (fun c => !isNumberChar c) (.starting : Srec doubles.Double)
      (.done (.int value)) (decimal value) := by
  obtain ⟨first, more, isText, starts, chars⟩ := decimal_cons value
  have parsed := jsonParseInt64_decimal value
  have noDouble : (first :: more).any isDoubleChar = false :=
    List.any_eq_false.mpr fun x member => by simp [(chars x member).2]
  rw [isText] at parsed ⊢
  refine leads_number starts (fun x member => (chars x member).1) ?_
  rw [readNumber, noDouble, parsed]
  rfl

end Numbers

/-! ## Strings and names -/

section Strings

variable {tok : Tokener doubles.Double} {obj : Value doubles.Double} {c : Byte} {str : Text}

theorem hex_digits : ∀ c : Byte, c < 0x20 →
    let first := jsonHexChars.getD (c >>> 4).toNat 0
    let second := jsonHexChars.getD (c &&& 0xf).toNat 0
    inHexChars first ∧ inHexChars second ∧ first ≠ 0 ∧ second ≠ 0 ∧
      hexDigit first <<< 4 + hexDigit second < (0x80 : BitVec 32) ∧
      byte (hexDigit first <<< 4 + hexDigit second) = c := by
  decide

theorem escapeChar_cases {escaped : Text} (isEscaped : escapeChar c = some escaped) :
    (∃ x, escaped = [ascii '\\', x] ∧ x ≠ 0 ∧
      ∀ (tok : Tokener doubles.Double) str, turnStringEscape tok x str =
        .leave ((tok.append [c]).setState tok.top.savedState) x str) ∨
    c < 0x20 ∧ escaped = text ['\\', 'u', '0', '0'] ++
      [jsonHexChars.getD (c >>> 4).toNat 0, jsonHexChars.getD (c &&& 0xf).toNat 0] := by
  rw [escapeChar] at isEscaped
  split_ifs at isEscaped with b n r t f quote backslash slash control <;>
    obtain rfl := Option.some.inj isEscaped
  · exact Or.inl ⟨ascii 'b', rfl, by decide, fun _ _ => by rw [b]; rfl⟩
  · exact Or.inl ⟨ascii 'n', rfl, by decide, fun _ _ => by rw [n]; rfl⟩
  · exact Or.inl ⟨ascii 'r', rfl, by decide, fun _ _ => by rw [r]; rfl⟩
  · exact Or.inl ⟨ascii 't', rfl, by decide, fun _ _ => by rw [t]; rfl⟩
  · exact Or.inl ⟨ascii 'f', rfl, by decide, fun _ _ => by rw [f]; rfl⟩
  · exact Or.inl ⟨ascii '"', rfl, by decide, fun _ _ => by rw [quote]; rfl⟩
  · exact Or.inl ⟨ascii '\\', rfl, by decide, fun _ _ => by rw [backslash]; rfl⟩
  · exact Or.inl ⟨ascii '/', rfl, by decide, fun _ _ => by rw [slash]; rfl⟩
  · exact Or.inr ⟨control, rfl⟩

theorem turnEscapeUnicode_more {hi : Option (BitVec 32)} {next : Byte} (isHex : inHexChars c)
    (notZero : c ≠ 0) (notLast : tok.stPos + 1 ≠ 4) :
    turnEscapeUnicode bounded tok hi c (next :: str) =
      turnEscapeUnicode bounded (tok.addDigit c) hi next str := by
  have isMore : digit bounded tok hi c (next :: str) = some (.more (tok.addDigit c)) := by
    unfold digit
    rw [if_pos isHex]
    exact if_neg notLast
  rw [turnEscapeUnicode, isMore]
  exact if_neg notZero

theorem turnEscapeUnicode_last (isHex : inHexChars c) (isLast : tok.stPos + 1 = 4)
    (small : (tok.addDigit c).ucsChar < 0x80) :
    turnEscapeUnicode bounded tok none c str =
      some (.leave (((tok.addDigit c).append [byte (tok.addDigit c).ucsChar]).setState
        tok.top.savedState) c str) := by
  have notHigh : ¬(0x800 ≤ (tok.addDigit c).ucsChar ∧
      isHighSurrogate (tok.addDigit c).ucsChar) := by
    rintro ⟨high, -⟩
    bv_omega
  have isTurn : digit bounded tok none c str =
      some (.turn (.leave (((tok.addDigit c).append
      (unescapedUtf (tok.addDigit c).ucsChar)).setState
        tok.top.savedState) c str)) := by
    unfold digit
    rw [if_pos isHex]
    exact (if_pos isLast).trans (if_neg notHigh)
  have bytes : unescapedUtf (tok.addDigit c).ucsChar = [byte (tok.addDigit c).ucsChar] :=
    if_pos small
  rw [turnEscapeUnicode, isTurn, bytes]

theorem turnEscapeUnicode_control (control : c < 0x20) (isTok : tok.stPos = 0 ∧ tok.ucsChar = 0) :
    ∃ tok' : Tokener doubles.Double, tok'.pb = tok.pb ++ [c] ∧
      tok'.quoteChar = tok.quoteChar ∧ tok'.top = { tok.top with state := tok.top.savedState } ∧
      Above tok tok' ∧
      turnEscapeUnicode bounded tok none (ascii '0') (ascii '0' ::
        jsonHexChars.getD (c >>> 4).toNat 0 :: jsonHexChars.getD (c &&& 0xf).toNat 0 :: str) =
        some (.leave tok' (jsonHexChars.getD (c &&& 0xf).toNat 0) str) := by
  obtain ⟨isHex, isHex', notZero, notZero', small, isByte⟩ := hex_digits c control
  have zero : hexDigit (ascii '0') = 0 := by decide
  generalize jsonHexChars.getD (c >>> 4).toNat 0 = first at *
  generalize jsonHexChars.getD (c &&& 0xf).toNat 0 = second at *
  let tok' := (((tok.addDigit (ascii '0')).addDigit (ascii '0')).addDigit first)
  have value : (tok'.addDigit second).ucsChar = hexDigit first <<< 4 + hexDigit second := by
    simp [tok', Tokener.addDigit, isTok.1, isTok.2, zero]
  have last : turnEscapeUnicode bounded tok' none second str = _ :=
    turnEscapeUnicode_last isHex' (by simp [tok', Tokener.addDigit, isTok.1])
      (by rw [value]; exact small)
  rw [value, isByte] at last
  refine ⟨((tok'.addDigit second).append [c]).setState tok.top.savedState, rfl, rfl, rfl,
      ⟨rfl, rfl, rfl⟩, ?_⟩
  rw [turnEscapeUnicode_more (by decide) (by decide) (by rw [isTok.1]; decide),
    turnEscapeUnicode_more (by decide) (by decide) (by simp [Tokener.addDigit, isTok.1]),
    turnEscapeUnicode_more isHex notZero (by simp [Tokener.addDigit, isTok.1])]
  exact last

/-- The same level in a string or a name, with more characters read. -/
structure ReadOn (state : TokenerState) (tok tok' : Tokener doubles.Double) (characters : Text) :
    Prop where
  pb : tok'.pb = tok.pb ++ characters
  quoteChar : tok'.quoteChar = tok.quoteChar
  state : tok'.top.state = state
  saved : tok.top.savedState ≠ .finish → tok'.top.savedState ≠ .finish
  current : tok'.top.current = tok.top.current
  name : tok'.top.objFieldName = tok.top.objFieldName
  above : Above tok tok'

theorem escape_reaches (tok : Tokener doubles.Double) (obj : Value doubles.Double) (next : Byte)
    (str : Text) {state : TokenerState} {escaped : Text} (isEscaped : escapeChar c = some escaped)
    (isState : tok.top.state = .stringEscape)
    (saved : tok.top.savedState = state) :
    ∃ tok', ReadOn state tok tok' [c] ∧
      Reaches bounded (.standing tok obj (escaped.tail ++ next :: str))
      (.redo tok' obj next str) := by
  rcases escapeChar_cases isEscaped with ⟨x, rfl, notZero, turned⟩ | ⟨control, rfl⟩
  · refine ⟨(tok.append [c]).setState tok.top.savedState,
        ⟨rfl, rfl, saved, id, rfl, rfl, ⟨rfl, rfl, rfl⟩⟩, .leave ?_ notZero⟩
    rw [turn, isState]
    exact congrArg some (turned tok _)
  · obtain ⟨-, -, -, notZero, -⟩ := hex_digits c control
    let first : Tokener doubles.Double :=
      { tok.setState .escapeUnicode with ucsChar := 0, stPos := 0 }
    obtain ⟨tok', pb, quoteChar, top, above, turned⟩ :
        ∃ tok' : Tokener doubles.Double, tok'.pb = first.pb ++ [c] ∧
          tok'.quoteChar = first.quoteChar ∧
          tok'.top = { first.top with state := first.top.savedState } ∧ Above first tok' ∧
          turn bounded first obj (ascii '0') (ascii '0' :: jsonHexChars.getD (c >>> 4).toNat 0 ::
            jsonHexChars.getD (c &&& 0xf).toNat 0 :: next :: str) =
            some (.leave tok' (jsonHexChars.getD (c &&& 0xf).toNat 0) (next :: str)) :=
      turnEscapeUnicode_control control ⟨rfl, rfl⟩
    have started : turn bounded tok obj (ascii 'u') (ascii '0' :: ascii '0' ::
        jsonHexChars.getD (c >>> 4).toNat 0 ::
          jsonHexChars.getD (c &&& 0xf).toNat 0 :: next :: str) =
        some (.leave first (ascii 'u') (ascii '0' :: ascii '0' ::
          jsonHexChars.getD (c >>> 4).toNat 0 ::
            jsonHexChars.getD (c &&& 0xf).toNat 0 :: next :: str)) := by
      rw [turn, isState]
      rfl
    refine ⟨tok', ⟨pb, quoteChar, ?_, ?_, ?_, ?_, ⟨above.below, above.maxDepth, above.err⟩⟩, ?_⟩
    · rw [top]
      exact saved
    · rw [top]
      exact id
    · rw [top]
      rfl
    · rw [top]
      rfl
    · exact (Reaches.leave started (by decide)).trans (.leave turned notZero)

/-- Characters that a string writes as they are. -/
def Plain (characters : Text) : Prop := ∀ x ∈ characters, escapeChar x = none

theorem plain_nil : Plain [] := List.forall_mem_nil _

theorem plain_kinds {characters : Text} (plain : Plain characters)
    (isQuote : tok.quoteChar = ascii '"') :
    ∀ x ∈ characters, (decide (x ≠ tok.quoteChar) && decide (x ≠ ascii '\\')) ∧ x ≠ 0 := by
  have others : ∀ x : Byte, escapeChar x = none →
      (decide (x ≠ ascii '"') && decide (x ≠ ascii '\\')) ∧ x ≠ 0 := by
    decide
  rw [isQuote]
  exact fun x member => others x (plain x member)

theorem backslash_reaches {state : TokenerState} (isString : state = .string ∨ state = .objectField)
    (isState : tok.top.state = state) (isQuote : tok.quoteChar = ascii '"') {plain more : Text}
    (isPlain : Plain plain) (goesOn : more ≠ []) :
    Reaches bounded (.standing tok obj (plain ++ ascii '\\' :: more))
      (.standing (((tok.append plain).eat state).setState .stringEscape) obj more) := by
  have kinds := plain_kinds isPlain isQuote
  have notQuote : ascii '\\' ≠ tok.quoteChar := by rw [isQuote]; decide
  obtain ⟨next, str, rfl⟩ := List.exists_cons_of_ne_nil goesOn
  refine .standing_leave (ascii '\\') (fun c' str' isText => ?_) (by simp) (by decide)
  rw [turn, isState]
  rcases isString with rfl | rfl
  · dsimp only
    rw [turnString, pass_run kinds (by simp) isText]
    exact if_neg notQuote
  · dsimp only
    rw [turnObjectField, pass_run kinds (by simp) isText]
    exact if_neg notQuote

theorem escaped_cons {escaped : Text} (isEscaped : escapeChar c = some escaped) :
    escaped = ascii '\\' :: escaped.tail := by
  rw [escapeChar] at isEscaped
  split_ifs at isEscaped <;> obtain rfl := Option.some.inj isEscaped <;> rfl

theorem escapeLoop_reaches (tok : Tokener doubles.Double) (obj : Value doubles.Double)
    (str : Text) {state : TokenerState} (isString : state = .string ∨ state = .objectField)
    (characters : Text) {plain : Text} (isState : tok.top.state = state)
    (isQuote : tok.quoteChar = ascii '"')
    (isPlain : Plain plain) :
    ∃ tok' read left, ReadOn state tok tok' read ∧ Plain left ∧
      read ++ left = plain ++ characters ∧
      Reaches bounded (.standing tok obj (escapeLoop plain characters ++ ascii '"' :: str))
        (.standing tok' obj (left ++ ascii '"' :: str)) := by
  induction characters generalizing tok plain with
  | nil =>
      refine ⟨tok, [], plain, ⟨(List.append_nil _).symm, rfl, isState, id, rfl, rfl,
          ⟨rfl, rfl, rfl⟩⟩, isPlain,
        ?_, ?_⟩
      · rw [List.nil_append, List.append_nil]
      · rw [escapeLoop]
        exact Relation.ReflTransGen.refl
  | cons c characters induction =>
      cases isEscaped : escapeChar c with
      | none =>
          have longer : Plain (plain ++ [c]) := by
            intro x member
            rcases List.mem_append.mp member with member | member
            · exact isPlain x member
            · rw [List.mem_singleton.mp member, isEscaped]
          obtain ⟨tok', read, left, readOn, isLeft, all, reaches⟩ :=
            induction tok isState isQuote longer
          refine ⟨tok', read, left, readOn, isLeft, ?_, ?_⟩
          · rw [all, List.append_assoc]
            rfl
          · rw [escapeLoop, isEscaped]
            exact reaches
      | some escaped =>
          obtain ⟨next, rest, isRest⟩ : ∃ next rest,
              escapeLoop [] characters ++ ascii '"' :: str = next :: rest :=
            List.exists_cons_of_ne_nil (by simp)
          obtain ⟨tok', first, reaches⟩ := escape_reaches
            (((tok.append plain).eat state).setState .stringEscape) obj next rest isEscaped rfl rfl
          obtain ⟨tok'', read, left, readOn, isLeft, all, reaches'⟩ := induction tok'
            first.state (first.quoteChar.trans isQuote) plain_nil
          have notFinish : state ≠ .finish := by
            rcases isString with rfl | rfl <;> decide
          refine ⟨tok'', plain ++ c :: read, left, ?_, isLeft, ?_, ?_⟩
          · have pb : tok''.pb = tok.pb ++ (plain ++ c :: read) := by
              rw [readOn.pb, first.pb]
              simp [Tokener.append, Tokener.eat, Tokener.setState]
            exact ⟨pb, readOn.quoteChar.trans first.quoteChar, readOn.state,
              fun _ => readOn.saved (first.saved notFinish),
              readOn.current.trans first.current, readOn.name.trans first.name,
              Above.trans ⟨first.above.below, first.above.maxDepth, first.above.err⟩ readOn.above⟩
          · rw [List.append_assoc, List.cons_append, all]
            rfl
          · have isText : escapeLoop plain (c :: characters) ++ ascii '"' :: str =
                plain ++ ascii '\\' :: (escaped.tail ++ next :: rest) := by
              rw [escapeLoop, isEscaped]
              dsimp only
              rw [List.append_assoc, isRest, List.append_assoc]
              exact congrArg (fun escaped => plain ++ (escaped ++ next :: rest))
                (escaped_cons isEscaped)
            rw [isText]
            rw [isRest] at reaches'
            exact ((backslash_reaches isString isState isQuote isPlain (by simp)).trans
              reaches).trans reaches'

theorem escaped_cons_rest (characters str : Text) :
    ∃ next rest, jsonEscapeStr characters ++ ascii '"' :: str = next :: rest :=
  List.exists_cons_of_ne_nil (by simp)

theorem leads_string {room : Nat} {follows : Byte → Bool} (characters : Text) :
    Leads bounded room follows (.starting : Srec doubles.Double) (.done (.string characters))
      (ascii '"' :: (jsonEscapeStr characters ++ [ascii '"'])) := by
  intro tok obj c rest top _ _
  let first : Tokener doubles.Double :=
    { tok.resetBuffer.setState .string with quoteChar := ascii '"' }
  obtain ⟨next, str, isText⟩ := escaped_cons_rest characters (c :: rest)
  have opened : Reaches bounded (.redo tok obj (ascii '"') (next :: str))
      (.redo first obj next str) := by
    refine .leave ?_ (show ascii '"' ≠ 0 by decide)
    rw [turn, top]
    rfl
  obtain ⟨tok', read, left, readOn, isLeft, all, reaches⟩ := escapeLoop_reaches first obj
    (c :: rest) (Or.inl rfl) characters rfl rfl plain_nil
  have isQuote : tok'.quoteChar = ascii '"' := readOn.quoteChar
  have closed : Reaches bounded (.standing tok' obj (left ++ ascii '"' :: c :: rest))
      (.redo (((tok'.append left).setCurrent (.string (tok'.append left).pb)).eat .finish) obj c
        rest) := by
    refine .standing_leave (ascii '"') (fun c' str' same => ?_) (by simp) (by decide)
    rw [turn, readOn.state]
    dsimp only
    rw [turnString, pass_run (plain_kinds isLeft isQuote) (by simp [isQuote]) same]
    exact if_pos isQuote.symm
  refine ⟨((tok'.append left).setCurrent (.string (tok'.append left).pb)).eat .finish, obj, ?_,
    ⟨readOn.above.below, readOn.above.maxDepth, readOn.above.err⟩, ?_⟩
  rotate_left
  · have same : (ascii '"' :: (jsonEscapeStr characters ++ [ascii '"'])) ++ c :: rest =
        ascii '"' :: next :: str := by
      rw [← isText, List.cons_append, List.append_assoc]
      rfl
    rw [same]
    refine opened.trans (Reaches.trans ?_ closed)
    rw [← jsonEscapeStr, isText] at reaches
    exact reaches
  · have isName : tok'.top.objFieldName = [] := by
      rw [readOn.name]
      simp [first, Tokener.setState, Tokener.resetBuffer, top, Srec.starting]
    have isString : tok'.pb ++ left = characters := by
      rw [readOn.pb, List.append_assoc, all]
      rfl
    simp [Tokener.eat, Tokener.setCurrent, Tokener.append, isName, isString, Srec.done]

theorem takeWhile_noZero {characters : Text} (noZero : 0 ∉ characters) :
    characters.takeWhile (· ≠ 0) = characters := by
  rw [List.takeWhile_eq_self_iff]
  intro x member
  rw [decide_eq_true_eq]
  exact fun zero => noZero (zero ▸ member)

theorem leads_name (room : Nat) (follows : Byte → Bool) {state : TokenerState}
    (starts : state = .objectFieldStart ∨ state = .objectFieldStartAfterSep)
    (current : Value doubles.Double) {key : Text} (noZero : 0 ∉ key) :
    Leads bounded room follows ⟨state, state, current, []⟩ ⟨.eatws, .objectFieldEnd, current, key⟩
      (ascii '"' :: (jsonEscapeStr key ++ [ascii '"'])) := by
  intro tok obj c rest top _ _
  let first : Tokener doubles.Double :=
    ({ tok with quoteChar := ascii '"' } : Tokener doubles.Double).resetBuffer.setState .objectField
  obtain ⟨next, str, isText⟩ := escaped_cons_rest key (c :: rest)
  have opened : Reaches bounded (.redo tok obj (ascii '"') (next :: str))
      (.redo first obj next str) := by
    refine .leave ?_ (show ascii '"' ≠ 0 by decide)
    rw [turn, top]
    rcases starts with rfl | rfl <;> rfl
  obtain ⟨tok', read, left, readOn, isLeft, all, reaches⟩ := escapeLoop_reaches first obj
    (c :: rest) (Or.inr rfl) key rfl rfl plain_nil
  have isQuote : tok'.quoteChar = ascii '"' := readOn.quoteChar
  have isKey : tok'.pb ++ left = key := by
    rw [readOn.pb, List.append_assoc, all]
    rfl
  have named : (tok'.pb ++ left).takeWhile (· ≠ 0) = key := by
    rw [isKey, takeWhile_noZero noZero]
  let named' : Tokener doubles.Double :=
    { tok'.append left with top := { tok'.top with objFieldName := key } }
  have closed : Reaches bounded (.standing tok' obj (left ++ ascii '"' :: c :: rest))
      (.redo (named'.eat .objectFieldEnd) obj c rest) := by
    refine .standing_leave (ascii '"') (fun c' str' same => ?_) (by simp) (by decide)
    rw [turn, readOn.state]
    dsimp only
    rw [turnObjectField, pass_run (plain_kinds isLeft isQuote) (by simp [isQuote]) same]
    refine (if_pos isQuote.symm).trans ?_
    simp only [Tokener.append, named]
    rfl
  refine ⟨named'.eat .objectFieldEnd, obj, ?_,
    ⟨readOn.above.below, readOn.above.maxDepth, readOn.above.err⟩, ?_⟩
  rotate_left
  · have same : (ascii '"' :: (jsonEscapeStr key ++ [ascii '"'])) ++ c :: rest =
        ascii '"' :: next :: str := by
      rw [← isText, List.cons_append, List.append_assoc]
      rfl
    rw [same]
    refine opened.trans (Reaches.trans ?_ closed)
    rw [← jsonEscapeStr, isText] at reaches
    exact reaches
  · have isCurrent : tok'.top.current = current := by
      rw [readOn.current]
      simp [first, Tokener.setState, Tokener.resetBuffer, top]
    simp [named', Tokener.eat, isCurrent]

end Strings

end StudyDemo.Json
