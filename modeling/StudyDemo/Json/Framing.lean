import StudyDemo.Foundation.PrefixCodes
import StudyDemo.Json.RoundTrip

/-! # Parts of printed texts are refused

A text that the library prints for a string, an array or an object ends itself: no part of
it from the start on is a text that the tokener accepts. A message that arrives in pieces is
not taken for a shorter one, and messages that arrive together can be told apart. -/

namespace StudyDemo.Json

open CMemory

variable {doubles : Doubles} {flags : ToStringFlags}

/-- The run comes to an error. -/
def Fails (place : Place doubles.Double) : Prop :=
  ∃ tok c, Reaches true place (.out tok c) ∧ (parseOut tok c).1.err ≠ .success

/-- The run over every part of the characters, up to a zero behind it, comes to an error. -/
def Refused (tok : Tokener doubles.Double) (obj : Value doubles.Double) (characters : Text) :
    Prop :=
  ∀ part, part <+: characters → Fails (.standing tok obj (part ++ [0]))

theorem prefix_cases {part first second : Text} (isPart : part <+: first ++ second) :
    (part <+: first ∧ part ≠ first) ∨ ∃ rest, part = first ++ rest ∧ rest <+: second := by
  obtain ⟨left, whole⟩ := isPart
  rcases List.append_eq_append_iff.mp whole with ⟨more, isFirst, isLeft⟩ | ⟨more, isPart, isSecond⟩
  · cases more with
    | nil => exact Or.inr ⟨[], by simpa using isFirst.symm, List.nil_prefix⟩
    | cons x more =>
        refine Or.inl ⟨⟨x :: more, isFirst.symm⟩, fun same => ?_⟩
        simp [same] at isFirst
  · exact Or.inr ⟨more, isPart, ⟨left, isSecond.symm⟩⟩

section Failing

variable {tok tok' : Tokener doubles.Double} {obj : Value doubles.Double} {c c' : Byte} {str : Text}

theorem Fails.after {first second : Place doubles.Double} (fails : Fails second)
    (reaches : Reaches true first second) : Fails first := by
  obtain ⟨tok, c, ends, failed⟩ := fails
  exact ⟨tok, c, reaches.trans ends, failed⟩

theorem parseOut_failed {err : TokenerError} (failed : err ≠ .success) :
    (parseOut (tok.fail err) c).1.err ≠ .success := by
  unfold parseOut
  dsimp only
  split_ifs with eof success success
  · cases success
  · exact (show TokenerError.parseEof ≠ .success by decide)
  · exact absurd success failed
  · exact failed

theorem Fails.out {err : TokenerError} (failed : err ≠ .success)
    (turned : turn true tok obj c str = some (.out (tok'.fail err) c')) :
    Fails (.redo tok obj c str) :=
  ⟨tok'.fail err, c', .out turned, parseOut_failed failed⟩

theorem Fails.error (err : TokenerError) (failed : err ≠ .success)
    (turned : turn true tok obj c str = some (.out (tok.fail err) c)) :
    Fails (.redo tok obj c str) :=
  .out failed turned

theorem Fails.unfinished (unfinished : tok'.Unfinished)
    (turned : turn true tok obj c str = some (.out tok' 0)) : Fails (.redo tok obj c str) := by
  refine ⟨tok', 0, .out turned, ?_⟩
  rw [(parseOut_unfinished unfinished).1]
  decide

theorem Fails.left {str' : Text} (unfinished : tok'.Unfinished)
    (turned : turn true tok obj c str = some (.leave tok' 0 str')) :
    Fails (.redo tok obj c str) := by
  refine ⟨tok', 0, Relation.ReflTransGen.single ?_, ?_⟩
  · rw [step, turned]
    rfl
  · rw [(parseOut_unfinished unfinished).1]
    decide

end Failing

/-! ## Refusing one text behind another -/

section Refusing

variable {tok : Tokener doubles.Double} {obj : Value doubles.Double} {c : Byte}

theorem Refused.zero {characters : Text} (refused : Refused tok obj characters) :
    Fails (.redo tok obj 0 []) :=
  refused [] List.nil_prefix

theorem refused_nil (zero : Fails (.redo tok obj 0 [])) : Refused tok obj [] := by
  intro part isPart
  rw [List.prefix_nil.mp isPart]
  exact zero

theorem Refused.append (kind : Byte → Prop) {first second : Text}
    (next : Tokener doubles.Double → Value doubles.Double → Prop)
    (cut : ∀ part, part <+: first → part ≠ first → Fails (.standing tok obj (part ++ [0])))
    (reads : ∀ c str, kind c → ∃ tok' obj', next tok' obj' ∧
      Reaches true (.standing tok obj (first ++ c :: str)) (.redo tok' obj' c str))
    (zero : kind 0) (follows : ∀ x ∈ second.head?, kind x)
    (after : ∀ tok' obj', next tok' obj' → Refused tok' obj' second) :
    Refused tok obj (first ++ second) := by
  intro part isPart
  rcases prefix_cases isPart with ⟨isCut, notAll⟩ | ⟨rest, rfl, isRest⟩
  · exact cut part isCut notAll
  · obtain ⟨c, str, isText, isKind⟩ : ∃ c str, rest ++ [0] = c :: str ∧ kind c := by
      cases rest with
      | nil => exact ⟨0, [], rfl, zero⟩
      | cons c rest =>
          obtain ⟨left, rfl⟩ := isRest
          exact ⟨c, rest ++ [0], rfl, follows c rfl⟩
    obtain ⟨tok', obj', isNext, reaches⟩ := reads c str isKind
    have fails := after tok' obj' isNext rest isRest
    rw [isText] at fails
    rw [List.append_assoc, isText]
    exact fails.after reaches

theorem Refused.cut {body part : Text} (refused : Refused tok obj body) (last : Byte)
    (isPart : part <+: body ++ [last]) (notAll : part ≠ body ++ [last]) :
    Fails (.standing tok obj (part ++ [0])) := by
  rcases List.prefix_concat_iff.mp isPart with all | isCut
  · exact absurd all notAll
  · exact refused part isCut

theorem Refused.moved (kind : Byte → Prop) {characters : Text}
    (next : Tokener doubles.Double → Value doubles.Double → Prop)
    (moves : ∀ c str, kind c → ∃ tok' obj', next tok' obj' ∧
      Reaches true (.redo tok obj c str) (.redo tok' obj' c str))
    (zero : kind 0) (starts : ∀ x ∈ characters.head?, kind x)
    (after : ∀ tok' obj', next tok' obj' → Refused tok' obj' characters) :
    Refused tok obj characters :=
  .append kind next (fun _ isPart notAll => absurd (List.prefix_nil.mp isPart) notAll) moves zero
  starts
    after

theorem Refused.passed {characters : Text} {tok' : Tokener doubles.Double}
    (zero : Fails (.redo tok obj 0 [])) (notZero : c ≠ 0)
    (leaves : ∀ str, turn true tok obj c str = some (.leave tok' c str))
    (after : Refused tok' obj characters) : Refused tok obj (c :: characters) := by
  intro part isPart
  cases part with
  | nil => exact zero
  | cons first part =>
      obtain ⟨rfl, isRest⟩ := List.cons_prefix_cons.mp isPart
      exact (after part isRest).after (.leave_standing (leaves _) (by simp) notZero)

theorem Refused.turned {characters : Text} {tok' : Tokener doubles.Double}
    (zero : Fails (.redo tok obj 0 []))
    (turns : ∀ str, turn true tok obj c str = some (.redo tok' obj c str))
    (after : Refused tok' obj (c :: characters)) : Refused tok obj (c :: characters) := by
  intro part isPart
  cases part with
  | nil => exact zero
  | cons first part =>
      have fails := after (first :: part) isPart
      obtain rfl := (List.cons_prefix_cons.mp isPart).1
      exact fails.after (.redo (turns _))

theorem Refused.spaces {spaces characters : Text} (isState : tok.top.state = .eatws)
    (isSpaces : ∀ x ∈ spaces, isSpace x) (visible : ∀ x ∈ characters.head?, Visible x)
    (after : Refused (tok.setState tok.top.savedState) obj characters) :
    Refused tok obj (spaces ++ characters) := by
  refine .append Visible (fun tok' obj' => tok' = tok.setState tok.top.savedState ∧ obj' = obj)
    (fun part isPart _ => ?_) (fun c str visible => ?_) (by decide) visible ?_
  · have isSpaces : ∀ x ∈ part, isSpace x := fun x member => isSpaces x (isPart.subset member)
    exact after.zero.after (eatws_reaches isState isSpaces (by decide) (by decide))
  · exact ⟨_, obj, ⟨rfl, rfl⟩, eatws_reaches isState isSpaces visible.1 visible.2⟩
  · rintro tok' obj' ⟨rfl, rfl⟩
    exact after

end Refusing

/-! ## A zero above a level that waits for a value -/

/-- The level at the top of the others waits for an element or the value of a member. -/
inductive Waiting : List (Srec doubles.Double) → Prop
  | element (saved : TokenerState) (values : List (Value doubles.Double))
      (below : List (Srec doubles.Double)) :
      Waiting (⟨.arrayAdd, saved, .array values, []⟩ :: below)
  | member (saved : TokenerState) (entries : List (Text × Value doubles.Double)) (key : Text)
      (below : List (Srec doubles.Double)) :
      Waiting (⟨.objectValueAdd, saved, .object entries, key⟩ :: below)

section Zeros

variable {tok : Tokener doubles.Double} {obj value : Value doubles.Double}

theorem start_zero (top : tok.top = .starting) : Fails (.redo tok obj 0 []) :=
  .error .parseUnexpected (by decide) (by rw [turn, top]; rfl)

/-- Behind a value that another one waits for, a separator or the end must follow. -/
theorem done_spaces {spaces : Text} (top : tok.top = .done value) (waiting : Waiting tok.below)
    (isSpaces : ∀ x ∈ spaces, isSpace x) : Fails (.standing tok obj (spaces ++ [0])) := by
  generalize isBelow : tok.below = levels at waiting
  cases waiting with
  | element saved values below =>
      obtain ⟨tok', stack, reaches⟩ := element_added obj [] top isBelow isSpaces
        (show Visible 0 by decide)
      refine Fails.after (.error .parseArray (by decide) ?_) reaches
      rw [turn, stack.top]
      rfl
  | member saved entries key below =>
      obtain ⟨tok', stack, reaches⟩ := member_added obj [] top isBelow isSpaces
        (show Visible 0 by decide)
      refine Fails.after (.error .parseObjectValueSep (by decide) ?_) reaches
      rw [turn, stack.top]
      rfl

theorem done_zero (top : tok.top = .done value) (waiting : Waiting tok.below) :
    Fails (.redo tok obj 0 []) :=
  done_spaces top waiting (List.forall_mem_nil _)

end Zeros

/-! ## Words and numbers -/

section Scalars

variable {tok : Tokener doubles.Double} {obj value : Value doubles.Double}

theorem null_refused (top : tok.top = .starting) : Refused tok obj (text ['n', 'u', 'l']) := by
  obtain ⟨pb, maxDepth, isDouble, stPos, err, ucsChar, quoteChar, strict, level, below⟩ := tok
  obtain rfl : level = .starting := top
  have mismatch : TokenerError.parseNull ≠ .success := by decide
  exact .turned (start_zero rfl) (fun _ => rfl) <|
    .passed (.out mismatch rfl) (by decide) (fun _ => rfl) <|
    .passed (.out mismatch rfl) (by decide) (fun _ => rfl) <|
    .passed (.out mismatch rfl) (by decide) (fun _ => rfl) <| refused_nil (.out mismatch rfl)

theorem true_refused (top : tok.top = .starting) : Refused tok obj (text ['t', 'r', 'u']) := by
  obtain ⟨pb, maxDepth, isDouble, stPos, err, ucsChar, quoteChar, strict, level, below⟩ := tok
  obtain rfl : level = .starting := top
  have mismatch : TokenerError.parseBoolean ≠ .success := by decide
  exact .turned (start_zero rfl) (fun _ => rfl) <|
    .passed (.out mismatch rfl) (by decide) (fun _ => rfl) <|
    .passed (.out mismatch rfl) (by decide) (fun _ => rfl) <|
    .passed (.out mismatch rfl) (by decide) (fun _ => rfl) <| refused_nil (.out mismatch rfl)

theorem false_refused (top : tok.top = .starting) :
    Refused tok obj (text ['f', 'a', 'l', 's']) := by
  obtain ⟨pb, maxDepth, isDouble, stPos, err, ucsChar, quoteChar, strict, level, below⟩ := tok
  obtain rfl : level = .starting := top
  have mismatch : TokenerError.parseBoolean ≠ .success := by decide
  exact .turned (start_zero rfl) (fun _ => rfl) <|
    .passed (.out mismatch rfl) (by decide) (fun _ => rfl) <|
    .passed (.out mismatch rfl) (by decide) (fun _ => rfl) <|
    .passed (.out mismatch rfl) (by decide) (fun _ => rfl) <|
    .passed (.out mismatch rfl) (by decide) (fun _ => rfl) <| refused_nil (.out mismatch rfl)

/-- A part of a number may be a number, but the value that waits for it is not complete. -/
theorem number_refused {first : Byte} {more : Text} (starts : isDigit first ∨ first = ascii '-')
    (chars : ∀ x ∈ first :: more, isNumberChar x) (top : tok.top = .starting)
    (inside : tok.depth < tok.maxDepth) (waiting : Waiting tok.below) :
    Refused tok obj (first :: more) := by
  intro part isPart
  cases part with
  | nil => exact start_zero top
  | cons c part =>
      have isFirst := (List.cons_prefix_cons.mp isPart).1
      have chars : ∀ x ∈ c :: part, isNumberChar x := fun x member => chars x (isPart.subset member)
      rw [← isFirst] at starts
      cases isNumber : readNumber doubles (c :: part) with
      | some value =>
          have leads : Leads true 0 endsNumber .starting (.done value) (c :: part) :=
            leads_number starts chars isNumber
          obtain ⟨tok', obj', top', above, reaches⟩ := leads tok obj 0 [] top inside (by decide)
          exact (done_zero top' (above.below ▸ waiting)).after reaches
      | none =>
          have kinds : ∀ x ∈ c :: part, isNumberChar x ∧ x ≠ 0 := fun x member =>
            ⟨chars x member, fun zero => absurd (chars x member) (by rw [zero]; decide)⟩
          let number : Tokener doubles.Double :=
            { tok.resetBuffer.setState .number with isDouble := false }
          have started : turn true tok obj c (part ++ [0]) =
              some (.redo number obj c (part ++ [0])) := by
            rw [turn, top]
            exact congrArg some (turnStart_number starts)
          have failed : turn true number obj c (part ++ [0]) =
              some (.out ((number.appendNumber (c :: part)).fail .parseNumber) 0) := by
            have passed : pass true isNumberChar number c (part ++ [0]) =
                some (c :: part, .inr (0, [])) := pass_run kinds (by decide) rfl
            have noValue : numberValue (number.appendNumber (c :: part)) = none := isNumber
            show turnNumber true number obj c (part ++ [0]) = _
            rw [turnNumber, passed]
            simp only [Option.bind_eq_bind, Option.bind_some]
            rw [noValue]
          have isError : TokenerError.parseNumber ≠ .success := by decide
          exact Fails.after (.out isError failed) (.redo started)

end Scalars

/-! ## Strings and names -/

section Strings

variable {tok : Tokener doubles.Double} {obj : Value doubles.Double} {c : Byte} {str : Text}

theorem pass_zero {kind : Byte → Bool} {passed : Text} (kinds : ∀ x ∈ passed, kind x ∧ x ≠ 0)
    (zero : kind 0) (isText : c :: str = passed ++ [0]) :
    pass true kind tok c str = some (passed ++ [0], .inl (tok, 0)) := by
  induction passed generalizing c str with
  | nil =>
      obtain ⟨rfl, rfl⟩ := List.cons.inj isText
      rw [pass, if_pos zero, if_pos rfl]
      rfl
  | cons first passed induction =>
      obtain ⟨rfl, isStr⟩ := List.cons.inj isText
      obtain ⟨next, rest, isRest⟩ : ∃ next rest, passed ++ [0] = next :: rest :=
        List.exists_cons_of_ne_nil (by simp)
      have isFirst := kinds c List.mem_cons_self
      have later := induction (fun x member => kinds x (List.mem_cons_of_mem c member)) isRest.symm
      rw [isStr, List.append_eq, isRest, pass, if_pos isFirst.1, if_neg isFirst.2, later]
      rfl

/-- Between the quotes of a string or a name. -/
structure Quoted (tok : Tokener doubles.Double) : Prop where
  state : tok.top.state = .string ∨ tok.top.state = .objectField
  saved : tok.top.savedState ≠ .finish
  quote : tok.quoteChar = ascii '"'

theorem plain_refused (quoted : Quoted tok) {plain : Text} (isPlain : Plain plain) :
    Refused tok obj plain := by
  intro part isPart
  have kinds := plain_kinds (fun x member => isPlain x (isPart.subset member))
    quoted.quote
  have zero : (decide (0 ≠ tok.quoteChar) && decide ((0 : Byte) ≠ ascii '\\')) = true := by
    rw [quoted.quote]
    decide
  obtain ⟨c, str, isText⟩ := List.exists_cons_of_ne_nil (show part ++ [0] ≠ [] by simp)
  have passed : pass true (fun c => c ≠ tok.quoteChar && c ≠ ascii '\\') tok c str =
      some (part ++ [0], .inl (tok, 0)) := pass_zero kinds zero isText.symm
  have unfinished : (tok.append (part ++ [0])).Unfinished := by
    refine ⟨?_, quoted.saved⟩
    rw [Tokener.append]
    rcases quoted.state with isState | isState <;> rw [isState] <;> decide
  rw [isText]
  refine .unfinished unfinished ?_
  rw [turn]
  rcases quoted.state with isState | isState
  · rw [isState]
    dsimp only
    rw [turnString, passed]
    rfl
  · rw [isState]
    dsimp only
    rw [turnObjectField, passed]
    rfl

theorem digits_zero (quoted : tok.top.savedState ≠ .finish)
    (isState : tok.top.state = .escapeUnicode)
    (part : Text) (isHex : ∀ x ∈ part, inHexChars x ∧ x ≠ 0) (short : tok.stPos + part.length ≤ 3)
    (isText : c :: str = part ++ [0]) :
    ∃ tok' : Tokener doubles.Double, tok'.Unfinished ∧
      (turnEscapeUnicode true tok none c str = some (.out tok' 0) ∨
        turnEscapeUnicode true tok none c str = some (.leave tok' 0 [])) := by
  induction part generalizing tok c str with
  | nil =>
      obtain ⟨rfl, rfl⟩ := List.cons.inj isText
      have isEscape : tok.top.state ≠ .finish := by
        rw [isState]
        decide
      have isHex : inHexChars 0 = true := by decide
      have digits : (∃ tok' : Tokener doubles.Double, tok'.Unfinished ∧
          digit true tok none 0 [] = some (.turn (.leave tok' 0 []))) ∨
          digit true tok none 0 [] = some (.more (tok.addDigit 0)) := by
        unfold digit
        rw [if_pos isHex]
        dsimp only
        split_ifs
        · refine Or.inl ⟨_, ?_, rfl⟩
          exact ⟨quoted, quoted⟩
        · refine Or.inl ⟨_, ?_, rfl⟩
          exact ⟨quoted, quoted⟩
        · exact Or.inr rfl
      rw [turnEscapeUnicode]
      rcases digits with ⟨tok', unfinished, isDigit⟩ | isDigit
      · rw [isDigit]
        exact ⟨tok', unfinished, Or.inr rfl⟩
      · rw [isDigit]
        refine ⟨_, ?_, Or.inl rfl⟩
        exact ⟨isEscape, quoted⟩
  | cons first part induction =>
      obtain ⟨rfl, isStr⟩ := List.cons.inj isText
      obtain ⟨next, rest, isRest⟩ : ∃ next rest, part ++ [0] = next :: rest :=
        List.exists_cons_of_ne_nil (by simp)
      rw [List.length_cons] at short
      have isFirst := isHex c List.mem_cons_self
      rw [isStr, List.append_eq, isRest, turnEscapeUnicode_more isFirst.1 isFirst.2 (by omega)]
      exact induction quoted isState (fun x member => isHex x (List.mem_cons_of_mem c member))
        (by simp only [Tokener.addDigit]; omega) isRest.symm

theorem notFinish_of_quoted {state : TokenerState}
    (isString : state = .string ∨ state = .objectField) : state ≠ .finish := by
  rcases isString with rfl | rfl <;> decide

theorem escape_cut {escaped part : Text} (isEscaped : escapeChar c = some escaped)
    (isState : tok.top.state = .stringEscape)
    (isString : tok.top.savedState = .string ∨ tok.top.savedState = .objectField)
    (isPart : part <+: escaped.tail) (notAll : part ≠ escaped.tail) :
    Fails (.standing tok obj (part ++ [0])) := by
  have notFinish := notFinish_of_quoted isString
  have zero : Fails (.redo tok obj 0 []) :=
    .error .parseString (by decide) (by rw [turn, isState]; rfl)
  rcases @escapeChar_cases doubles c escaped isEscaped with ⟨x, rfl, -⟩ | ⟨control, rfl⟩
  · rcases List.prefix_cons_iff.mp isPart with rfl | ⟨rest, rfl, isRest⟩
    · exact zero
    · rw [List.prefix_nil.mp isRest] at notAll
      exact absurd rfl notAll
  · obtain ⟨isHex, isHex', notZero, notZero', -⟩ := hex_digits c control
    rcases List.prefix_cons_iff.mp isPart with rfl | ⟨rest, rfl, isRest⟩
    · exact zero
    · let first : Tokener doubles.Double :=
        { tok.setState .escapeUnicode with ucsChar := 0, stPos := 0 }
      have started : turn true tok obj (ascii 'u') (rest ++ [0]) =
          some (.leave first (ascii 'u') (rest ++ [0])) := by
        rw [turn, isState]
        rfl
      have short : rest.length ≤ 3 := by
        have fewer : rest.length ≤ 4 := isRest.length_le
        by_contra many
        have same : rest.length = 4 := by omega
        exact notAll (congrArg (ascii 'u' :: ·) (isRest.eq_of_length same))
      have hexes : ∀ x ∈ rest, inHexChars x ∧ x ≠ 0 := by
        intro x member
        have zeroHex : inHexChars (ascii '0') ∧ ascii '0' ≠ 0 := by decide
        have among : x ∈ [ascii '0', ascii '0', jsonHexChars.getD (c >>> 4).toNat 0,
            jsonHexChars.getD (c &&& 0xf).toNat 0] := isRest.subset member
        simp only [List.mem_cons, List.not_mem_nil, or_false] at among
        rcases among with rfl | rfl | rfl | rfl
        · exact zeroHex
        · exact zeroHex
        · exact ⟨isHex, notZero⟩
        · exact ⟨isHex', notZero'⟩
      obtain ⟨d, str, isText⟩ := List.exists_cons_of_ne_nil (show rest ++ [0] ≠ [] by simp)
      obtain ⟨tok', unfinished, ends⟩ := digits_zero
        (show first.top.savedState ≠ .finish from notFinish) rfl rest hexes
        (by simpa [first] using short) isText.symm
      have fails : Fails (.redo first obj d str) := by
        rcases ends with ends | ends
        · exact .unfinished unfinished ends
        · exact .left unfinished ends
      rw [isText] at started
      rw [List.cons_append, isText]
      exact fails.after (.leave started (by decide))

theorem escapeLoop_refused (characters : Text) {plain : Text} (quoted : Quoted tok)
    (isPlain : Plain plain) : Refused tok obj (escapeLoop plain characters) := by
  induction characters generalizing tok plain with
  | nil => exact plain_refused quoted isPlain
  | cons c characters induction =>
      rw [escapeLoop]
      cases isEscaped : escapeChar c with
      | none =>
          refine induction quoted fun x member => ?_
          rcases List.mem_append.mp member with member | member
          · exact isPlain x member
          · rw [List.mem_singleton.mp member, isEscaped]
      | some escaped =>
          let escaping := ((tok.append plain).eat tok.top.state).setState .stringEscape
          have backslash : ∀ more, more ≠ [] →
              Reaches true (.standing tok obj (plain ++ ascii '\\' :: more))
                (.standing escaping obj more) :=
            fun more goesOn => backslash_reaches quoted.state rfl quoted.quote isPlain goesOn
          refine .append (fun _ => True) (fun tok' obj' => Quoted tok' ∧ obj' = obj)
            (fun part isPart notAll => ?_) (fun next str _ => ?_) trivial (fun _ _ => trivial) ?_
          · rw [escaped_cons isEscaped] at isPart notAll
            rcases prefix_cases isPart with ⟨isCut, -⟩ | ⟨rest, rfl, isRest⟩
            · exact plain_refused quoted isPlain part isCut
            · rcases List.prefix_cons_iff.mp isRest with rfl | ⟨rest, rfl, isTail⟩
              · rw [List.append_nil]
                exact plain_refused quoted isPlain plain (List.prefix_refl plain)
              · have cut : Fails (.standing escaping obj (rest ++ [0])) :=
                  escape_cut isEscaped rfl quoted.state isTail fun same => notAll (by rw [same])
                rw [List.append_assoc, List.cons_append]
                exact cut.after (backslash (rest ++ [0]) (by simp))
          · obtain ⟨tok', readOn, reaches⟩ : ∃ tok', ReadOn tok.top.state escaping tok' [c] ∧
                Reaches true (.standing escaping obj (escaped.tail ++ next :: str))
                  (.redo tok' obj next str) :=
              escape_reaches escaping obj next str isEscaped rfl rfl
            refine ⟨tok', obj, ⟨⟨readOn.state ▸ quoted.state, ?_, readOn.quoteChar.trans
                quoted.quote⟩,
              rfl⟩, ?_⟩
            · exact readOn.saved (notFinish_of_quoted quoted.state)
            · rw [escaped_cons isEscaped, List.append_assoc]
              exact (backslash _ (by simp)).trans reaches
          · rintro tok' obj' ⟨quoted', rfl⟩
            exact induction quoted' plain_nil

theorem string_refused (characters : Text) (top : tok.top = .starting) :
    Refused tok obj (ascii '"' :: jsonEscapeStr characters) := by
  let first : Tokener doubles.Double :=
    { tok.resetBuffer.setState .string with quoteChar := ascii '"' }
  have opens : ∀ str, turn true tok obj (ascii '"') str = some (.leave first (ascii '"') str) := by
    intro str
    rw [turn, top]
    rfl
  have saved : first.top.savedState ≠ .finish := by
    simp [first, Tokener.setState, Tokener.resetBuffer, top, Srec.starting]
  exact .passed (start_zero top) (by decide) opens
    (escapeLoop_refused characters ⟨Or.inl rfl, saved, rfl⟩ plain_nil)

theorem name_refused {state : TokenerState}
    (starts : state = .objectFieldStart ∨ state = .objectFieldStartAfterSep)
    {current : Value doubles.Double} (key : Text) (top : tok.top = ⟨state, state, current, []⟩) :
    Refused tok obj (ascii '"' :: jsonEscapeStr key) := by
  let first : Tokener doubles.Double :=
    ({ tok with quoteChar := ascii '"' } : Tokener doubles.Double).resetBuffer.setState .objectField
  have opens : ∀ str, turn true tok obj (ascii '"') str = some (.leave first (ascii '"') str) := by
    intro str
    rw [turn, top]
    rcases starts with rfl | rfl <;> rfl
  have zero : Fails (.redo tok obj 0 []) := by
    refine .error .parseObjectKeyName (by decide) ?_
    rw [turn, top]
    rcases starts with rfl | rfl <;> rfl
  have saved : first.top.savedState ≠ .finish := by
    simp only [first, Tokener.setState, Tokener.resetBuffer, top]
    rcases starts with rfl | rfl <;> decide
  exact .passed zero (by decide) opens
    (escapeLoop_refused key ⟨Or.inr rfl, saved, rfl⟩ plain_nil)

end Strings

/-! ## Arrays -/

/-- What the tokener makes of a value that stands in another one, and of its parts. -/
structure CutAs (value : Value doubles.Double) (characters : Text) : Prop where
  reads : ReadsAs true value characters
  cut : ∀ (tok : Tokener doubles.Double) (obj : Value doubles.Double), tok.top = .starting →
    tok.depth + value.height < tok.maxDepth → Waiting tok.below →
    ∀ part, part <+: characters → part ≠ characters → Fails (.standing tok obj (part ++ [0]))

section Arrays

variable {tok : Tokener doubles.Double} {obj value : Value doubles.Double}
variable {below : List (Srec doubles.Double)}

theorem child_refused {characters rest : Text} (cutAs : CutAs value characters)
    (top : tok.top = .starting) (inside : tok.depth + value.height < tok.maxDepth)
    (waiting : Waiting tok.below) (follows : ∀ x ∈ rest.head?, endsNumber x)
    (after : ∀ tok' obj', Stack tok tok' (.done value) tok.below → Refused tok' obj' rest) :
    Refused tok obj (characters ++ rest) := by
  refine .append (endsNumber ·) (fun tok' _ => Stack tok tok' (.done value) tok.below)
    (fun part isPart notAll => ?_) (fun c str follow => ?_) (by decide) follows after
  · exact cutAs.cut tok obj top inside waiting part isPart notAll
  · exact child_read cutAs.reads.leads obj str top inside follow

theorem pushed_refused (add : TokenerState) (kind : Byte → Prop) {characters : Text}
    (pushes : ∀ c str, kind c → turn true tok obj c str = some (.redo (tok.push add) obj c str))
    (zero : kind 0) (starts : ∀ x ∈ characters.head?, Visible x ∧ kind x)
    (after : ∀ tok', Stack tok tok' .starting ({ tok.top with state := add } :: tok.below) →
      Refused tok' obj characters) :
    Refused tok obj characters := by
  refine .moved (fun c => Visible c ∧ kind c) (fun tok' obj' => obj' = obj ∧
      Stack tok tok' .starting ({ tok.top with state := add } :: tok.below))
    (fun c str starts => ?_) ⟨by decide, zero⟩ starts ?_
  · obtain ⟨tok', stack, reaches⟩ := child_started obj str starts.1 (pushes c str starts.2)
    exact ⟨tok', obj, ⟨rfl, stack⟩, reaches⟩
  · rintro tok' obj' ⟨rfl, stack⟩
    exact after tok' stack

theorem resumed_refused (spaces : Text) {level : Srec doubles.Double} {characters : Text}
    (top : tok.top = level) (isState : level.state = .eatws) (isSpaces : ∀ x ∈ spaces, isSpace x)
    (visible : ∀ x ∈ characters.head?, Visible x)
    (after : ∀ tok', Stack tok tok' { level with state := level.savedState } tok.below →
      Refused tok' obj characters) :
    Refused tok obj (spaces ++ characters) := by
  subst top
  exact .spaces isState isSpaces visible (after _ ⟨rfl, rfl, rfl, rfl⟩)

theorem separated_refused {tok' : Tokener doubles.Double} {level : Srec doubles.Double}
    {separator : Byte} {spaces characters : Text} (zero : Fails (.redo tok obj 0 []))
    (top : tok'.top = level) (isState : level.state = .eatws) (isSpaces : ∀ x ∈ spaces, isSpace x)
    (visible : ∀ x ∈ characters.head?, Visible x) (notZero : separator ≠ 0)
    (leaves : ∀ str, turn true tok obj separator str = some (.leave tok' separator str))
    (after : ∀ tok'', Stack tok' tok'' { level with state := level.savedState } tok'.below →
      Refused tok'' obj characters) :
    Refused tok obj (separator :: (spaces ++ characters)) :=
  .passed zero notZero leaves (resumed_refused spaces top isState isSpaces visible after)

theorem CutAs.visible {characters : Text} (cutAs : CutAs value characters) (rest : Text) :
    ∀ x ∈ (characters ++ rest).head?, Visible x := by
  obtain ⟨first, more, rfl, visible, -⟩ := cutAs.reads.starts
  rintro x ⟨⟩
  exact visible

theorem element_refused {state : TokenerState} {values : List (Value doubles.Double)}
    {characters rest : Text} (cutAs : CutAs value characters)
    (isState : state = .array ∨ state = .arrayAfterSep)
    (top : tok.top = ⟨state, state, .array values, []⟩)
    (inside : tok.depth + (value.height + 1) < tok.maxDepth)
    (follows : ∀ x ∈ rest.head?, endsNumber x)
    (after : ∀ tok' obj', Stack tok tok' (.done value)
      (⟨.arrayAdd, state, .array values, []⟩ :: tok.below) → Refused tok' obj' rest) :
    Refused tok obj (characters ++ rest) := by
  refine pushed_refused .arrayAdd (· ≠ ascii ']') (fun c str notEnd => ?_) (by decide) ?_
    fun tok' stack => ?_
  · have room : ¬tok.maxDepth ≤ tok.depth + 1 := by omega
    rw [turn, top]
    rcases isState with rfl | rfl <;> simp [turnArray, notEnd, room]
  · obtain ⟨first, more, rfl, visible, notEnd⟩ := cutAs.reads.starts
    rintro x ⟨⟩
    exact ⟨visible, notEnd⟩
  · rw [top] at stack
    have depth : tok'.depth = tok.depth + 1 := by
      rw [Tokener.depth, stack.below]
      rfl
    refine child_refused cutAs stack.top (by rw [depth, stack.maxDepth]; omega)
      (stack.below ▸ .element _ _ _) follows fun tok'' obj'' done => ?_
    rw [stack.below] at done
    exact after tok'' obj'' (stack.trans done)

theorem array_zero {state : TokenerState} {values : List (Value doubles.Double)}
    (isState : state = .array ∨ state = .arrayAfterSep)
    (top : tok.top = ⟨state, state, .array values, []⟩) : Fails (.redo tok obj 0 []) := by
  by_cases room : tok.maxDepth ≤ tok.depth + 1
  · refine .error .depth (by decide) ?_
    rw [turn, top]
    rcases isState with rfl | rfl <;> exact congrArg some (if_pos room)
  · have pushes : turn true tok obj 0 [] = some (.redo (tok.push .arrayAdd) obj 0 []) := by
      rw [turn, top]
      rcases isState with rfl | rfl <;> exact congrArg some (if_neg room)
    obtain ⟨tok', stack, reaches⟩ := child_started obj [] (show Visible 0 by decide) pushes
    exact (start_zero stack.top).after reaches

theorem head_endsNumber {characters : Text} (str : Text)
    (ends : ∃ next rest, characters ++ str = next :: rest ∧ endsNumber next) :
    ∀ x ∈ characters.head?, endsNumber x := by
  obtain ⟨next, rest, isText, ends⟩ := ends
  cases characters with
  | nil => simp
  | cons first characters =>
      rintro x ⟨⟩
      rw [(List.cons.inj isText).1]
      exact ends

theorem itemsString_cons (flags : ToStringFlags) (level : Nat) (next : Value doubles.Double)
    (values : List (Value doubles.Double)) (str : Text) :
    ∃ spaces, (∀ x ∈ spaces, isSpace x) ∧
      itemsString doubles flags level true (next :: values) ++ str = ascii ',' ::
        (spaces ++ (toJsonString doubles flags (level + 1) next ++
          (itemsString doubles flags level true values ++ str))) := by
  obtain ⟨spaces, isSeparator, isSpaces⟩ := separator_spaces flags level
  refine ⟨spaces, isSpaces, ?_⟩
  rw [itemsString, isSeparator]
  simp

theorem items_follow (level : Nat) (values : List (Value doubles.Double)) :
    ∀ x ∈ (itemsString doubles flags level true values ++ flags.closing true level).head?,
      endsNumber x := by
  refine head_endsNumber [ascii ']'] ?_
  rw [List.append_assoc]
  exact items_endsNumber flags level values []

theorem items_refused (level : Nat) (values : List (Value doubles.Double)) {saved : TokenerState}
    {taken : List (Value doubles.Double)}
    (cutAs : ∀ value ∈ values, CutAs value (toJsonString doubles flags (level + 1) value))
    (top : tok.top = .done value)
    (isBelow : tok.below = ⟨.arrayAdd, saved, .array taken, []⟩ :: below)
    (inside : ∀ value ∈ values, below.length + (value.height + 1) < tok.maxDepth) :
    Refused tok obj
      (itemsString doubles flags level true values ++ flags.closing true level) := by
  induction values generalizing tok value saved taken obj with
  | nil =>
      exact fun part isPart => done_spaces top (isBelow ▸ .element saved taken below)
        fun x member => closing_spaces flags true level x (isPart.subset member)
  | cons next values induction =>
      obtain ⟨spaces, isSpaces, isText⟩ :=
        itemsString_cons flags level next values (flags.closing true level)
      have cutNext := cutAs next List.mem_cons_self
      rw [isText]
      refine .moved Visible (fun tok' _ => Stack tok tok'
        ⟨.arraySep, .arraySep, .array (taken ++ [value]), []⟩ below) (fun c str visible => ?_)
        (by decide) (by rintro x ⟨⟩; decide) fun tok₁ obj₁ stack₁ => ?_
      · obtain ⟨tok', stack, reaches⟩ := element_added obj str top isBelow
          (List.forall_mem_nil _) visible
        exact ⟨tok', value, stack, reaches⟩
      · have zero : Fails (.redo tok₁ obj₁ 0 []) :=
          .error .parseArray (by decide) (by rw [turn, stack₁.top]; rfl)
        have leaves : ∀ str, turn true tok₁ obj₁ (ascii ',') str =
            some (.leave (tok₁.eat .arrayAfterSep) (ascii ',') str) := by
          intro str
          rw [turn, stack₁.top]
          rfl
        have top₁ : (tok₁.eat .arrayAfterSep).top =
            ⟨.eatws, .arrayAfterSep, .array (taken ++ [value]), []⟩ := by
          rw [Tokener.eat, stack₁.top]
        refine separated_refused zero top₁ rfl isSpaces (cutNext.visible _) (by decide) leaves
          fun tok₂ stack₂ => ?_
        have isBelow₂ : tok₂.below = below := stack₂.below.trans stack₁.below
        have maxDepth₂ : tok₂.maxDepth = tok.maxDepth := stack₂.maxDepth.trans stack₁.maxDepth
        have inside₂ : tok₂.depth + (next.height + 1) < tok₂.maxDepth := by
          rw [Tokener.depth, isBelow₂, maxDepth₂]
          exact inside next List.mem_cons_self
        refine element_refused cutNext (Or.inr rfl) stack₂.top inside₂ (items_follow level values)
          fun tok₃ obj₃ stack₃ => ?_
        rw [isBelow₂] at stack₃
        refine induction (fun value member => cutAs value (List.mem_cons_of_mem next member))
          stack₃.top stack₃.below fun value member => ?_
        rw [stack₃.maxDepth, maxDepth₂]
        exact inside value (List.mem_cons_of_mem next member)

theorem array_refused (level : Nat) (values : List (Value doubles.Double))
    (cutAs : ∀ value ∈ values, CutAs value (toJsonString doubles flags (level + 1) value))
    (top : tok.top = .starting) (inside : tok.depth + Value.itemsHeight values < tok.maxDepth) :
    Refused tok obj (ascii '[' :: (flags.newline ++ itemsString doubles flags level false values ++
      flags.closing (!values.isEmpty) level)) := by
  let opened := (tok.eat .array).setCurrent (.array [])
  have opens : ∀ str, turn true tok obj (ascii '[') str = some (.leave opened (ascii '[') str) := by
    intro str
    rw [turn, top]
    rfl
  have isTop : opened.top = ⟨.eatws, .array, .array [], []⟩ := by
    simp [opened, Tokener.setCurrent, Tokener.eat, top, Srec.starting]
  cases values with
  | nil =>
      have isSpaces : ∀ x ∈ flags.newline ++ flags.closing false level, isSpace x :=
        append_spaces (newline_spaces flags) (closing_spaces flags false level)
      have refused : Refused tok obj
          (ascii '[' :: (flags.newline ++ flags.closing false level ++ [])) :=
        separated_refused (start_zero top) isTop rfl isSpaces (by simp) (by decide) opens
          fun tok' stack => refused_nil (array_zero (Or.inl rfl) stack.top)
      simpa [itemsString] using refused
  | cons value values =>
      have cutFirst := cutAs value List.mem_cons_self
      have isText : ascii '[' :: (flags.newline ++
          itemsString doubles flags level false (value :: values) ++
            flags.closing (!(value :: values).isEmpty) level) =
          ascii '[' :: (flags.newline ++ flags.separator false level ++
            (toJsonString doubles flags (level + 1) value ++
              (itemsString doubles flags level true values ++ flags.closing true level))) := by
        simp [itemsString]
      have low := itemsHeight_le_iff.mp (Nat.le_refl (Value.itemsHeight (value :: values)))
      rw [isText]
      refine separated_refused (start_zero top) isTop rfl (opening_spaces flags level)
        (cutFirst.visible _) (by decide) opens fun tok₁ stack₁ => ?_
      have isBelow₁ : tok₁.below = tok.below := stack₁.below
      have maxDepth₁ : tok₁.maxDepth = tok.maxDepth := stack₁.maxDepth
      have inside₁ : tok₁.depth + (value.height + 1) < tok₁.maxDepth := by
        have := low value List.mem_cons_self
        rw [Tokener.depth, isBelow₁, maxDepth₁, ← Tokener.depth]
        omega
      refine element_refused cutFirst (Or.inl rfl) stack₁.top inside₁ (items_follow level values)
        fun tok₂ obj₂ stack₂ => ?_
      rw [isBelow₁] at stack₂
      refine items_refused level values
        (fun value member => cutAs value (List.mem_cons_of_mem _ member)) stack₂.top stack₂.below
        fun value member => ?_
      have := low value (List.mem_cons_of_mem _ member)
      rw [stack₂.maxDepth, maxDepth₁, ← Tokener.depth]
      omega

end Arrays

/-! ## Objects -/

section Objects

variable {tok : Tokener doubles.Double} {obj value : Value doubles.Double}
variable {below : List (Srec doubles.Double)}

theorem member_refused {state : TokenerState} {entries : List (Text × Value doubles.Double)}
    {key characters rest : Text} (cutAs : CutAs value characters)
    (isState : state = .objectFieldStart ∨ state = .objectFieldStartAfterSep) (noZero : 0 ∉ key)
    (top : tok.top = ⟨state, state, .object entries, []⟩)
    (inside : tok.depth + (value.height + 1) < tok.maxDepth)
    (follows : ∀ x ∈ rest.head?, endsNumber x)
    (after : ∀ tok' obj', Stack tok tok' (.done value)
      (⟨.objectValueAdd, .objectValue, .object entries, key⟩ :: tok.below) →
      Refused tok' obj' rest) :
    Refused tok obj (memberText flags key characters ++ rest) := by
  have isText : memberText flags key characters ++ rest =
      ascii '"' :: (jsonEscapeStr key ++ [ascii '"']) ++
        (ascii ':' :: (flags.space ++ (characters ++ rest))) := by
    simp [memberText]
  rw [isText]
  refine .append (fun _ => True) (fun tok' _ => Above tok tok' ∧
      tok'.top = ⟨.eatws, .objectFieldEnd, .object entries, key⟩)
    (fun part isPart notAll => ?_) (fun c str _ => ?_) trivial (fun _ _ => trivial) ?_
  · exact (name_refused isState key top).cut (ascii '"') isPart notAll
  · obtain ⟨tok', obj', top', above, reaches⟩ := leads_name 0 (fun _ => true)
      isState (.object entries) noZero tok obj c str top (by omega) rfl
    exact ⟨tok', obj', ⟨above, top'⟩, reaches⟩
  · rintro tok₁ obj₁ ⟨above, top₁⟩
    refine resumed_refused [] top₁ rfl (List.forall_mem_nil _) (by rintro x ⟨⟩; decide)
      fun tok₂ stack₂ => ?_
    have zero : Fails (.redo tok₂ obj₁ 0 []) :=
      .error .parseObjectKeySep (by decide) (by rw [turn, stack₂.top]; rfl)
    have leaves : ∀ str, turn true tok₂ obj₁ (ascii ':') str =
        some (.leave (tok₂.eat .objectValue) (ascii ':') str) := by
      intro str
      rw [turn, stack₂.top]
      rfl
    have top₂ : (tok₂.eat .objectValue).top = ⟨.eatws, .objectValue, .object entries, key⟩ := by
      rw [Tokener.eat, stack₂.top]
    refine separated_refused zero top₂ rfl (space_spaces flags) (cutAs.visible rest) (by decide)
      leaves fun tok₃ stack₃ => ?_
    have isBelow : tok₃.below = tok.below := stack₃.below.trans (stack₂.below.trans above.below)
    have maxDepth : tok₃.maxDepth = tok.maxDepth :=
      stack₃.maxDepth.trans (stack₂.maxDepth.trans above.maxDepth)
    have err : tok₃.err = tok.err := stack₃.err.trans (stack₂.err.trans above.err)
    have depth : tok₃.depth = tok.depth := congrArg List.length isBelow
    refine pushed_refused .objectValueAdd (fun _ => True) (fun c str _ => ?_)
      trivial (fun x member => ⟨cutAs.visible rest x member, trivial⟩) fun tok₄ stack₄ => ?_
    · have room : ¬tok₃.maxDepth ≤ tok₃.depth + 1 := by omega
      rw [turn, stack₃.top]
      simp [turnObjectValue, room]
    · rw [stack₃.top, isBelow] at stack₄
      have depth₄ : tok₄.depth = tok.depth + 1 := by
        rw [Tokener.depth, stack₄.below]
        rfl
      refine child_refused cutAs stack₄.top (by rw [depth₄, stack₄.maxDepth]; omega)
        (stack₄.below ▸ .member _ _ _ _) follows fun tok₅ obj₅ stack₅ => ?_
      rw [stack₄.below] at stack₅
      refine after tok₅ obj₅ ⟨stack₅.top, stack₅.below, ?_, ?_⟩
      · rw [stack₅.maxDepth, stack₄.maxDepth, maxDepth]
      · rw [stack₅.err, stack₄.err, err]

theorem entries_follow (level : Nat) (entries : List (Text × Value doubles.Double)) :
    ∀ x ∈ (entriesString doubles flags level true entries ++ flags.closing true level).head?,
      endsNumber x := by
  refine head_endsNumber [ascii '}'] ?_
  rw [List.append_assoc]
  exact entries_endsNumber flags level entries []

theorem entries_refused (level : Nat) (entries : List (Text × Value doubles.Double))
    {saved : TokenerState} {taken : List (Text × Value doubles.Double)} {key : Text}
    (cutAs : ∀ entry ∈ entries,
      0 ∉ entry.1 ∧ CutAs entry.2 (toJsonString doubles flags (level + 1) entry.2))
    (top : tok.top = .done value)
    (isBelow : tok.below = ⟨.objectValueAdd, saved, .object taken, key⟩ :: below)
    (inside : ∀ entry ∈ entries, below.length + (entry.2.height + 1) < tok.maxDepth) :
    Refused tok obj
      (entriesString doubles flags level true entries ++ flags.closing true level) := by
  induction entries generalizing tok value saved taken key obj with
  | nil =>
      exact fun part isPart => done_spaces top (isBelow ▸ .member saved taken key below)
        fun x member => closing_spaces flags true level x (isPart.subset member)
  | cons entry entries induction =>
      obtain ⟨key', next⟩ := entry
      obtain ⟨noZero, cutNext⟩ := cutAs (key', next) List.mem_cons_self
      obtain ⟨spaces, isSeparator, isSpaces⟩ := separator_spaces flags level
      rw [entriesString_cons level true noZero, isSeparator, List.cons_append]
      refine .moved Visible (fun tok' _ => Stack tok tok' ⟨.objectSep, .objectSep,
        .object (Entries.add taken key value), []⟩ below) (fun c str visible => ?_)
        (by decide) (by rintro x ⟨⟩; decide) fun tok₁ obj₁ stack₁ => ?_
      · obtain ⟨tok', stack, reaches⟩ := member_added obj str top isBelow
          (List.forall_mem_nil _) visible
        exact ⟨tok', value, stack, reaches⟩
      · have zero : Fails (.redo tok₁ obj₁ 0 []) :=
          .error .parseObjectValueSep (by decide) (by rw [turn, stack₁.top]; rfl)
        have leaves : ∀ str, turn true tok₁ obj₁ (ascii ',') str =
            some (.leave (tok₁.eat .objectFieldStartAfterSep) (ascii ',') str) := by
          intro str
          rw [turn, stack₁.top]
          rfl
        have top₁ : (tok₁.eat .objectFieldStartAfterSep).top = ⟨.eatws,
            .objectFieldStartAfterSep, .object (Entries.add taken key value), []⟩ := by
          rw [Tokener.eat, stack₁.top]
        refine separated_refused zero top₁ rfl isSpaces (by rintro x ⟨⟩; decide) (by decide) leaves
          fun tok₂ stack₂ => ?_
        have isBelow₂ : tok₂.below = below := stack₂.below.trans stack₁.below
        have maxDepth₂ : tok₂.maxDepth = tok.maxDepth := stack₂.maxDepth.trans stack₁.maxDepth
        have inside₂ : tok₂.depth + (next.height + 1) < tok₂.maxDepth := by
          rw [Tokener.depth, isBelow₂, maxDepth₂]
          exact inside (key', next) List.mem_cons_self
        refine member_refused cutNext (Or.inr rfl) noZero stack₂.top inside₂
          (entries_follow level entries) fun tok₃ obj₃ stack₃ => ?_
        rw [isBelow₂] at stack₃
        refine induction (fun entry member => cutAs entry (List.mem_cons_of_mem _ member))
          stack₃.top stack₃.below fun entry member => ?_
        rw [stack₃.maxDepth, maxDepth₂]
        exact inside entry (List.mem_cons_of_mem _ member)

theorem object_refused (level : Nat) (entries : List (Text × Value doubles.Double))
    (cutAs : ∀ entry ∈ entries,
      0 ∉ entry.1 ∧ CutAs entry.2 (toJsonString doubles flags (level + 1) entry.2))
    (top : tok.top = .starting) (inside : tok.depth + Value.entriesHeight entries < tok.maxDepth) :
    Refused tok obj (ascii '{' :: (flags.newline ++
    entriesString doubles flags level false entries ++
      flags.closing (!entries.isEmpty) level)) := by
  let opened := (tok.eat .objectFieldStart).setCurrent (.object [])
  have opens : ∀ str, turn true tok obj (ascii '{') str = some (.leave opened (ascii '{') str) := by
    intro str
    rw [turn, top]
    rfl
  have isTop : opened.top = ⟨.eatws, .objectFieldStart, .object [], []⟩ := by
    simp [opened, Tokener.setCurrent, Tokener.eat, top, Srec.starting]
  cases entries with
  | nil =>
      have isSpaces : ∀ x ∈ flags.newline ++ flags.closing false level, isSpace x :=
        append_spaces (newline_spaces flags) (closing_spaces flags false level)
      have refused : Refused tok obj
          (ascii '{' :: (flags.newline ++ flags.closing false level ++ [])) :=
        separated_refused (start_zero top) isTop rfl isSpaces (by simp) (by decide) opens
          fun tok' stack => refused_nil
            (.error .parseObjectKeyName (by decide) (by rw [turn, stack.top]; rfl))
      simpa [entriesString] using refused
  | cons entry entries =>
      obtain ⟨key, value⟩ := entry
      obtain ⟨noZero, cutFirst⟩ := cutAs (key, value) List.mem_cons_self
      have isText : ascii '{' :: (flags.newline ++
          entriesString doubles flags level false ((key, value) :: entries) ++
            flags.closing (!((key, value) :: entries).isEmpty) level) =
          ascii '{' :: (flags.newline ++ flags.separator false level ++
            (memberText flags key (toJsonString doubles flags (level + 1) value) ++
              (entriesString doubles flags level true entries ++ flags.closing true level))) := by
        rw [List.append_assoc, entriesString_cons level false noZero, List.append_assoc]
        rfl
      have low := entriesHeight_le_iff.mp
        (Nat.le_refl (Value.entriesHeight ((key, value) :: entries)))
      rw [isText]
      refine separated_refused (start_zero top) isTop rfl (opening_spaces flags level)
        (by rintro x ⟨⟩; decide) (by decide) opens fun tok₁ stack₁ => ?_
      have isBelow₁ : tok₁.below = tok.below := stack₁.below
      have maxDepth₁ : tok₁.maxDepth = tok.maxDepth := stack₁.maxDepth
      have inside₁ : tok₁.depth + (value.height + 1) < tok₁.maxDepth := by
        have : value.height < _ := low (key, value) List.mem_cons_self
        rw [Tokener.depth, isBelow₁, maxDepth₁, ← Tokener.depth]
        omega
      refine member_refused cutFirst (Or.inl rfl) noZero stack₁.top inside₁
        (entries_follow level entries) fun tok₂ obj₂ stack₂ => ?_
      rw [isBelow₁] at stack₂
      refine entries_refused level entries
        (fun entry member => cutAs entry (List.mem_cons_of_mem _ member)) stack₂.top stack₂.below
        fun entry member => ?_
      have := low entry (List.mem_cons_of_mem _ member)
      rw [stack₂.maxDepth, maxDepth₁, ← Tokener.depth]
      omega

end Objects

/-! ## Values -/

mutual

/-- A value's text is not complete in front of its end, where at least a level that waits
for it has to see that a number may go on. -/
theorem value_cut (level : Nat) : ∀ value : Value doubles.Double, value.Keyed →
    value.Readable flags → ∀ (tok : Tokener doubles.Double) (obj : Value doubles.Double),
    tok.top = .starting → tok.depth + value.height < tok.maxDepth →
    (value.isNumber → Waiting tok.below) →
    ∀ part, part <+: toJsonString doubles flags level value →
      part ≠ toJsonString doubles flags level value → Fails (.standing tok obj (part ++ [0]))
  | .null, _, _ => fun _ _ top _ _ _ isPart notAll =>
      (null_refused top).cut (ascii 'l') isPart notAll
  | .boolean true, _, _ => fun _ _ top _ _ _ isPart notAll =>
      (true_refused top).cut (ascii 'e') isPart notAll
  | .boolean false, _, _ => fun _ _ top _ _ _ isPart notAll =>
      (false_refused top).cut (ascii 'e') isPart notAll
  | .int value, _, _ => by
      intro tok obj top inside waiting part isPart _
      obtain ⟨first, more, isText, starts, chars⟩ := decimal_cons value
      rw [toJsonString, isText] at isPart
      exact number_refused starts (fun x member => (chars x member).1) top inside (waiting rfl)
        part isPart
  | .double value, _, readable => by
      intro tok obj top inside waiting part isPart _
      obtain ⟨first, more, isText, starts, chars, -⟩ := readable value List.mem_cons_self
      rw [toJsonString, isText] at isPart
      exact number_refused starts chars top inside (waiting rfl) part isPart
  | .string characters, _, _ => fun _ _ top _ _ _ isPart notAll =>
      (string_refused characters top).cut (ascii '"') isPart notAll
  | .array values, keyed, readable => fun _ _ top inside _ _ isPart notAll =>
      (array_refused level values (items_cut level values keyed readable) top inside).cut
        (ascii ']') isPart notAll
  | .object entries, keyed, readable => fun _ _ top inside _ _ isPart notAll =>
      (object_refused level entries (entries_cut level entries keyed.2 readable) top inside).cut
        (ascii '}') isPart notAll

theorem items_cut (level : Nat) : ∀ values : List (Value doubles.Double), Value.ItemsKeyed values →
    (∀ number ∈ Value.itemsDoubles values, ReadsBack doubles flags number) →
    ∀ value ∈ values, CutAs value (toJsonString doubles flags (level + 1) value)
  | [], _, _ => nofun
  | value :: values, keyed, readable => by
      intro other member
      have readable' : value.Readable flags :=
        fun number isNumber => readable number (List.mem_append_left _ isNumber)
      rcases List.mem_cons.mp member with same | member
      · rw [same]
        refine ⟨⟨value_reads (level + 1) value keyed.1 readable',
          printed_starts (level + 1) value readable'⟩, fun tok obj top inside waiting => ?_⟩
        exact value_cut (level + 1) value keyed.1 readable' tok obj top inside fun _ => waiting
      · exact items_cut level values keyed.2
          (fun number isNumber => readable number (List.mem_append_right _ isNumber)) other member

theorem entries_cut (level : Nat) : ∀ entries : List (Text × Value doubles.Double),
    Value.EntriesKeyed entries →
    (∀ number ∈ Value.entriesDoubles entries, ReadsBack doubles flags number) →
    ∀ entry ∈ entries, 0 ∉ entry.1 ∧
      CutAs entry.2 (toJsonString doubles flags (level + 1) entry.2)
  | [], _, _ => nofun
  | (key, value) :: entries, keyed, readable => by
      intro other member
      have readable' : value.Readable flags :=
        fun number isNumber => readable number (List.mem_append_left _ isNumber)
      rcases List.mem_cons.mp member with same | member
      · rw [same]
        refine ⟨keyed.1, ⟨value_reads (level + 1) value keyed.2.1 readable',
          printed_starts (level + 1) value readable'⟩, fun tok obj top inside waiting => ?_⟩
        exact value_cut (level + 1) value keyed.2.1 readable' tok obj top inside fun _ => waiting
      · exact entries_cut level entries keyed.2.2
          (fun number isNumber => readable number (List.mem_append_right _ isNumber)) other member

end

/-! ## Messages -/

/-- A value that a program sends as a message: no number, which might go on, and one that
the tokener can read. -/
structure Message (doubles : Doubles) (flags : ToStringFlags) where
  value : Value doubles.Double
  notNumber : value.isNumber = false
  readable : value.Readable flags
  fits : Fits jsonTokenerDefaultDepth 0 value

namespace Message

variable (message : Message doubles flags)

def bytes : Text := jsonObjectToJsonStringExt doubles flags message.value

/-- The tokener of `json_tokener_parse` in front of a text. -/
def tokener (doubles : Doubles) : Tokener doubles.Double :=
  (jsonTokenerNewEx jsonTokenerDefaultDepth).fail .success

theorem bytes_noZero : 0 ∉ message.bytes :=
  printed_noZero 0 message.value message.readable

theorem room : 0 + message.value.height < jsonTokenerDefaultDepth := by
  have := message.fits.height
  omega

theorem cut_fails {part : Text} (isPart : part <+: message.bytes) (notAll : part ≠ message.bytes) :
    Fails (.standing (tokener doubles) .null (part ++ [0])) := by
  obtain ⟨c, str, isText, visible⟩ : ∃ c str, part ++ [0] = c :: str ∧ Visible c := by
    cases part with
    | nil => exact ⟨0, [], rfl, by decide⟩
    | cons first part =>
        obtain ⟨first', more, isText, visible, -⟩ := printed_starts 0 message.value message.readable
        have starts : first :: part <+: first' :: more := isText ▸ isPart
        exact ⟨first, part ++ [0], rfl, (List.cons_prefix_cons.mp starts).1 ▸ visible⟩
  obtain ⟨tok, stack, reaches⟩ := resumed .null str (show (tokener doubles).top = .reset from rfl)
    rfl (List.forall_mem_nil _) visible
  have inside : tok.depth + message.value.height < tok.maxDepth := by
    rw [Tokener.depth, stack.below, stack.maxDepth]
    exact message.room
  have fails := value_cut 0 message.value message.fits.keyed message.readable tok .null stack.top
    inside (fun isNumber => absurd isNumber (by simp [message.notNumber])) part isPart notAll
  rw [isText] at fails ⊢
  exact fails.after reaches

theorem reads : ∃ tok, Reaches true (.standing (tokener doubles) .null (message.bytes ++ [0]))
    (.out tok 0) ∧ (parseOut tok 0).1.err = .success ∧ (parseOut tok 0).2 = message.value := by
  obtain ⟨tok, top, -, err, reaches⟩ := printed_value_reaches true message.value message.readable
    message.fits.keyed (show (tokener doubles).top = .reset from rfl) message.room rfl .null
    (List.forall_mem_nil _) (show Visible 0 by decide) (fun _ => by decide) []
  have finished := parseOut_finished (show tok.top.state = .finish by rw [top]) err (c := 0)
  exact ⟨tok, reaches, finished.1, finished.2.trans (by rw [top]; rfl)⟩

theorem ends_same {str : Text} {tok tok' : Tokener doubles.Double} {c c' : Byte} (notNil : str ≠ [])
    (first : Reaches true (.standing (tokener doubles) .null str) (.out tok c))
    (second : Reaches true (.standing (tokener doubles) .null str) (.out tok' c')) :
    tok = tok' ∧ c = c' := by
  obtain ⟨d, str, rfl⟩ := List.exists_cons_of_ne_nil notNil
  have wellFormed : WellFormed jsonTokenerDefaultDepth (tokener doubles) .null :=
    (default_wellFormed .null).fail .success
  have firstLoop := first.parseLoop wellFormed (work_le _ _ _)
  have secondLoop := second.parseLoop wellFormed (work_le _ _ _)
  exact Prod.mk.inj (Option.some.inj (firstLoop.symm.trans secondLoop))

end Message

/-- The messages are a code: none of them is the beginning of another. -/
def messageCode (doubles : Doubles) (flags : ToStringFlags) :
    PrefixCode (Message doubles flags) Byte where
  word := Message.bytes
  word_injective := by
    intro first second same
    obtain ⟨tok, reaches, -, isFirst⟩ := first.reads
    obtain ⟨tok', reaches', -, isSecond⟩ := second.reads
    rw [← same] at reaches'
    obtain ⟨rfl, -⟩ := Message.ends_same (by simp) reaches reaches'
    have sameValue := isFirst.symm.trans isSecond
    cases first
    cases second
    cases sameValue
    rfl
  word_ne_nil := by
    intro message
    obtain ⟨first, more, isText, -⟩ := printed_starts 0 message.value message.readable
    rw [Message.bytes, jsonObjectToJsonStringExt, isText]
    exact List.cons_ne_nil _ _
  prefixFree := by
    intro first second isPart
    by_contra notAll
    obtain ⟨tok, c, reaches, failed⟩ := second.cut_fails isPart notAll
    obtain ⟨tok', reaches', success, -⟩ := first.reads
    obtain ⟨rfl, rfl⟩ := Message.ends_same (by simp) reaches reaches'
    exact failed success

/-- Messages that are sent one behind another can be told apart in the stream of bytes. -/
theorem messages_are_told_apart (doubles : Doubles) (flags : ToStringFlags) :
    Function.Injective (messageCode doubles flags).encode :=
  (messageCode doubles flags).encode_injective

/-- An array with nothing in it. -/
def emptyMessage : Message textDoubles ⟨false, false, false⟩ where
  value := .array []
  notNumber := rfl
  readable := List.forall_mem_nil _
  fits := ⟨by decide, trivial⟩

/-- A string with the text of the empty array and a quote in it. -/
def quotedMessage : Message textDoubles ⟨false, false, false⟩ where
  value := .string (text ['[', ']', '"'])
  notNumber := rfl
  readable := List.forall_mem_nil _
  fits := ⟨by decide, trivial⟩

/-- Only these three messages give the stream. -/
theorem messages_are_told_apart_sample :
    ∀ messages, (messageCode textDoubles ⟨false, false, false⟩).encode messages =
        text ['[', ']', '"', '[', ']', '\\', '"', '"', '[', ']'] →
      messages = [emptyMessage, quotedMessage, emptyMessage] := by
  intro messages stream
  apply messages_are_told_apart textDoubles ⟨false, false, false⟩
  rw [stream]
  decide

/-- `json_tokener_parse` takes no part of a message for a message, whatever is in memory
behind the zero that ends the part. -/
theorem part_of_message_is_refused (message : Message doubles flags) {part : Text}
    (isPart : part <+: message.bytes) (notAll : part ≠ message.bytes) {beyond : Text}
    (room : 2 ≤ beyond.length) :
    ∃ err, err ≠ .success ∧
      jsonTokenerParseVerbose doubles (part ++ 0 :: beyond) = some (err, .null) := by
  have noZero : 0 ∉ part := fun member => message.bytes_noZero (isPart.subset member)
  obtain ⟨tok, c, reaches, failed⟩ := message.cut_fails isPart notAll
  obtain ⟨d, str, isText⟩ := List.exists_cons_of_ne_nil (show part ++ [0] ≠ [] by simp)
  rw [isText] at reaches
  have looped := reaches.parseLoop ((default_wellFormed .null).fail .success) (work_le _ _ _)
  have parsed := parseVerbose_same noZero room isText looped
  rw [parseOut_null failed] at parsed
  exact ⟨_, failed, parsed⟩

theorem part_of_message_is_refused_sample :
    ∃ err, err ≠ .success ∧
      jsonTokenerParseVerbose textDoubles (text ['{', '\n', ' ', ' ', ' ', '"'] ++ 0 :: [0, 0]) =
        some (err, .null) := by
  refine @part_of_message_is_refused textDoubles ⟨true, true, false⟩
    ⟨sampleValue, rfl, sampleValue_readable, sampleValue_fits⟩ _ ?_ ?_ _ (by decide)
  · decide
  · decide

end StudyDemo.Json
