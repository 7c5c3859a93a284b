import StudyDemo.Json.Progress

/-! # Texts with a zero at the end

`json_tokener_parse` does not know how long its text is. It reads up to the zero, and
two characters behind it when the zero counts as the last digit of an escape, and what
it finds there makes no difference: it gives what the text of a known length gives. -/

namespace StudyDemo.Json

open CMemory

variable {doubles : Doubles} {beyond : Text}

/-- A character with what is behind it in memory, and with what is behind it in the text
up to the zero. -/
inductive Ahead (beyond : Text) (c : Byte) (str str' : Text) : Prop
  | intro (left : Text) (noZero : 0 ∉ left) (inMemory : c :: str = left ++ 0 :: beyond)
      (inText : c :: str' = left ++ [0]) : Ahead beyond c str str'

section Reading

variable {c : Byte} {str str' : Text}

theorem Ahead.atZero (ahead : Ahead beyond 0 str str') : str = beyond ∧ str' = [] := by
  obtain ⟨left, noZero, inMemory, inText⟩ := ahead
  cases left with
  | nil => exact ⟨(List.cons.inj inMemory).2, (List.cons.inj inText).2⟩
  | cons first left =>
      have isZero := (List.cons.inj inMemory).1
      exact absurd (List.mem_cons.mpr (Or.inl isZero)) noZero

theorem Ahead.next (ahead : Ahead beyond c str str') (notZero : c ≠ 0) :
    ∃ next rest rest', str = next :: rest ∧ str' = next :: rest' ∧
      Ahead beyond next rest rest' := by
  obtain ⟨left, noZero, inMemory, inText⟩ := ahead
  cases left with
  | nil => exact absurd (List.cons.inj inMemory).1 notZero
  | cons first left =>
      obtain ⟨-, rfl⟩ := List.cons.inj inMemory
      obtain ⟨-, rfl⟩ := List.cons.inj inText
      have noZero : 0 ∉ left := fun member => noZero (List.mem_cons_of_mem first member)
      cases left with
      | nil => exact ⟨0, beyond, [], rfl, rfl, .intro [] noZero rfl rfl⟩
      | cons next left =>
          exact ⟨next, left ++ 0 :: beyond, left ++ [0], rfl, rfl,
            .intro (next :: left) noZero rfl rfl⟩

theorem pass_ahead (kind : Byte → Bool) (tok : Tokener doubles.Double)
    (ahead : Ahead beyond c str str') :
    (∃ passed, pass false kind tok c str = some (passed, .inl (tok, 0)) ∧
      pass true kind tok c str' = some (passed, .inl (tok, 0))) ∨
    ∃ passed next rest rest', Ahead beyond next rest rest' ∧
      pass false kind tok c str = some (passed, .inr (next, rest)) ∧
      pass true kind tok c str' = some (passed, .inr (next, rest')) := by
  induction length : str'.length generalizing c str str' with
  | zero =>
      have zero : c = 0 := by
        by_contra notZero
        obtain ⟨next, rest, rest', -, rfl, -⟩ := ahead.next notZero
        cases length
      subst zero
      cases isKind : kind 0 with
      | false =>
          exact Or.inr ⟨[], 0, str, str', ahead, pass_other isKind, pass_other isKind⟩
      | true =>
          refine Or.inl ⟨[0], ?_, ?_⟩
          · cases str <;> rw [pass, if_pos isKind, if_pos rfl]
          · cases str' <;> rw [pass, if_pos isKind, if_pos rfl]
  | succ length' induction =>
      have notZero : c ≠ 0 := by
        rintro rfl
        rw [ahead.atZero.2] at length
        cases length
      obtain ⟨next, rest, rest', rfl, rfl, ahead'⟩ := ahead.next notZero
      cases isKind : kind c with
      | false =>
          exact Or.inr ⟨[], c, _, _, ahead, pass_other isKind, pass_other isKind⟩
      | true =>
          rcases induction ahead' (Nat.succ.inj length) with
            ⟨passed, inMemory, inText⟩ | ⟨passed, next', rest, rest', ahead', inMemory, inText⟩
          · refine Or.inl ⟨c :: passed, ?_, ?_⟩
            · rw [pass, if_pos isKind, if_neg notZero, inMemory, Option.map_some]
            · rw [pass, if_pos isKind, if_neg notZero, inText, Option.map_some]
          · refine Or.inr ⟨c :: passed, next', rest, rest', ahead', ?_, ?_⟩
            · rw [pass, if_pos isKind, if_neg notZero, inMemory, Option.map_some]
            · rw [pass, if_pos isKind, if_neg notZero, inText, Option.map_some]

end Reading

/-! ## The same turns -/

/-- No value is complete, so a zero is an error. -/
def Tokener.Unfinished {Double : Type} (tok : Tokener Double) : Prop :=
  tok.top.state ≠ .finish ∧ tok.top.savedState ≠ .finish

/-- The turns that both texts lead to. They differ where the zero is the last digit of an
escape. -/
inductive SameTurn (beyond : Text) :
    Option (Turn doubles.Double) → Option (Turn doubles.Double) → Prop
  | redo {tok : Tokener doubles.Double} {obj : Value doubles.Double} {c : Byte}
      {str str' : Text} (ahead : Ahead beyond c str str') :
      SameTurn beyond (some (.redo tok obj c str)) (some (.redo tok obj c str'))
  | leave {tok : Tokener doubles.Double} {c : Byte} {str str' : Text}
      (ahead : Ahead beyond c str str') :
      SameTurn beyond (some (.leave tok c str)) (some (.leave tok c str'))
  | out {tok : Tokener doubles.Double} {c : Byte} :
      SameTurn beyond (some (.out tok c)) (some (.out tok c))
  | unfinished {tok tok' : Tokener doubles.Double} {str' : Text} (inMemory : tok.Unfinished)
      (inText : tok'.Unfinished) :
      SameTurn beyond (some (.out tok 0)) (some (.leave tok' 0 str'))

section Turns

variable {tok : Tokener doubles.Double} {obj : Value doubles.Double} {c : Byte}
variable {str str' : Text}

theorem pass_same {kind : Byte → Bool} (ahead : Ahead beyond c str str')
    {next : Text × (Tokener doubles.Double × Byte ⊕ Byte × Text) → Option (Turn doubles.Double)}
    (ends : ∀ passed, SameTurn beyond (next (passed, .inl (tok, 0))) (next (passed, .inl (tok, 0))))
    (stops : ∀ passed c rest rest', Ahead beyond c rest rest' →
      SameTurn beyond (next (passed, .inr (c, rest))) (next (passed, .inr (c, rest')))) :
    SameTurn beyond ((pass false kind tok c str).bind next)
      ((pass true kind tok c str').bind next) := by
  rcases pass_ahead kind tok ahead with
    ⟨passed, inMemory, inText⟩ | ⟨passed, c', rest, rest', ahead, inMemory, inText⟩
  · rw [inMemory, inText]
    exact ends passed
  · rw [inMemory, inText]
    exact stops passed c' rest rest' ahead

theorem turnEatws_same (ahead : Ahead beyond c str str') :
    SameTurn beyond (turnEatws false tok obj c str) (turnEatws true tok obj c str') := by
  refine pass_same ahead (fun _ => .out) fun passed c rest rest' ahead => ?_
  dsimp only
  split_ifs
  · exact .leave ahead
  · exact .redo ahead

theorem turnComment_same (ahead : Ahead beyond c str str') :
    SameTurn beyond (turnComment false tok c str) (turnComment true tok c str') :=
  pass_same ahead (fun _ => .out) fun _ _ _ _ ahead => .leave ahead

theorem turnCommentEol_same (ahead : Ahead beyond c str str') :
    SameTurn beyond (turnCommentEol false tok c str) (turnCommentEol true tok c str') :=
  pass_same ahead (fun _ => .out) fun _ _ _ _ ahead => .leave ahead

theorem turnString_same (ahead : Ahead beyond c str str') :
    SameTurn beyond (turnString false tok c str) (turnString true tok c str') := by
  refine pass_same ahead (fun _ => .out) fun passed c rest rest' ahead => ?_
  dsimp only
  split_ifs <;> exact .leave ahead

theorem turnObjectField_same (ahead : Ahead beyond c str str') :
    SameTurn beyond (turnObjectField false tok c str) (turnObjectField true tok c str') := by
  refine pass_same ahead (fun _ => .out) fun passed c rest rest' ahead => ?_
  dsimp only
  split_ifs <;> exact .leave ahead

theorem turnNumber_same (ahead : Ahead beyond c str str') :
    SameTurn beyond (turnNumber false tok obj c str) (turnNumber true tok obj c str') := by
  refine pass_same ahead (fun _ => .out) fun passed c rest rest' ahead => ?_
  dsimp only
  cases numberValue (tok.appendNumber passed) with
  | some value => exact .redo ahead
  | none => exact .out

/-- The digits that both texts lead to. -/
inductive SameDigit (tok : Tokener doubles.Double) (beyond : Text) (c : Byte) (str str' : Text) :
    Option (Digit doubles.Double) → Option (Digit doubles.Double) → Prop
  | turn {turn turn' : Turn doubles.Double} (same : SameTurn beyond (some turn) (some turn')) :
      SameDigit tok beyond c str str' (some (.turn turn)) (some (.turn turn'))
  | more (tok' : Tokener doubles.Double) (top : tok'.top = tok.top) :
      SameDigit tok beyond c str str' (some (.more tok')) (some (.more tok'))
  | second (tok' : Tokener doubles.Double) (top : tok'.top = tok.top) (notZero : c ≠ 0)
      {first second next : Byte} {rest rest' : Text}
      (inMemory : str = first :: second :: next :: rest)
      (inText : str' = first :: second :: next :: rest') (ahead : Ahead beyond next rest rest') :
      SameDigit tok beyond c str str' (some (.second tok')) (some (.second tok'))
  | zero (tok' tok'' : Tokener doubles.Double) (zero : c = 0)
      (inMemory : ∀ characters, (tok'.append characters).Unfinished)
      (inText : tok''.Unfinished) :
      SameDigit tok beyond c str str' (some (.second tok')) (some (.turn (.leave tok'' 0 str')))

theorem escapeFollows_same (ahead : Ahead beyond c str str') (notZero : c ≠ 0) :
    escapeFollows false str = some false ∧ escapeFollows true str' = some false ∨
      escapeFollows false str = some true ∧ escapeFollows true str' = some true ∧
        ∃ next rest rest', str = ascii '\\' :: ascii 'u' :: next :: rest ∧
          str' = ascii '\\' :: ascii 'u' :: next :: rest' ∧ Ahead beyond next rest rest' := by
  obtain ⟨first, rest, rest', rfl, rfl, atFirst⟩ := ahead.next notZero
  by_cases backslash : first = ascii '\\'
  · obtain ⟨second, rest, rest', rfl, rfl, atSecond⟩ := atFirst.next (by rw [backslash]; decide)
    by_cases isU : second = ascii 'u'
    · obtain ⟨third, rest, rest', rfl, rfl, atThird⟩ := atSecond.next (by rw [isU]; decide)
      subst backslash isU
      exact Or.inr ⟨rfl, rfl, third, rest, rest', rfl, rfl, atThird⟩
    · left
      simp [escapeFollows, backslash, isU]
  · left
    cases rest <;> cases rest' <;> simp [escapeFollows, backslash]

theorem combine_top (tok : Tokener doubles.Double) (hi : Option (BitVec 32)) :
    (tok.combine hi).top = tok.top := by
  cases hi with
  | none => rfl
  | some hi =>
      rw [Tokener.combine]
      split_ifs <;> rfl

/-- When the zero is the last digit of a high surrogate, what is behind it is looked at. -/
theorem digit_same (hi : Option (BitVec 32)) (room : 2 ≤ beyond.length)
    (isState : tok.top.state = .escapeUnicode)
    (saved : tok.top.savedState = .string ∨ tok.top.savedState = .objectField)
    (ahead : Ahead beyond c str str') :
    SameDigit tok beyond c str str' (digit false tok hi c str) (digit true tok hi c str') := by
  have top : ((tok.addDigit c).combine hi).top = tok.top := combine_top (tok.addDigit c) hi
  unfold digit
  split_ifs
  · dsimp only
    split_ifs
    · by_cases zero : c = 0
      · subst zero
        obtain ⟨rfl, rfl⟩ := ahead.atZero
        obtain ⟨follows, isFollows⟩ : ∃ follows, escapeFollows false str = some follows := by
          rcases str with _ | ⟨first, _ | ⟨second, str⟩⟩
          · cases room
          · exact absurd room (by simp)
          · exact ⟨_, rfl⟩
        rw [isFollows]
        cases follows with
        | false => exact .turn (.leave ahead)
        | true =>
            refine .zero _ _ rfl (fun characters => ?_) ?_
            · rw [Tokener.Unfinished, Tokener.append, top, isState]
              rcases saved with saved | saved <;> rw [saved] <;> decide
            · rw [Tokener.Unfinished, Tokener.setState, Tokener.append, top]
              rcases saved with saved | saved <;> simp [saved]
      · rcases escapeFollows_same ahead zero with
          ⟨inMemory, inText⟩ | ⟨inMemory, inText, next, rest, rest', isStr, isStr', ahead'⟩
        · rw [inMemory, inText]
          exact .turn (.leave ahead)
        · rw [inMemory, inText]
          exact .second _ top zero isStr isStr' ahead'
    · exact .turn (.leave ahead)
    · exact .more _ rfl
  · exact .turn .out

theorem turnEscapeUnicode_same {hi : Option (BitVec 32)} (room : 2 ≤ beyond.length)
    (isState : tok.top.state = .escapeUnicode)
    (saved : tok.top.savedState = .string ∨ tok.top.savedState = .objectField)
    (ahead : Ahead beyond c str str') :
    SameTurn beyond (turnEscapeUnicode false tok hi c str)
      (turnEscapeUnicode true tok hi c str') := by
  induction length : str'.length using Nat.strongRecOn generalizing tok hi c str str' with
  | ind n induction =>
  have digits := digit_same hi room isState saved ahead
  rw [turnEscapeUnicode, turnEscapeUnicode]
  generalize digit false tok hi c str = first at digits
  generalize digit true tok hi c str' = second at digits
  cases digits with
  | turn same => exact same
  | more tok' top =>
      dsimp only
      generalize (if hi = none then [] else utf8ReplacementChar) = replaced
      split_ifs with zero
      · exact .out
      · obtain ⟨next, rest, rest', rfl, rfl, ahead'⟩ := ahead.next zero
        exact induction rest'.length (by simp [← length]) (top ▸ isState) (top ▸ saved) ahead' rfl
  | second tok' top notZero isStr isStr' ahead' =>
      subst isStr isStr'
      dsimp only
      rw [if_neg notZero, if_neg notZero]
      refine induction _ ?_ (top ▸ isState) (top ▸ saved) ahead' rfl
      simp only [← length, List.length_cons]
      omega
  | zero tok' tok'' zero inMemory inText =>
      dsimp only
      rw [if_pos zero, zero]
      exact .unfinished (inMemory _) inText

theorem turn_same (room : 2 ≤ beyond.length) {limit : Nat} (wellFormed : WellFormed limit tok obj)
    (ahead : Ahead beyond c str str') :
    SameTurn beyond (turn false tok obj c str) (turn true tok obj c str') := by
  rw [turn, turn]
  cases isState : tok.top.state <;> dsimp only
  case eatws => exact turnEatws_same ahead
  case comment => exact turnComment_same ahead
  case commentEol => exact turnCommentEol_same ahead
  case string => exact turnString_same ahead
  case objectField => exact turnObjectField_same ahead
  case number => exact turnNumber_same ahead
  case escapeUnicode =>
    exact turnEscapeUnicode_same room isState (wellFormed.escape (isState ▸ trivial)) ahead
  case finish =>
    simp only [turnFinish]
    cases tok.below with
    | nil => exact .out
    | cons level below => exact .redo ahead
  case stringEscape =>
    simp only [turnStringEscape]
    split_ifs
    · exact .leave ahead
    · cases controlChar c <;> exact .leave ahead
    · cases controlChar c with
      | some control => exact .leave ahead
      | none => exact .out
  case arrayAdd => exact .redo ahead
  case objectValueAdd => exact .redo ahead
  all_goals
    simp only [turnStart, turnNull, turnBoolean, turnCommentStart, turnCommentEnd, turnArray,
      turnArraySep, turnObjectFieldStart, turnObjectFieldEnd, turnObjectValue, turnObjectSep]
    split_ifs <;> first | exact .leave ahead | exact .redo ahead | exact .out

end Turns

/-! ## The same runs -/

section Runs

inductive SamePlace (beyond : Text) : Place doubles.Double → Place doubles.Double → Prop
  | redo {tok : Tokener doubles.Double} {obj : Value doubles.Double} {c : Byte}
      {str str' : Text} (ahead : Ahead beyond c str str') :
      SamePlace beyond (.redo tok obj c str) (.redo tok obj c str')
  | out {tok : Tokener doubles.Double} {c : Byte} : SamePlace beyond (.out tok c) (.out tok c)
  | unfinished {tok tok' : Tokener doubles.Double} (inMemory : tok.Unfinished)
      (inText : tok'.Unfinished) : SamePlace beyond (.out tok 0) (.out tok' 0)

variable {limit : Nat} {place place' : Place doubles.Double}

theorem step_same (room : 2 ≤ beyond.length) (same : SamePlace beyond place place')
    (wellFormed : place.WellFormed limit) {next' : Place doubles.Double}
    (stepped : step true place' = some next') :
    ∃ next, step false place = some next ∧ SamePlace beyond next next' := by
  cases same with
  | out =>
      obtain rfl := Option.some.inj stepped
      exact ⟨_, rfl, .out⟩
  | unfinished inMemory inText =>
      obtain rfl := Option.some.inj stepped
      exact ⟨_, rfl, .unfinished inMemory inText⟩
  | @redo tok obj c str str' ahead =>
      have turns := turn_same room wellFormed ahead
      rw [step] at stepped ⊢
      generalize turn false tok obj c str = first at turns
      generalize turn true tok obj c str' = second at turns stepped
      cases turns with
      | redo ahead =>
          obtain rfl := Option.some.inj stepped
          exact ⟨_, rfl, .redo ahead⟩
      | out =>
          obtain rfl := Option.some.inj stepped
          exact ⟨_, rfl, .out⟩
      | unfinished inMemory inText =>
          obtain rfl := Option.some.inj stepped
          exact ⟨_, rfl, .unfinished inMemory inText⟩
      | @leave tok c str str' ahead =>
          simp only [Option.bind_eq_bind, Option.bind_some] at stepped ⊢
          by_cases zero : c = 0
          · rw [if_pos zero] at stepped ⊢
            obtain rfl := Option.some.inj stepped
            exact ⟨_, rfl, .out⟩
          · obtain ⟨next, rest, rest', rfl, rfl, atNext⟩ := ahead.next zero
            rw [if_neg zero] at stepped ⊢
            obtain rfl := Option.some.inj stepped
            exact ⟨_, rfl, .redo atNext⟩

theorem parseOut_unfinished {tok : Tokener doubles.Double} (unfinished : tok.Unfinished) :
    (parseOut tok 0).1.err = .parseEof ∧ (parseOut tok 0).2 = .null := by
  have isEof : (if (0 : Byte) = 0 ∧ tok.top.state ≠ .finish ∧ tok.top.savedState ≠ .finish then
      tok.fail .parseEof else tok) = tok.fail .parseEof := if_pos ⟨rfl, unfinished⟩
  unfold parseOut
  rw [isEof]
  exact ⟨rfl, rfl⟩

theorem parseOut_null {tok : Tokener doubles.Double} {c : Byte} :
    (parseOut tok c).1.err ≠ .success → (parseOut tok c).2 = .null := by
  unfold parseOut
  dsimp only
  split_ifs with eof success success
  · exact fun failed => absurd success failed
  · exact fun _ => rfl
  · exact fun failed => absurd success failed
  · exact fun _ => rfl

theorem SamePlace.outcome {fuel : Nat} {tok' : Tokener doubles.Double} {c' : Byte}
    (same : SamePlace beyond place (.out tok' c')) :
    ∃ tok c, parseLoop false fuel place = some (tok, c) ∧
      (parseOut tok c).1.err = (parseOut tok' c').1.err ∧
      (parseOut tok c).2 = (parseOut tok' c').2 := by
  cases same with
  | out => exact ⟨tok', c', parseLoop_out fuel tok' c', rfl, rfl⟩
  | @unfinished tok _ inMemory inText =>
      have first := parseOut_unfinished inMemory
      have second := parseOut_unfinished inText
      exact ⟨tok, 0, parseLoop_out fuel tok 0, first.1.trans second.1.symm,
        first.2.trans second.2.symm⟩

theorem parseLoop_same (room : 2 ≤ beyond.length) (same : SamePlace beyond place place')
    (wellFormed : place.WellFormed limit) {fuel fuel' : Nat} (enough : place.work ≤ fuel)
    {tok' : Tokener doubles.Double} {c' : Byte}
    (ends : parseLoop true fuel' place' = some (tok', c')) :
    ∃ tok c, parseLoop false fuel place = some (tok, c) ∧
      (parseOut tok c).1.err = (parseOut tok' c').1.err ∧
      (parseOut tok c).2 = (parseOut tok' c').2 := by
  induction fuel' generalizing place place' fuel with
  | zero =>
      cases place' with
      | redo => cases ends
      | out =>
          obtain ⟨rfl, rfl⟩ := Prod.mk.inj (Option.some.inj ends)
          exact same.outcome
  | succ fuel' induction =>
      cases place' with
      | out =>
          obtain ⟨rfl, rfl⟩ := Prod.mk.inj (Option.some.inj ends)
          exact same.outcome
      | redo tok obj c str' =>
          obtain ⟨next', stepped', ends⟩ := Option.bind_eq_some_iff.mp ends
          obtain ⟨next, stepped, sameNext⟩ := step_same room same wellFormed stepped'
          have after := step_wellFormed wellFormed stepped
          cases same with
          | redo ahead =>
              have less := after.2 (Nat.succ_pos _)
              cases fuel with
              | zero => exact absurd enough (Nat.not_le_of_lt (Nat.succ_pos _))
              | succ fuel =>
                  rw [parseLoop, stepped]
                  exact induction sameNext after.1 (by omega) ends

end Runs

/-- What the main loop makes of a text of a known length with a zero at its end is what
`json_tokener_parse` makes of the C string. -/
theorem parseVerbose_same {text beyond : Text} (noZero : 0 ∉ text) (room : 2 ≤ beyond.length)
    {c c' : Byte} {str' : Text} (isText : text ++ [0] = c :: str') {fuel : Nat}
    {tok' : Tokener doubles.Double}
    (looped : parseLoop true fuel
      (.redo ((jsonTokenerNewEx jsonTokenerDefaultDepth).fail .success) .null c str') =
      some (tok', c')) :
    jsonTokenerParseVerbose doubles (text ++ 0 :: beyond) =
      some ((parseOut tok' c').1.err, (parseOut tok' c').2) := by
  obtain ⟨str, isMemory, ahead⟩ : ∃ str, text ++ 0 :: beyond = c :: str ∧
      Ahead beyond c str str' := by
    cases text with
    | nil =>
        obtain ⟨rfl, rfl⟩ := List.cons.inj isText
        exact ⟨beyond, rfl, .intro [] noZero rfl rfl⟩
    | cons first text =>
        obtain ⟨rfl, rfl⟩ := List.cons.inj isText
        exact ⟨text ++ 0 :: beyond, rfl, .intro (first :: text) noZero rfl rfl⟩
  obtain ⟨tok'', c'', looped', sameErr, sameObj⟩ := parseLoop_same room (.redo ahead)
    ((default_wellFormed .null).fail .success) (work_le _ _ _) looped
  rw [jsonTokenerParseVerbose, isMemory, jsonTokenerParseEx]
  dsimp only
  rw [looped']
  simp only [Option.bind_eq_bind, Option.bind_some, sameErr, sameObj]
  split_ifs with success
  · rfl
  · rw [parseOut_null success]

/-- `json_tokener_parse` returns for every C string, with two characters behind its zero that
may be read and do not matter. It gives the error and the value of the text with its zero
as a text of a known length, the value fits into the tokener's stack, and no switch of the
call leaves the stack. -/
theorem c_string_is_parsed (doubles : Doubles) {text beyond : Text} (noZero : 0 ∉ text)
    (room : 2 ≤ beyond.length) :
    ∃ tok obj,
      jsonTokenerParseEx true (jsonTokenerNewEx jsonTokenerDefaultDepth : Tokener doubles.Double)
        (text ++ [0]) = some (tok, obj) ∧
      jsonTokenerParseVerbose doubles (text ++ 0 :: beyond) = some (tok.err, obj) ∧
      Fits jsonTokenerDefaultDepth 0 obj ∧
      ∀ place, Reaches false (.standing ((jsonTokenerNewEx jsonTokenerDefaultDepth :
          Tokener doubles.Double).fail .success) .null (text ++ 0 :: beyond)) place →
        place.depth < jsonTokenerDefaultDepth := by
  obtain ⟨tok, obj, ends⟩ := parseEx_bounded default_wellFormed (text ++ [0])
  refine ⟨tok, obj, ends, ?_, parseEx_fits default_wellFormed ends, ?_⟩
  · obtain ⟨c, str', isText⟩ := List.exists_cons_of_ne_nil (show text ++ [0] ≠ [] by simp)
    rw [isText, jsonTokenerParseEx] at ends
    obtain ⟨⟨tok', c'⟩, looped, isOut⟩ := Option.bind_eq_some_iff.mp ends
    have parsed : parseOut tok' c' = (tok, obj) := Option.some.inj isOut
    have same := parseVerbose_same noZero room isText looped
    rw [parsed] at same
    exact same
  · intro place reaches
    apply Place.WellFormed.depth_lt
    apply reaches.wellFormed
    obtain ⟨c, str, isText⟩ := List.exists_cons_of_ne_nil (show text ++ 0 :: beyond ≠ [] by simp)
    rw [isText]
    exact (default_wellFormed .null).fail .success

/-- The zero becomes the last digit of a high surrogate, and `\u` stands behind it. -/
theorem c_string_is_parsed_cut :
    ∃ tok obj,
      jsonTokenerParseEx true (jsonTokenerNewEx jsonTokenerDefaultDepth :
      Tokener textDoubles.Double)
        (text ['[', '"', '\\', 'u', 'd', 'a', 'f'] ++ [0]) = some (tok, obj) ∧
      jsonTokenerParseVerbose textDoubles
        (text ['[', '"', '\\', 'u', 'd', 'a', 'f'] ++ 0 :: text ['\\', 'u']) =
        some (tok.err, obj) ∧
      Fits jsonTokenerDefaultDepth 0 obj ∧
      ∀ place, Reaches false (.standing ((jsonTokenerNewEx jsonTokenerDefaultDepth :
          Tokener textDoubles.Double).fail .success) .null
          (text ['[', '"', '\\', 'u', 'd', 'a', 'f'] ++ 0 :: text ['\\', 'u'])) place →
        place.depth < jsonTokenerDefaultDepth :=
  c_string_is_parsed textDoubles (by decide) (by decide)

end StudyDemo.Json
