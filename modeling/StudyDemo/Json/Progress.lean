import Mathlib.Data.List.Basic
import Mathlib.Logic.Relation
import StudyDemo.Json.Shapes

/-! # The tokener comes to an end

Each switch of the main loop passes a character or comes closer to one that does, so a
text of any length is read in a number of switches that its length bounds, and the
levels never leave the tokener's stack. -/

namespace StudyDemo.Json

open CMemory

/-! ## Loops over characters of a kind -/

section Passing

variable {doubles : Doubles} {bounded : Bool} {kind : Byte → Bool}
variable {tok : Tokener doubles.Double} {c : Byte} {str : Text}

/-- How such a loop can end: at another character, at a zero of the kind, or with the
text. -/
inductive Passed (bounded : Bool) (kind : Byte → Bool) (tok : Tokener doubles.Double) :
    Byte → Text → Option (Text × (Tokener doubles.Double × Byte ⊕ Byte × Text)) → Prop
  | stopped {c : Byte} {str : Text} (passed : Text) (c' : Byte) (str' : Text)
      (split : c :: str = passed ++ c' :: str') (kinds : ∀ x ∈ passed, kind x ∧ x ≠ 0)
      (other : kind c' = false) : Passed bounded kind tok c str (some (passed, .inr (c', str')))
  | zero {c : Byte} {str : Text} (passed str' : Text) (split : c :: str = passed ++ 0 :: str')
      (kinds : ∀ x ∈ passed, kind x ∧ x ≠ 0) (isKind : kind 0) :
      Passed bounded kind tok c str (some (passed ++ [0], .inl (tok, 0)))
  | ended {c : Byte} {str : Text} (last : Byte) (kinds : ∀ x ∈ c :: str, kind x ∧ x ≠ 0)
      (isLast : (c :: str).getLast? = some last) :
      Passed bounded kind tok c str
        ((atEnd bounded tok).map fun tok => (c :: str, .inl (tok, last)))

theorem pass_passed (bounded : Bool) (kind : Byte → Bool) (tok : Tokener doubles.Double)
    (c : Byte) (str : Text) : Passed bounded kind tok c str (pass bounded kind tok c str) := by
  induction str generalizing c with
  | nil =>
      rw [pass]
      split_ifs with isKind zero
      · subst zero
        exact .zero [] [] rfl nofun isKind
      · exact .ended c (by simpa using ⟨isKind, zero⟩) rfl
      · exact .stopped [] c [] rfl nofun (by simpa using isKind)
  | cons next str induction =>
      rw [pass]
      split_ifs with isKind zero
      · subst zero
        exact .zero [] (next :: str) rfl nofun isKind
      · have longer : ∀ passed : Text, (∀ x ∈ passed, kind x ∧ x ≠ 0) →
            ∀ x ∈ c :: passed, kind x ∧ x ≠ 0 := by
          intro passed kinds x member
          rcases List.mem_cons.mp member with rfl | member
          · exact ⟨isKind, zero⟩
          · exact kinds x member
        have ends := induction next
        generalize pass bounded kind tok next str = result at ends
        cases ends with
        | stopped passed c' str' split kinds other =>
            exact .stopped (c :: passed) c' str' (by rw [split]; rfl) (longer passed kinds) other
        | zero passed str' split kinds isZero =>
            exact .zero (c :: passed) str' (by rw [split]; rfl) (longer passed kinds) isZero
        | ended last kinds isLast =>
            rw [Option.map_map]
            exact .ended last (longer _ kinds) (by rw [List.getLast?_cons_cons, isLast])
      · exact .stopped [] c (next :: str) rfl nofun (by simpa using isKind)

theorem pass_other (other : kind c = false) :
    pass bounded kind tok c str = some ([], .inr (c, str)) := by
  cases str <;> simp [pass, other]

theorem pass_some
    {result : Text × (Tokener doubles.Double × Byte ⊕ Byte × Text)}
    (isResult : pass bounded kind tok c str = some result) :
    (∃ passed err c', result = (passed, .inl (tok.fail err, c'))) ∨
      ∃ passed c' str', result = (passed, .inr (c', str')) ∧ c :: str = passed ++ c' :: str' ∧
        (∀ x ∈ passed, kind x ∧ x ≠ 0) ∧ kind c' = false := by
  have passed := pass_passed bounded kind tok c str
  rw [isResult] at passed
  generalize same : some result = ends at passed
  cases passed with
  | stopped passed c' str' split kinds other =>
      exact Or.inr ⟨passed, c', str', Option.some.inj same, split, kinds, other⟩
  | zero passed str' split kinds isKind =>
      exact Or.inl ⟨passed ++ [0], tok.err, 0, Option.some.inj same⟩
  | ended last kinds isLast =>
      rw [atEnd] at same
      split_ifs at same
      · exact Or.inl ⟨c :: str, tok.peekError, last, Option.some.inj same⟩
      · simp at same

theorem length_of_split {passed str' : Text} {c' : Byte}
    (split : c :: str = passed ++ c' :: str') : str.length = passed.length + str'.length := by
  have lengths := congrArg List.length split
  simp only [List.length_cons, List.length_append] at lengths
  omega

end Passing

/-! ## Ranks -/

/-- How many switches a state may take before one that passes a character. -/
def TokenerState.rank : TokenerState → Nat
  | .arrayAdd => 2
  | .objectValueAdd => 2
  | .finish => 3
  | .number => 5
  | .null => 5
  | .boolean => 5
  | .start => 6
  | .array => 8
  | .arrayAfterSep => 8
  | .objectValue => 8
  | _ => 0

/-- The states that wait for a value of the level above. -/
def TokenerState.Adds (state : TokenerState) : Prop := state = .arrayAdd ∨ state = .objectValueAdd

instance (state : TokenerState) : Decidable state.Adds := inferInstanceAs (Decidable (_ ∨ _))

/-- The states within an escape. -/
def TokenerState.Escapes : TokenerState → Prop
  | .stringEscape => True
  | .escapeUnicode => True
  | _ => False

theorem TokenerState.Adds.not_escapes {state : TokenerState} (adds : state.Adds) :
    ¬state.Escapes := by
  rcases adds with rfl | rfl <;> exact id

instance (state : TokenerState) : Decidable state.Escapes := by
  cases state <;> first | exact isTrue trivial | exact isFalse id

/-- The states that may follow white space. -/
def TokenerState.Resumes (state : TokenerState) : Prop :=
  state ≠ .eatws ∧ ¬state.Adds ∧ ¬state.Escapes

instance (state : TokenerState) : Decidable state.Resumes :=
  inferInstanceAs (Decidable (_ ∧ _ ∧ _))

namespace Tokener

variable {Double : Type} (tok : Tokener Double)

def rank : Nat :=
  if tok.top.state = .eatws then tok.top.savedState.rank + 1 else tok.top.state.rank

theorem rank_le : tok.rank ≤ 9 := by
  rw [rank]
  split_ifs
  · cases tok.top.savedState <;> simp [TokenerState.rank]
  · cases tok.top.state <;> simp [TokenerState.rank]

end Tokener

/-- What is left to do. -/
def Place.work {Double : Type} : Place Double → Nat
  | .out _ _ => 0
  | .redo tok _ _ str => switches * str.length + tok.rank + 1

/-! ## What holds between switches -/

section Levels

variable {Double : Type}

/-- The value and the name of a level fit into its place on the stack. -/
structure Srec.Fits (maxDepth depth : Nat) (level : Srec Double) : Prop where
  current : Json.Fits maxDepth depth level.current
  name : 0 ∉ level.objFieldName

def LevelsFit (maxDepth : Nat) : List (Srec Double) → Prop
  | [] => True
  | level :: below => level.Fits maxDepth below.length ∧ LevelsFit maxDepth below

/-- The tokener stands within its stack, whose levels hold values that fit, the levels
below wait for the one above, and an escape belongs to a string or a name. -/
structure WellFormed (limit : Nat) (tok : Tokener Double) (obj : Value Double) : Prop where
  isLimit : tok.maxDepth = limit
  inside : tok.depth < tok.maxDepth
  saved : tok.top.savedState.Resumes
  escape : tok.top.state.Escapes →
    tok.top.savedState = .string ∨ tok.top.savedState = .objectField
  top : tok.top.Fits tok.maxDepth tok.depth
  below : ∀ level ∈ tok.below, level.state.Adds ∧ level.savedState.Resumes
  levels : LevelsFit tok.maxDepth tok.below
  obj : tok.top.state.Adds → Fits tok.maxDepth (tok.depth + 1) obj

end Levels

/-! ## One switch -/

section Turns

variable {doubles : Doubles} {bounded : Bool} {limit : Nat}
variable {tok : Tokener doubles.Double} {obj : Value doubles.Double} {c : Byte} {str : Text}

/-- A turn keeps what holds between switches, passes characters only forwards and comes
closer to the end. -/
inductive Goes (limit : Nat) (tok : Tokener doubles.Double) (str : Text) : Turn doubles.Double →
    Prop
  | redo {tok' : Tokener doubles.Double} {obj : Value doubles.Double} {c : Byte} {str' : Text}
      (wellFormed : WellFormed limit tok' obj) (shorter : str'.length ≤ str.length)
      (less : str'.length < str.length ∨ tok'.rank < tok.rank) :
      Goes limit tok str (.redo tok' obj c str')
  | leave {tok' : Tokener doubles.Double} {c : Byte} {str' : Text}
      (wellFormed : ∀ obj, WellFormed limit tok' obj) (shorter : str'.length ≤ str.length) :
      Goes limit tok str (.leave tok' c str')
  | out {tok' : Tokener doubles.Double} {c : Byte} (wellFormed : ∀ obj, WellFormed limit tok' obj) :
      Goes limit tok str (.out tok' c)

theorem WellFormed.change (wellFormed : WellFormed limit tok obj) {tok' : Tokener doubles.Double}
    (state saved : TokenerState) {current : Value doubles.Double} {name : Text}
    (notAdds : ¬state.Adds) (resumes : saved.Resumes)
    (fits : Fits tok.maxDepth tok.depth current) (noZero : 0 ∉ name)
    {obj' : Value doubles.Double}
    (escape : state.Escapes → saved = .string ∨ saved = .objectField)
    (top : tok'.top = ⟨state, saved, current, name⟩)
    (below : tok'.below = tok.below) (maxDepth : tok'.maxDepth = tok.maxDepth) :
    WellFormed limit tok' obj' := by
  have depth : tok'.depth = tok.depth := congrArg List.length below
  refine ⟨?_, ?_, ?_, ?_, ?_, ?_, ?_, ?_⟩
  · rw [maxDepth]
    exact wellFormed.isLimit
  · rw [depth, maxDepth]
    exact wellFormed.inside
  · rw [top]
    exact resumes
  · rw [top]
    exact escape
  · rw [depth, maxDepth, top]
    exact ⟨fits, noZero⟩
  · rw [below]
    exact wellFormed.below
  · rw [below, maxDepth]
    exact wellFormed.levels
  · rw [top]
    exact fun adds => absurd adds notAdds

theorem WellFormed.go (wellFormed : WellFormed limit tok obj) {tok' : Tokener doubles.Double}
    (state saved : TokenerState) (notAdds : ¬state.Adds) (resumes : saved.Resumes)
    {obj' : Value doubles.Double}
    (escape : state.Escapes → saved = .string ∨ saved = .objectField)
    (top : tok'.top = ⟨state, saved, tok.top.current, tok.top.objFieldName⟩)
    (below : tok'.below = tok.below) (maxDepth : tok'.maxDepth = tok.maxDepth) :
    WellFormed limit tok' obj' :=
  wellFormed.change state saved notAdds resumes wellFormed.top.current wellFormed.top.name escape
    top below maxDepth

theorem WellFormed.eat (wellFormed : WellFormed limit tok obj) (saved : TokenerState)
    (resumes : saved.Resumes) {obj' : Value doubles.Double} :
    WellFormed limit (tok.eat saved) obj' :=
  wellFormed.go .eatws saved (by decide) resumes nofun rfl rfl rfl

theorem WellFormed.keep (wellFormed : WellFormed limit tok obj) {tok' : Tokener doubles.Double}
    (notAdds : ¬tok.top.state.Adds) {obj' : Value doubles.Double}
    (top : tok'.top = tok.top) (below : tok'.below = tok.below)
    (maxDepth : tok'.maxDepth = tok.maxDepth) : WellFormed limit tok' obj' :=
  wellFormed.go tok.top.state tok.top.savedState notAdds wellFormed.saved wellFormed.escape top
    below maxDepth

theorem WellFormed.resume (wellFormed : WellFormed limit tok obj) {tok' : Tokener doubles.Double}
    {obj' : Value doubles.Double}
    (top : tok'.top = { tok.top with state := tok.top.savedState })
    (below : tok'.below = tok.below) (maxDepth : tok'.maxDepth = tok.maxDepth) :
    WellFormed limit tok' obj' :=
  wellFormed.go tok.top.savedState tok.top.savedState wellFormed.saved.2.1 wellFormed.saved
    (fun escapes => absurd escapes wellFormed.saved.2.2) top below maxDepth

theorem WellFormed.fail (wellFormed : WellFormed limit tok obj) (err : TokenerError) :
    WellFormed limit (tok.fail err) obj :=
  ⟨wellFormed.isLimit, wellFormed.inside, wellFormed.saved, wellFormed.escape, wellFormed.top,
    wellFormed.below, wellFormed.levels, wellFormed.obj⟩

theorem WellFormed.fits_scalar (wellFormed : WellFormed limit tok obj)
    (value : Value doubles.Double)
    (height : value.height = 0) (keyed : value.Keyed) : Fits tok.maxDepth tok.depth value :=
  ⟨by have := wellFormed.inside; omega, keyed⟩

theorem turnEatws_goes (wellFormed : WellFormed limit tok obj) (isState : tok.top.state = .eatws)
    {turn : Turn doubles.Double} (turned : turnEatws bounded tok obj c str = some turn) :
    Goes limit tok str turn := by
  have notAdds : ¬tok.top.state.Adds := by rw [isState]; decide
  have saved := wellFormed.saved
  obtain ⟨result, isResult, turned⟩ := Option.bind_eq_some_iff.mp turned
  rcases pass_some isResult with ⟨passed, err, c', rfl⟩ | ⟨passed, c', str', rfl, split, -, -⟩
  · obtain rfl := Option.some.inj turned
    exact .out (fun _ => wellFormed.keep notAdds rfl rfl rfl)
  · have length := length_of_split split
    dsimp only at turned
    split_ifs at turned with comment
    · obtain rfl := Option.some.inj turned
      exact .leave (fun _ => wellFormed.go .commentStart _ (by decide) saved nofun
        rfl rfl rfl) (by omega)
    · obtain rfl := Option.some.inj turned
      refine .redo (wellFormed.resume rfl rfl rfl) (by omega) (Or.inr ?_)
      simp [Tokener.rank, Tokener.setState, saved.1, isState]

theorem turnComment_goes (wellFormed : WellFormed limit tok obj)
    (isState : tok.top.state = .comment)
    {turn : Turn doubles.Double} (turned : turnComment bounded tok c str = some turn) :
    Goes limit tok str turn := by
  have notAdds : ¬tok.top.state.Adds := by rw [isState]; decide
  obtain ⟨result, isResult, turned⟩ := Option.bind_eq_some_iff.mp turned
  rcases pass_some isResult with ⟨passed, err, c', rfl⟩ | ⟨passed, c', str', rfl, split, -, -⟩
  · obtain rfl := Option.some.inj turned
    exact .out (fun _ => wellFormed.keep notAdds rfl rfl rfl)
  · have length := length_of_split split
    obtain rfl := Option.some.inj turned
    exact .leave (fun _ => wellFormed.go .commentEnd _ (by decide) wellFormed.saved nofun
      rfl rfl rfl) (by omega)

theorem turnCommentEol_goes (wellFormed : WellFormed limit tok obj)
    (isState : tok.top.state = .commentEol) {turn : Turn doubles.Double}
    (turned : turnCommentEol bounded tok c str = some turn) : Goes limit tok str turn := by
  have notAdds : ¬tok.top.state.Adds := by rw [isState]; decide
  obtain ⟨result, isResult, turned⟩ := Option.bind_eq_some_iff.mp turned
  rcases pass_some isResult with ⟨passed, err, c', rfl⟩ | ⟨passed, c', str', rfl, split, -, -⟩
  · obtain rfl := Option.some.inj turned
    exact .out (fun _ => wellFormed.keep notAdds rfl rfl rfl)
  · have length := length_of_split split
    obtain rfl := Option.some.inj turned
    exact .leave (fun _ => wellFormed.go .eatws _ (by decide) wellFormed.saved nofun
      rfl rfl rfl) (by omega)

theorem turnString_goes (wellFormed : WellFormed limit tok obj) (isState : tok.top.state = .string)
    {turn : Turn doubles.Double} (turned : turnString bounded tok c str = some turn) :
    Goes limit tok str turn := by
  have notAdds : ¬tok.top.state.Adds := by rw [isState]; decide
  obtain ⟨result, isResult, turned⟩ := Option.bind_eq_some_iff.mp turned
  rcases pass_some isResult with ⟨passed, err, c', rfl⟩ | ⟨passed, c', str', rfl, split, -, -⟩
  · obtain rfl := Option.some.inj turned
    exact .out (fun _ => wellFormed.keep notAdds rfl rfl rfl)
  · have length := length_of_split split
    dsimp only at turned
    split_ifs at turned with quote
    · obtain rfl := Option.some.inj turned
      exact .leave (fun _ => wellFormed.change .eatws .finish (by decide) (by decide)
        (wellFormed.fits_scalar (.string _) rfl trivial) wellFormed.top.name
        nofun rfl rfl rfl) (by omega)
    · obtain rfl := Option.some.inj turned
      exact .leave (fun _ => wellFormed.go .stringEscape .string (by decide) (by decide)
        (fun _ => Or.inl rfl) rfl rfl rfl) (by omega)

theorem turnObjectField_goes (wellFormed : WellFormed limit tok obj)
    (isState : tok.top.state = .objectField) {turn : Turn doubles.Double}
    (turned : turnObjectField bounded tok c str = some turn) : Goes limit tok str turn := by
  have notAdds : ¬tok.top.state.Adds := by rw [isState]; decide
  obtain ⟨result, isResult, turned⟩ := Option.bind_eq_some_iff.mp turned
  rcases pass_some isResult with ⟨passed, err, c', rfl⟩ | ⟨passed, c', str', rfl, split, -, -⟩
  · obtain rfl := Option.some.inj turned
    exact .out (fun _ => wellFormed.keep notAdds rfl rfl rfl)
  · have length := length_of_split split
    dsimp only at turned
    split_ifs at turned with quote
    · obtain rfl := Option.some.inj turned
      refine .leave (fun _ => wellFormed.change .eatws .objectFieldEnd (by decide) (by decide)
        wellFormed.top.current ?_ nofun rfl rfl rfl) (by omega)
      exact fun member => by simpa using List.mem_takeWhile_imp member
    · obtain rfl := Option.some.inj turned
      exact .leave (fun _ => wellFormed.go .stringEscape .objectField (by decide) (by decide)
        (fun _ => Or.inr rfl) rfl rfl rfl) (by omega)

theorem numberValue_scalar {value : Value doubles.Double} (isValue : numberValue tok = some value) :
    value.height = 0 ∧ value.Keyed := by
  rw [numberValue] at isValue
  split_ifs at isValue
  · obtain ⟨number, -, rfl⟩ := Option.map_eq_some_iff.mp isValue
    exact ⟨rfl, trivial⟩
  · obtain ⟨number, -, rfl⟩ := Option.map_eq_some_iff.mp isValue
    exact ⟨rfl, trivial⟩

theorem turnNumber_goes (wellFormed : WellFormed limit tok obj) (isState : tok.top.state = .number)
    {turn : Turn doubles.Double} (turned : turnNumber bounded tok obj c str = some turn) :
    Goes limit tok str turn := by
  have notAdds : ¬tok.top.state.Adds := by rw [isState]; decide
  obtain ⟨result, isResult, turned⟩ := Option.bind_eq_some_iff.mp turned
  rcases pass_some isResult with ⟨passed, err, c', rfl⟩ | ⟨passed, c', str', rfl, split, -, -⟩
  · obtain rfl := Option.some.inj turned
    exact .out (fun _ => wellFormed.keep notAdds rfl rfl rfl)
  · have length := length_of_split split
    dsimp only at turned
    cases isValue : numberValue (tok.appendNumber passed) with
    | some value =>
        simp only [isValue, Option.some.injEq] at turned
        subst turned
        have scalar := numberValue_scalar isValue
        refine .redo (wellFormed.change .eatws .finish (by decide) (by decide)
          (wellFormed.fits_scalar value scalar.1 scalar.2) wellFormed.top.name
          nofun rfl rfl rfl) (by omega)
          (Or.inr ?_)
        simp [Tokener.rank, Tokener.eat, isState, TokenerState.rank]
    | none =>
        simp only [isValue, Option.some.injEq] at turned
        subst turned
        exact .out (fun _ => wellFormed.keep notAdds rfl rfl rfl)

theorem turnStart_goes (wellFormed : WellFormed limit tok obj) (isState : tok.top.state = .start) :
    Goes limit tok str (turnStart tok obj c str) := by
  have saved := wellFormed.saved
  have less : TokenerState.rank .null < tok.rank := by
    simp [Tokener.rank, isState, TokenerState.rank]
  rw [turnStart]
  split_ifs
  · exact .leave (fun _ => wellFormed.change .eatws .objectFieldStart (by decide) (by decide)
      (wellFormed.fits_scalar (.object []) rfl ⟨List.nodup_nil, trivial⟩) wellFormed.top.name
      nofun rfl rfl rfl) (Nat.le_refl _)
  · exact .leave (fun _ => wellFormed.change .eatws .array (by decide) (by decide)
      (wellFormed.fits_scalar (.array []) rfl trivial) wellFormed.top.name
      nofun rfl rfl rfl) (Nat.le_refl _)
  · exact .redo (wellFormed.go .null _ (by decide) saved nofun rfl rfl rfl) (Nat.le_refl _)
      (Or.inr less)
  · exact .leave (fun _ => wellFormed.go .string _ (by decide) saved nofun
      rfl rfl rfl) (Nat.le_refl _)
  · exact .redo (wellFormed.go .boolean _ (by decide) saved nofun rfl rfl rfl) (Nat.le_refl _)
      (Or.inr less)
  · exact .redo (wellFormed.go .number _ (by decide) saved nofun rfl rfl rfl) (Nat.le_refl _)
      (Or.inr less)
  · exact .out (fun _ => wellFormed.keep (by rw [isState]; decide) rfl rfl rfl)

theorem turnFinish_goes (wellFormed : WellFormed limit tok obj)
    (isState : tok.top.state = .finish) :
    Goes limit tok str (turnFinish tok c str) := by
  have waits := wellFormed.below
  have levels := wellFormed.levels
  have inside := wellFormed.inside
  have current := wellFormed.top.current
  rw [turnFinish]
  cases isBelow : tok.below with
  | nil => exact .out (fun _ => wellFormed.keep (by rw [isState]; decide) rfl rfl rfl)
  | cons level below =>
      rw [isBelow] at waits levels
      have adds := waits level List.mem_cons_self
      have depth : tok.depth = below.length + 1 := by rw [Tokener.depth, isBelow, List.length_cons]
      rw [depth] at inside current
      refine .redo ⟨wellFormed.isLimit, Nat.lt_of_succ_lt inside, adds.2,
        fun escapes => absurd escapes adds.1.not_escapes, levels.1,
        fun other member => waits other (List.mem_cons_of_mem level member), levels.2,
        fun _ => current⟩ (Nat.le_refl _) (Or.inr ?_)
      rcases adds.1 with isAdd | isAdd <;> simp [Tokener.rank, isAdd, isState, TokenerState.rank]

theorem turnNull_goes (wellFormed : WellFormed limit tok obj) (isState : tok.top.state = .null) :
    Goes limit tok str (turnNull tok obj c str) := by
  have notAdds : ¬tok.top.state.Adds := by rw [isState]; decide
  simp only [turnNull]
  split_ifs
  · refine .redo (wellFormed.change .eatws .finish (by decide) (by decide)
      (wellFormed.fits_scalar .null rfl trivial) wellFormed.top.name
      nofun rfl rfl rfl) (Nat.le_refl _) (Or.inr ?_)
    simp [Tokener.rank, Tokener.eat, isState, TokenerState.rank]
  · exact .leave (fun _ => wellFormed.keep notAdds rfl rfl rfl) (Nat.le_refl _)
  · exact .out (fun _ => wellFormed.keep notAdds rfl rfl rfl)

theorem turnBoolean_goes (wellFormed : WellFormed limit tok obj)
    (isState : tok.top.state = .boolean) :
    Goes limit tok str (turnBoolean tok obj c str) := by
  have notAdds : ¬tok.top.state.Adds := by rw [isState]; decide
  have less : TokenerState.rank .finish + 1 < tok.rank := by
    simp [Tokener.rank, isState, TokenerState.rank]
  simp only [turnBoolean]
  split_ifs
  · exact .redo (wellFormed.change .eatws .finish (by decide) (by decide)
      (wellFormed.fits_scalar (.boolean _) rfl trivial) wellFormed.top.name
      nofun rfl rfl rfl) (Nat.le_refl _) (Or.inr less)
  · exact .leave (fun _ => wellFormed.keep notAdds rfl rfl rfl) (Nat.le_refl _)
  · exact .redo (wellFormed.change .eatws .finish (by decide) (by decide)
      (wellFormed.fits_scalar (.boolean _) rfl trivial) wellFormed.top.name
      nofun rfl rfl rfl) (Nat.le_refl _) (Or.inr less)
  · exact .leave (fun _ => wellFormed.keep notAdds rfl rfl rfl) (Nat.le_refl _)
  · exact .out (fun _ => wellFormed.keep notAdds rfl rfl rfl)

theorem turnCommentStart_goes (wellFormed : WellFormed limit tok obj)
    (isState : tok.top.state = .commentStart) :
    Goes limit tok str (turnCommentStart tok c str) := by
  have saved := wellFormed.saved
  rw [turnCommentStart]
  split_ifs
  · exact .leave (fun _ => wellFormed.go .comment _ (by decide) saved nofun
      rfl rfl rfl) (Nat.le_refl _)
  · exact .leave (fun _ => wellFormed.go .commentEol _ (by decide) saved nofun
      rfl rfl rfl) (Nat.le_refl _)
  · exact .out (fun _ => wellFormed.keep (by rw [isState]; decide) rfl rfl rfl)

theorem turnCommentEnd_goes (wellFormed : WellFormed limit tok obj) :
    Goes limit tok str (turnCommentEnd tok c str) := by
  have saved := wellFormed.saved
  rw [turnCommentEnd]
  split_ifs
  · exact .leave (fun _ => wellFormed.go .eatws _ (by decide) saved nofun
      rfl rfl rfl) (Nat.le_refl _)
  · exact .leave (fun _ => wellFormed.go .comment _ (by decide) saved nofun
      rfl rfl rfl) (Nat.le_refl _)

theorem turnStringEscape_goes (wellFormed : WellFormed limit tok obj)
    (isState : tok.top.state = .stringEscape) :
    Goes limit tok str (turnStringEscape tok c str) := by
  have saved := wellFormed.saved
  rw [turnStringEscape]
  split_ifs
  · exact .leave (fun _ => wellFormed.resume rfl rfl rfl) (Nat.le_refl _)
  · cases controlChar c with
    | some control =>
        exact .leave (fun _ => wellFormed.resume rfl rfl rfl) (Nat.le_refl _)
    | none =>
        exact .leave (fun _ => wellFormed.go .escapeUnicode _ (by decide) saved (fun _ =>
          wellFormed.escape (isState ▸ trivial)) rfl rfl rfl) (Nat.le_refl _)
  · cases controlChar c with
    | some control =>
        exact .leave (fun _ => wellFormed.resume rfl rfl rfl) (Nat.le_refl _)
    | none => exact .out (fun _ => wellFormed.keep (by rw [isState]; decide) rfl rfl rfl)

/-- Two tokeners that differ in their buffers. -/
structure SameLevels (tok tok' : Tokener doubles.Double) : Prop where
  top : tok'.top = tok.top
  below : tok'.below = tok.below
  maxDepth : tok'.maxDepth = tok.maxDepth

theorem SameLevels.wellFormed {tok' : Tokener doubles.Double} (same : SameLevels tok tok')
    (notAdds : ¬tok.top.state.Adds) (wellFormed : WellFormed limit tok obj)
    (obj' : Value doubles.Double) :
    WellFormed limit tok' obj' :=
  wellFormed.keep notAdds same.top same.below same.maxDepth

theorem SameLevels.goes {tok' : Tokener doubles.Double} (same : SameLevels tok tok') {str' : Text}
    (shorter : str'.length ≤ str.length) {turn : Turn doubles.Double}
    (goes : Goes limit tok' str' turn) :
    Goes limit tok str turn := by
  have rank : tok'.rank = tok.rank := by rw [Tokener.rank, Tokener.rank, same.top]
  cases goes with
  | redo wellFormed short less => exact .redo wellFormed (by omega) (by omega)
  | leave wellFormed short => exact .leave wellFormed (by omega)
  | out wellFormed => exact .out wellFormed

/-- A digit ends the escape or changes the buffers. -/
def Digit.Goes (limit : Nat) (tok : Tokener doubles.Double) (str : Text) : Digit doubles.Double →
    Prop
  | .turn next => Json.Goes limit tok str next
  | .more tok' => SameLevels tok tok'
  | .second tok' => SameLevels tok tok'

theorem digit_goes (wellFormed : WellFormed limit tok obj)
    (isState : tok.top.state = .escapeUnicode)
    {hi : Option (BitVec 32)} {result : Digit doubles.Double}
    (isResult : digit bounded tok hi c str = some result) : result.Goes limit tok str := by
  have kept : ∀ tok' : Tokener doubles.Double, SameLevels tok tok' → ∀ characters obj',
      WellFormed limit ((tok'.append characters).setState tok'.top.savedState) obj' := by
    intro tok' same characters obj'
    refine wellFormed.resume ?_ same.below same.maxDepth
    simp [Tokener.setState, Tokener.append, same.top]
  unfold digit at isResult
  split_ifs at isResult with isHex
  · have same : SameLevels tok ((tok.addDigit c).combine hi) := by
      cases hi with
      | none => exact ⟨rfl, rfl, rfl⟩
      | some hi =>
          rw [Tokener.combine]
          split_ifs <;> exact ⟨rfl, rfl, rfl⟩
    dsimp only at isResult
    split_ifs at isResult with complete high
    · obtain ⟨follows, -, isResult⟩ := Option.bind_eq_some_iff.mp isResult
      split_ifs at isResult
      · obtain rfl := Option.some.inj isResult
        exact same
      · obtain rfl := Option.some.inj isResult
        exact .leave (kept _ same _) (Nat.le_refl _)
    · obtain rfl := Option.some.inj isResult
      exact .leave (kept _ same _) (Nat.le_refl _)
    · obtain rfl := Option.some.inj isResult
      exact ⟨rfl, rfl, rfl⟩
  · obtain rfl := Option.some.inj isResult
    exact .out (fun _ => wellFormed.keep (by rw [isState]; decide) rfl rfl rfl)

theorem turnEscapeUnicode_goes (wellFormed : WellFormed limit tok obj)
    (isState : tok.top.state = .escapeUnicode) {hi : Option (BitVec 32)}
    {turn : Turn doubles.Double} (turned : turnEscapeUnicode bounded tok hi c str = some turn) :
    Goes limit tok str turn := by
  have notAdds : ¬tok.top.state.Adds := by rw [isState]; decide
  induction length : str.length using Nat.strongRecOn generalizing tok hi c str with
  | ind n induction =>
  have out : ∀ tok', SameLevels tok tok' → ∀ passed c', Goes limit tok str
      (.out (tok'.append passed) c') :=
    fun tok' same passed c' =>
      .out (SameLevels.wellFormed ⟨same.top, same.below, same.maxDepth⟩ notAdds wellFormed)
  have ended : ∀ tok', SameLevels tok tok' → ∀ passed,
      (atEnd bounded tok').map (fun tok => Turn.out (tok.append passed) c) = some turn →
      Goes limit tok str turn := by
    intro tok' same passed ends
    rw [atEnd] at ends
    split_ifs at ends
    · obtain rfl := Option.some.inj ends
      exact out (tok'.fail tok'.peekError) ⟨same.top, same.below, same.maxDepth⟩ passed c
    · cases ends
  have again : ∀ tok', SameLevels tok tok' → ∀ hi c' str', str'.length < str.length →
      turnEscapeUnicode bounded tok' hi c' str' = some turn → Goes limit tok str turn := by
    intro tok' same hi' c' str' shorter turned
    have state : tok'.top.state = .escapeUnicode := by rw [same.top, isState]
    exact same.goes (Nat.le_of_lt shorter) (induction str'.length (length ▸ shorter)
      (same.wellFormed notAdds wellFormed obj) state turned (by rw [state]; decide) rfl)
  rw [turnEscapeUnicode] at turned
  cases isResult : digit bounded tok hi c str with
  | none => simp [isResult] at turned
  | some result =>
      have goes := digit_goes wellFormed isState isResult
      cases result with
      | turn next =>
          simp only [isResult, Option.some.injEq] at turned
          exact turned ▸ goes
      | more tok' =>
          simp only [isResult] at turned
          generalize (if hi = none then [] else utf8ReplacementChar) = replaced at turned
          split_ifs at turned with zero
          · exact Option.some.inj turned ▸ out tok' goes replaced c
          · cases str with
            | nil => exact ended tok' goes replaced turned
            | cons next str => exact again tok' goes hi next str (by simp) turned
      | second tok' =>
          simp only [isResult] at turned
          split_ifs at turned with zero
          · exact Option.some.inj turned ▸ out tok' goes _ c
          · rcases str with _ | ⟨first, _ | ⟨second, _ | ⟨next, str⟩⟩⟩
            · exact ended tok' goes _ turned
            · exact ended tok' goes _ turned
            · exact ended tok' goes _ turned
            · have shorter : str.length < (first :: second :: next :: str).length := by
                simp only [List.length_cons]
                omega
              exact again { tok' with ucsChar := 0, stPos := 0 }
                ⟨goes.top, goes.below, goes.maxDepth⟩ _ next str shorter turned

theorem WellFormed.push (wellFormed : WellFormed limit tok obj) {state : TokenerState}
    (adds : state.Adds) (room : ¬tok.maxDepth ≤ tok.depth + 1) :
    WellFormed limit (tok.push state) obj where
  isLimit := wellFormed.isLimit
  inside := by
    rw [Tokener.depth] at room
    simpa [Tokener.depth, Tokener.push] using room
  saved := show TokenerState.Resumes .start by decide
  escape := nofun
  top := by
    rw [Tokener.depth] at room
    refine ⟨⟨?_, trivial⟩, List.not_mem_nil⟩
    simp only [Tokener.depth, Tokener.push, Srec.reset, Value.height, List.length_cons]
    omega
  below := by
    intro level member
    rcases List.mem_cons.mp member with rfl | member
    · exact ⟨adds, wellFormed.saved⟩
    · exact wellFormed.below level member
  levels := ⟨⟨wellFormed.top.current, wellFormed.top.name⟩, wellFormed.levels⟩
  obj := nofun

theorem turnArray_goes (wellFormed : WellFormed limit tok obj)
    (isState : tok.top.state = .array ∨ tok.top.state = .arrayAfterSep) :
    Goes limit tok str (turnArray tok obj c str) := by
  have notAdds : ¬tok.top.state.Adds := by rcases isState with same | same <;> rw [same] <;> decide
  rw [turnArray]
  split_ifs with closed strict full
  · exact .out (fun _ => wellFormed.keep notAdds rfl rfl rfl)
  · exact .leave (fun _ => wellFormed.eat .finish (by decide)) (Nat.le_refl _)
  · exact .out (fun _ => wellFormed.keep notAdds rfl rfl rfl)
  · refine .redo (wellFormed.push (Or.inl rfl) full) (Nat.le_refl _) (Or.inr ?_)
    rcases isState with same | same <;>
      simp [Tokener.rank, Tokener.push, Srec.reset, same, TokenerState.rank]

theorem turnObjectValue_goes (wellFormed : WellFormed limit tok obj)
    (isState : tok.top.state = .objectValue) :
    Goes limit tok str (turnObjectValue tok obj c str) := by
  rw [turnObjectValue]
  split_ifs with full
  · exact .out (fun _ => wellFormed.keep (by rw [isState]; decide) rfl rfl rfl)
  · refine .redo (wellFormed.push (Or.inr rfl) full) (Nat.le_refl _) (Or.inr ?_)
    simp [Tokener.rank, Tokener.push, Srec.reset, isState, TokenerState.rank]

theorem turnArrayAdd_goes (wellFormed : WellFormed limit tok obj)
    (isState : tok.top.state = .arrayAdd) :
    Goes limit tok str (turnArrayAdd tok obj c str) := by
  have item := wellFormed.obj (Or.inl isState)
  refine .redo (wellFormed.change .eatws .arraySep (by decide) (by decide)
    (fits_arrayAdd wellFormed.top.current item) wellFormed.top.name
    nofun rfl rfl rfl) (Nat.le_refl _) (Or.inr ?_)
  simp [Tokener.rank, Tokener.eat, isState, TokenerState.rank]

theorem turnObjectValueAdd_goes (wellFormed : WellFormed limit tok obj)
    (isState : tok.top.state = .objectValueAdd) :
    Goes limit tok str (turnObjectValueAdd tok obj c str) := by
  have item := wellFormed.obj (Or.inr isState)
  refine .redo (wellFormed.change .eatws .objectSep (by decide) (by decide)
    (fits_objectAdd wellFormed.top.current item wellFormed.top.name) List.not_mem_nil
    nofun rfl rfl rfl) (Nat.le_refl _) (Or.inr ?_)
  simp [Tokener.rank, Tokener.eat, isState, TokenerState.rank]

theorem turnArraySep_goes (wellFormed : WellFormed limit tok obj)
    (isState : tok.top.state = .arraySep) :
    Goes limit tok str (turnArraySep tok c str) := by
  rw [turnArraySep]
  split_ifs
  · exact .leave (fun _ => wellFormed.eat .finish (by decide)) (Nat.le_refl _)
  · exact .leave (fun _ => wellFormed.eat .arrayAfterSep (by decide)) (Nat.le_refl _)
  · exact .out (fun _ => wellFormed.keep (by rw [isState]; decide) rfl rfl rfl)

theorem turnObjectFieldStart_goes (wellFormed : WellFormed limit tok obj)
    (isState : tok.top.state = .objectFieldStart ∨ tok.top.state = .objectFieldStartAfterSep) :
    Goes limit tok str (turnObjectFieldStart tok c str) := by
  have notAdds : ¬tok.top.state.Adds := by rcases isState with same | same <;> rw [same] <;> decide
  have saved := wellFormed.saved
  rw [turnObjectFieldStart]
  split_ifs
  · exact .out (fun _ => wellFormed.keep notAdds rfl rfl rfl)
  · exact .leave (fun _ => wellFormed.eat .finish (by decide)) (Nat.le_refl _)
  · exact .leave (fun _ => wellFormed.go .objectField _ (by decide) saved nofun
      rfl rfl rfl) (Nat.le_refl _)
  · exact .out (fun _ => wellFormed.keep notAdds rfl rfl rfl)

theorem turnObjectFieldEnd_goes (wellFormed : WellFormed limit tok obj)
    (isState : tok.top.state = .objectFieldEnd) :
    Goes limit tok str (turnObjectFieldEnd tok c str) := by
  rw [turnObjectFieldEnd]
  split_ifs
  · exact .leave (fun _ => wellFormed.eat .objectValue (by decide)) (Nat.le_refl _)
  · exact .out (fun _ => wellFormed.keep (by rw [isState]; decide) rfl rfl rfl)

theorem turnObjectSep_goes (wellFormed : WellFormed limit tok obj)
    (isState : tok.top.state = .objectSep) :
    Goes limit tok str (turnObjectSep tok c str) := by
  rw [turnObjectSep]
  split_ifs
  · exact .leave (fun _ => wellFormed.eat .finish (by decide)) (Nat.le_refl _)
  · exact .leave (fun _ => wellFormed.eat .objectFieldStartAfterSep (by decide)) (Nat.le_refl _)
  · exact .out (fun _ => wellFormed.keep (by rw [isState]; decide) rfl rfl rfl)

theorem turn_goes (wellFormed : WellFormed limit tok obj) {result : Turn doubles.Double}
    (turned : turn bounded tok obj c str = some result) : Goes limit tok str result := by
  rw [turn] at turned
  cases isState : tok.top.state <;> simp only [isState] at turned
  case eatws => exact turnEatws_goes wellFormed isState turned
  case start => exact Option.some.inj turned ▸ turnStart_goes wellFormed isState
  case finish => exact Option.some.inj turned ▸ turnFinish_goes wellFormed isState
  case null => exact Option.some.inj turned ▸ turnNull_goes wellFormed isState
  case commentStart => exact Option.some.inj turned ▸ turnCommentStart_goes wellFormed isState
  case comment => exact turnComment_goes wellFormed isState turned
  case commentEol => exact turnCommentEol_goes wellFormed isState turned
  case commentEnd => exact Option.some.inj turned ▸ turnCommentEnd_goes wellFormed
  case string => exact turnString_goes wellFormed isState turned
  case stringEscape => exact Option.some.inj turned ▸ turnStringEscape_goes wellFormed isState
  case escapeUnicode => exact turnEscapeUnicode_goes wellFormed isState turned
  case boolean => exact Option.some.inj turned ▸ turnBoolean_goes wellFormed isState
  case number => exact turnNumber_goes wellFormed isState turned
  case array => exact Option.some.inj turned ▸ turnArray_goes wellFormed (Or.inl isState)
  case arrayAdd => exact Option.some.inj turned ▸ turnArrayAdd_goes wellFormed isState
  case arraySep => exact Option.some.inj turned ▸ turnArraySep_goes wellFormed isState
  case objectFieldStart =>
    exact Option.some.inj turned ▸ turnObjectFieldStart_goes wellFormed (Or.inl isState)
  case objectField => exact turnObjectField_goes wellFormed isState turned
  case objectFieldEnd => exact Option.some.inj turned ▸ turnObjectFieldEnd_goes wellFormed isState
  case objectValue => exact Option.some.inj turned ▸ turnObjectValue_goes wellFormed isState
  case objectValueAdd => exact Option.some.inj turned ▸ turnObjectValueAdd_goes wellFormed isState
  case objectSep => exact Option.some.inj turned ▸ turnObjectSep_goes wellFormed isState
  case arrayAfterSep => exact Option.some.inj turned ▸ turnArray_goes wellFormed (Or.inr isState)
  case objectFieldStartAfterSep =>
    exact Option.some.inj turned ▸ turnObjectFieldStart_goes wellFormed (Or.inr isState)

end Turns

/-! ## Whole runs -/

section Runs

variable {doubles : Doubles} {bounded : Bool} {limit : Nat}

def Place.WellFormed (limit : Nat) : Place doubles.Double → Prop
  | .redo tok obj _ _ => Json.WellFormed limit tok obj
  | .out tok _ => ∀ obj, Json.WellFormed limit tok obj

/-- A switch keeps what holds and has less left to do. -/
theorem step_wellFormed {place next : Place doubles.Double} (wellFormed : place.WellFormed limit)
    (stepped : step bounded place = some next) :
    next.WellFormed limit ∧ (0 < place.work → next.work < place.work) := by
  cases place with
  | out tok c =>
      obtain rfl := Option.some.inj stepped
      exact ⟨wellFormed, fun work => absurd work (Nat.lt_irrefl 0)⟩
  | redo tok obj c str =>
      obtain ⟨result, turned, stepped⟩ := Option.bind_eq_some_iff.mp stepped
      have goes := turn_goes wellFormed turned
      have low := tok.rank_le
      cases goes with
      | redo wellFormed shorter less =>
          obtain rfl := Option.some.inj stepped
          have low' := Tokener.rank_le ‹_›
          refine ⟨wellFormed, fun _ => ?_⟩
          simp only [Place.work, switches]
          omega
      | out wellFormed =>
          obtain rfl := Option.some.inj stepped
          exact ⟨wellFormed, fun work => work⟩
      | @leave tok' c' str' wellFormed shorter =>
          dsimp only at stepped
          split_ifs at stepped with zero
          · obtain rfl := Option.some.inj stepped
            exact ⟨wellFormed, fun work => work⟩
          · cases str' with
            | nil =>
                obtain ⟨ended, isEnded, rfl⟩ := Option.map_eq_some_iff.mp stepped
                rw [atEnd] at isEnded
                split_ifs at isEnded
                obtain rfl := Option.some.inj isEnded
                exact ⟨fun obj => (wellFormed obj).fail tok'.peekError, fun work => work⟩
            | cons next rest =>
                obtain rfl := Option.some.inj stepped
                have low' := tok'.rank_le
                refine ⟨wellFormed obj, fun _ => ?_⟩
                simp only [Place.work, switches, List.length_cons] at shorter ⊢
                omega

@[simp]
theorem parseLoop_out (fuel : Nat) (tok : Tokener doubles.Double) (c : Byte) :
    parseLoop bounded fuel (.out tok c) = some (tok, c) := by
  cases fuel <;> rfl

theorem work_pos {place : Place doubles.Double} (work : place.work ≤ 0) :
    ∃ tok c, place = .out tok c := by
  cases place with
  | out tok c => exact ⟨tok, c, rfl⟩
  | redo tok obj c str => exact absurd work (Nat.not_le_of_lt (Nat.succ_pos _))

theorem parseLoop_wellFormed {place : Place doubles.Double} (wellFormed : place.WellFormed limit)
    {fuel : Nat} {tok : Tokener doubles.Double} {c : Byte}
    (ends : parseLoop bounded fuel place = some (tok, c)) (obj : Value doubles.Double) :
    WellFormed limit tok obj := by
  induction fuel generalizing place with
  | zero =>
      cases place with
      | out tok' c' =>
          obtain ⟨rfl, -⟩ := Prod.mk.inj (Option.some.inj ends)
          exact wellFormed obj
      | redo tok' obj' c' str => cases ends
  | succ fuel induction =>
      cases place with
      | out tok' c' =>
          obtain ⟨rfl, -⟩ := Prod.mk.inj (Option.some.inj ends)
          exact wellFormed obj
      | redo tok' obj' c' str =>
          obtain ⟨next, stepped, ends⟩ := Option.bind_eq_some_iff.mp ends
          exact induction (step_wellFormed wellFormed stepped).1 ends

/-- Any number of switches lead from one place to the other. -/
def Reaches (bounded : Bool) : Place doubles.Double → Place doubles.Double → Prop :=
  Relation.ReflTransGen fun place next => step bounded place = some next

/-- At the first character of a text. -/
def Place.standing (tok : Tokener doubles.Double) (obj : Value doubles.Double) :
    Text → Place doubles.Double
  | [] => .out tok 1
  | c :: str => .redo tok obj c str

/-- The level at the top of the stack. -/
def Place.depth : Place doubles.Double → Nat
  | .redo tok _ _ _ => tok.depth
  | .out tok _ => tok.depth

theorem Reaches.wellFormed {first second : Place doubles.Double}
    (reaches : Reaches bounded first second) (wellFormed : first.WellFormed limit) :
    second.WellFormed limit := by
  induction reaches with
  | refl => exact wellFormed
  | tail _ stepped induction => exact (step_wellFormed induction stepped).1

theorem Place.WellFormed.depth_lt {place : Place doubles.Double}
    (wellFormed : place.WellFormed limit) : place.depth < limit := by
  cases place with
  | redo tok obj c str => exact wellFormed.isLimit ▸ wellFormed.inside
  | out tok c => exact (wellFormed .null).isLimit ▸ (wellFormed .null).inside

end Runs

/-! ## Texts of a given length -/

section Bounded

variable {doubles : Doubles} {limit : Nat} {tok : Tokener doubles.Double}
    {obj : Value doubles.Double}
variable {c : Byte} {str : Text}

theorem pass_bounded (kind : Byte → Bool) (tok : Tokener doubles.Double) (c : Byte) (str : Text) :
    ∃ result, pass true kind tok c str = some result := by
  have passed := pass_passed true kind tok c str
  generalize pass true kind tok c str = result at passed
  cases passed with
  | stopped => exact ⟨_, rfl⟩
  | zero => exact ⟨_, rfl⟩
  | ended => exact ⟨_, rfl⟩

theorem digit_bounded (tok : Tokener doubles.Double) (hi : Option (BitVec 32)) (c : Byte)
    (str : Text) :
    ∃ result, digit true tok hi c str = some result := by
  have follows : ∃ follows, escapeFollows true str = some follows := by
    rcases str with _ | ⟨first, _ | ⟨second, str⟩⟩ <;> simp [escapeFollows]
  obtain ⟨follows, isFollows⟩ := follows
  unfold digit
  split_ifs
  · dsimp only
    split_ifs
    · rw [isFollows]
      cases follows <;> exact ⟨_, rfl⟩
    · exact ⟨_, rfl⟩
    · exact ⟨_, rfl⟩
  · exact ⟨_, rfl⟩

theorem turnEscapeUnicode_bounded {hi : Option (BitVec 32)} :
    ∃ result, turnEscapeUnicode true tok hi c str = some result := by
  induction length : str.length using Nat.strongRecOn generalizing tok hi c str with
  | ind n induction =>
  obtain ⟨result, isResult⟩ := digit_bounded tok hi c str
  rw [turnEscapeUnicode, isResult]
  cases result with
  | turn next => exact ⟨_, rfl⟩
  | more tok' =>
      simp only
      generalize (if hi = none then [] else utf8ReplacementChar) = replaced
      split_ifs
      · exact ⟨_, rfl⟩
      · cases str with
        | nil => exact ⟨_, rfl⟩
        | cons next str => exact induction str.length (by rw [← length]; simp) rfl
  | second tok' =>
      simp only
      split_ifs
      · exact ⟨_, rfl⟩
      · rcases str with _ | ⟨first, _ | ⟨second, _ | ⟨next, str⟩⟩⟩
        · exact ⟨_, rfl⟩
        · exact ⟨_, rfl⟩
        · exact ⟨_, rfl⟩
        · refine induction str.length ?_ rfl
          rw [← length]
          simp only [List.length_cons]
          omega

theorem turn_bounded (tok : Tokener doubles.Double) (obj : Value doubles.Double) (c : Byte)
    (str : Text) : ∃ result, turn true tok obj c str = some result := by
  have passes : ∀ (kind : Byte → Bool)
      (next : Text × (Tokener doubles.Double × Byte ⊕ Byte × Text) → Option (Turn doubles.Double)),
      (∀ passed, ∃ result, next passed = some result) →
      ∃ result, (pass true kind tok c str).bind next = some result := by
    intro kind next defined
    obtain ⟨passed, isPassed⟩ := pass_bounded kind tok c str
    rw [isPassed]
    exact defined passed
  rw [turn]
  cases tok.top.state
  case eatws =>
    refine passes _ _ fun passed => ?_
    rcases passed with ⟨passed, _ | _⟩
    · exact ⟨_, rfl⟩
    · dsimp only
      split_ifs <;> exact ⟨_, rfl⟩
  case comment =>
    refine passes _ _ fun passed => ?_
    rcases passed with ⟨passed, _ | _⟩ <;> exact ⟨_, rfl⟩
  case commentEol =>
    refine passes _ _ fun passed => ?_
    rcases passed with ⟨passed, _ | _⟩ <;> exact ⟨_, rfl⟩
  case string =>
    refine passes _ _ fun passed => ?_
    rcases passed with ⟨passed, _ | _⟩
    · exact ⟨_, rfl⟩
    · dsimp only
      split_ifs <;> exact ⟨_, rfl⟩
  case objectField =>
    refine passes _ _ fun passed => ?_
    rcases passed with ⟨passed, _ | _⟩
    · exact ⟨_, rfl⟩
    · dsimp only
      split_ifs <;> exact ⟨_, rfl⟩
  case number =>
    refine passes _ _ fun passed => ?_
    rcases passed with ⟨passed, _ | ⟨c, str⟩⟩
    · exact ⟨_, rfl⟩
    · dsimp only
      cases numberValue (tok.appendNumber passed) <;> exact ⟨_, rfl⟩
  case escapeUnicode => exact turnEscapeUnicode_bounded
  all_goals exact ⟨_, rfl⟩

theorem step_bounded (place : Place doubles.Double) : ∃ next, step true place = some next := by
  cases place with
  | out tok c => exact ⟨_, rfl⟩
  | redo tok obj c str =>
      obtain ⟨result, turned⟩ := turn_bounded tok obj c str
      rw [step, turned]
      cases result with
      | redo => exact ⟨_, rfl⟩
      | out => exact ⟨_, rfl⟩
      | leave tok' c' str' =>
          simp only [Option.bind_eq_bind, Option.bind_some]
          split_ifs
          · exact ⟨_, rfl⟩
          · cases str' <;> exact ⟨_, rfl⟩

theorem parseLoop_bounded {place : Place doubles.Double} (wellFormed : place.WellFormed limit)
    {fuel : Nat} (enough : place.work ≤ fuel) :
    ∃ tok c, parseLoop true fuel place = some (tok, c) := by
  induction fuel generalizing place with
  | zero =>
      obtain ⟨tok, c, rfl⟩ := work_pos enough
      exact ⟨tok, c, rfl⟩
  | succ fuel induction =>
      cases place with
      | out tok c => exact ⟨tok, c, rfl⟩
      | redo tok obj c str =>
          obtain ⟨next, stepped⟩ := step_bounded (.redo tok obj c str)
          have after := step_wellFormed wellFormed stepped
          have less := after.2 (Nat.succ_pos _)
          rw [parseLoop, stepped]
          exact induction after.1 (by omega)

end Bounded

/-! ## Calls of the tokener -/

section Calls

variable {doubles : Doubles} {bounded : Bool} {limit : Nat} {tok : Tokener doubles.Double}
    {str : Text}

theorem new_wellFormed (room : 0 < limit) (obj : Value doubles.Double) :
    WellFormed limit (jsonTokenerNewEx limit) obj where
  isLimit := rfl
  inside := room
  saved := show TokenerState.Resumes .start by decide
  escape := nofun
  top := ⟨⟨show 0 + 0 + 1 ≤ limit by omega, trivial⟩, List.not_mem_nil⟩
  below := nofun
  levels := trivial
  obj := nofun

/-- The switches that a call is given are enough. -/
theorem work_le (tok : Tokener doubles.Double) (obj : Value doubles.Double) (c : Byte) :
    (Place.redo tok obj c str).work ≤ switches * (str.length + 1) := by
  have low := tok.rank_le
  simp only [Place.work, switches]
  omega

theorem parseOut_fits (wellFormed : ∀ obj, WellFormed limit tok obj) (c : Byte) :
    Fits limit 0 (parseOut tok c).2 := by
  have inside := (wellFormed .null).inside
  have fits := (wellFormed .null).top.current
  rw [(wellFormed .null).isLimit] at inside fits
  have none : Fits limit 0 (Value.null : Value doubles.Double) :=
    ⟨show 0 + 0 + 1 ≤ limit by omega, trivial⟩
  have low : Fits limit 0 tok.top.current := ⟨by have := fits.height; omega, fits.keyed⟩
  simp only [parseOut]
  split_ifs
  · exact low
  · exact none
  · exact low
  · exact none

theorem parseEx_fits (wellFormed : ∀ obj, WellFormed limit tok obj) {tok' : Tokener doubles.Double}
    {obj : Value doubles.Double}
    (parsed : jsonTokenerParseEx bounded tok str = some (tok', obj)) : Fits limit 0 obj := by
  have starts : ∀ obj, WellFormed limit (tok.fail .success) obj := fun obj => (wellFormed obj).fail
      _
  cases str with
  | nil =>
      obtain ⟨ended, isEnded, isOut⟩ := Option.bind_eq_some_iff.mp parsed
      rw [atEnd] at isEnded
      split_ifs at isEnded
      obtain rfl := Option.some.inj isEnded
      have fits := parseOut_fits
        (fun obj => (starts obj).fail (tok.fail .success).peekError) 1
      rwa [Option.some.inj isOut] at fits
  | cons c str =>
      obtain ⟨⟨last, c'⟩, ends, isOut⟩ := Option.bind_eq_some_iff.mp parsed
      have started : Place.WellFormed limit (.redo (tok.fail .success) .null c str) := starts .null
      have fits := parseOut_fits (parseLoop_wellFormed started ends) c'
      rwa [Option.some.inj isOut] at fits

theorem parseEx_bounded (wellFormed : ∀ obj, WellFormed limit tok obj) (str : Text) :
    ∃ tok' obj, jsonTokenerParseEx true tok str = some (tok', obj) := by
  cases str with
  | nil => exact ⟨_, _, rfl⟩
  | cons c str =>
      have started : Place.WellFormed limit (.redo (tok.fail .success) .null c str) :=
        (wellFormed .null).fail _
      obtain ⟨tok', c', ends⟩ := parseLoop_bounded started (work_le _ _ _)
      refine ⟨(parseOut tok' c').1, (parseOut tok' c').2, ?_⟩
      rw [jsonTokenerParseEx]
      dsimp only
      rw [ends]
      rfl

theorem default_wellFormed (obj : Value doubles.Double) :
    WellFormed jsonTokenerDefaultDepth (jsonTokenerNewEx jsonTokenerDefaultDepth) obj :=
  new_wellFormed (by decide) obj

theorem parseVerbose_fits {err : TokenerError} {obj : Value doubles.Double}
    (parsed : jsonTokenerParseVerbose doubles str = some (err, obj)) :
    Fits jsonTokenerDefaultDepth 0 obj := by
  obtain ⟨⟨tok, value⟩, ends, isResult⟩ := Option.bind_eq_some_iff.mp parsed
  have fits := parseEx_fits default_wellFormed ends
  have isObj := congrArg Prod.snd (Option.some.inj isResult)
  dsimp only at isObj
  split_ifs at isObj
  · rwa [isObj] at fits
  · rw [← isObj]
    exact ⟨show 0 + 0 + 1 ≤ jsonTokenerDefaultDepth by decide, trivial⟩

end Calls

end StudyDemo.Json
