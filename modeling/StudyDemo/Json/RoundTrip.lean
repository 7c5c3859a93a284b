import StudyDemo.Json.CStrings
import StudyDemo.Json.Lexemes

/-! # Printed values are read back

The tokener reads what `json_object_to_json_string_ext` prints, with any flags, and comes
to the same value, as far as the levels of its stack go and each double is one that its
own text gives back. -/

namespace StudyDemo.Json

open CMemory

variable {doubles : Doubles} {flags : ToStringFlags} {bounded : Bool}

/-! ## Values whose texts can be read -/

namespace Value

mutual

/-- The doubles in a value. -/
def doublesIn {Double : Type} : Value Double → List Double
  | .double value => [value]
  | .array values => itemsDoubles values
  | .object entries => entriesDoubles entries
  | _ => []

def itemsDoubles {Double : Type} : List (Value Double) → List Double
  | [] => []
  | value :: values => doublesIn value ++ itemsDoubles values

def entriesDoubles {Double : Type} : List (Text × Value Double) → List Double
  | [] => []
  | (_, value) :: entries => doublesIn value ++ entriesDoubles entries

end

end Value

/-- The text of a double is a number with a point or an exponent, and gives it back. -/
def ReadsBack (doubles : Doubles) (flags : ToStringFlags) (value : doubles.Double) : Prop :=
  ∃ first more, doubles.print flags.noZero value = first :: more ∧
    (isDigit first ∨ first = ascii '-') ∧ (∀ x ∈ first :: more, isNumberChar x) ∧
    (first :: more).any isDoubleChar ∧ doubles.scan (first :: more) = some value

/-- Every double in the value is read back from its text. -/
def Value.Readable (flags : ToStringFlags) (value : Value doubles.Double) : Prop :=
  ∀ number ∈ value.doublesIn, ReadsBack doubles flags number

/-! ## White space between values -/

theorem newline_spaces (flags : ToStringFlags) : ∀ x ∈ flags.newline, isSpace x := by
  rw [ToStringFlags.newline]
  split_ifs
  · decide
  · nofun

theorem space_spaces (flags : ToStringFlags) : ∀ x ∈ flags.space, isSpace x := by
  rw [ToStringFlags.space]
  split_ifs
  · decide
  · nofun

theorem indent_spaces (level : Nat) : ∀ x ∈ flags.indent level, isSpace x := by
  rw [ToStringFlags.indent]
  split_ifs
  · intro x member
    rw [List.eq_of_mem_replicate member]
    decide
  · nofun

theorem closing_spaces (flags : ToStringFlags) (hadChildren : Bool) (level : Nat) :
    ∀ x ∈ flags.closing hadChildren level, isSpace x := by
  intro x member
  rw [ToStringFlags.closing, List.mem_append, List.mem_append] at member
  rcases member with (member | member) | member
  · cases hadChildren with
    | true => exact newline_spaces flags x member
    | false => cases member
  · exact indent_spaces level x member
  · exact space_spaces flags x member

/-! ## Levels above others -/

/-- Another top and other levels below it, with the same room and no other error. -/
structure Stack (tok tok' : Tokener doubles.Double) (top : Srec doubles.Double)
    (below : List (Srec doubles.Double)) : Prop where
  top : tok'.top = top
  below : tok'.below = below
  maxDepth : tok'.maxDepth = tok.maxDepth
  err : tok'.err = tok.err

theorem Stack.trans {first second third : Tokener doubles.Double} {top top' : Srec doubles.Double}
    {below below' : List (Srec doubles.Double)} (before : Stack first second top below)
    (after : Stack second third top' below') : Stack first third top' below' :=
  ⟨after.top, after.below, after.maxDepth.trans before.maxDepth, after.err.trans before.err⟩

/-- A character that neither is white space nor starts a comment. -/
def Visible (c : Byte) : Prop := isSpace c = false ∧ c ≠ ascii '/'

instance (c : Byte) : Decidable (Visible c) := inferInstanceAs (Decidable (_ ∧ _))

section Children

variable {tok : Tokener doubles.Double} {value : Value doubles.Double} {c : Byte}
variable {level : Srec doubles.Double} {below : List (Srec doubles.Double)} {spaces : Text}

theorem resumed (obj : Value doubles.Double) (str : Text) (top : tok.top = level)
    (isState : level.state = .eatws) (isSpaces : ∀ x ∈ spaces, isSpace x) (visible : Visible c) :
    ∃ tok', Stack tok tok' { level with state := level.savedState } tok.below ∧
      Reaches bounded (.standing tok obj (spaces ++ c :: str)) (.redo tok' obj c str) := by
  subst top
  exact ⟨tok.setState tok.top.savedState, ⟨rfl, rfl, rfl, rfl⟩,
    eatws_reaches isState isSpaces visible.1 visible.2⟩

theorem separated (obj : Value doubles.Double) (str : Text) {tok' : Tokener doubles.Double}
    {separator : Byte} (top : tok'.top = level) (isState : level.state = .eatws)
    (isSpaces : ∀ x ∈ spaces, isSpace x) (visible : Visible c) (notZero : separator ≠ 0)
    (leaves : ∀ str, turn bounded tok obj separator str = some (.leave tok' separator str)) :
    ∃ tok'', Stack tok' tok'' { level with state := level.savedState } tok'.below ∧
      Reaches bounded (.redo tok obj separator (spaces ++ c :: str)) (.redo tok'' obj c str) := by
  obtain ⟨tok'', stack, reaches⟩ := resumed obj str top isState isSpaces visible
  exact ⟨tok'', stack, (Reaches.leave_standing (leaves _) (by simp) notZero).trans reaches⟩

theorem child_added (added : Srec doubles.Double) (obj : Value doubles.Double) (str : Text)
    (top : tok.top = .done value) (isBelow : tok.below = level :: below)
    (isSpaces : ∀ x ∈ spaces, isSpace x) (visible : Visible c) (isState : added.state = .eatws)
    (adds : ∀ tok', tok'.top = level →
      turn bounded tok' value c str = some (.redo { tok' with top := added } value c str)) :
    ∃ tok', Stack tok tok' { added with state := added.savedState } below ∧
      Reaches bounded (.standing tok obj (spaces ++ c :: str)) (.redo tok' value c str) := by
  have pops : turn bounded (tok.setState tok.top.savedState) obj c str =
      some (.redo { tok with top := level, below := below } value c str) := by
    rw [turn]
    simp [Tokener.setState, top, Srec.done, turnFinish, isBelow]
  let taken : Tokener doubles.Double := { tok with top := added, below := below }
  have takes := adds { tok with top := level, below := below } rfl
  obtain ⟨tok', stack, reaches⟩ := resumed value str (show taken.top = added from rfl) isState
    (List.forall_mem_nil _) visible
  have taking : Stack tok taken added below := ⟨rfl, rfl, rfl, rfl⟩
  refine ⟨tok', taking.trans stack, Reaches.trans ?_ reaches⟩
  exact (eatws_reaches (show tok.top.state = .eatws by rw [top]; rfl) isSpaces visible.1
      visible.2).trans
    ((Reaches.redo pops).trans (.redo takes))

theorem element_added (obj : Value doubles.Double) (str : Text) {saved : TokenerState}
    {values : List (Value doubles.Double)} (top : tok.top = .done value)
    (isBelow : tok.below = ⟨.arrayAdd, saved, .array values, []⟩ :: below)
    (isSpaces : ∀ x ∈ spaces, isSpace x) (visible : Visible c) :
    ∃ tok', Stack tok tok' ⟨.arraySep, .arraySep, .array (values ++ [value]), []⟩ below ∧
      Reaches bounded (.standing tok obj (spaces ++ c :: str)) (.redo tok' value c str) := by
  refine child_added ⟨.eatws, .arraySep, .array (values ++ [value]), []⟩ obj str top isBelow
    isSpaces visible rfl fun tok' top => ?_
  rw [turn, top]
  simp [turnArrayAdd, top, Tokener.eat, Tokener.setCurrent, Value.arrayAdd]

theorem member_added (obj : Value doubles.Double) (str : Text) {saved : TokenerState}
    {entries : List (Text × Value doubles.Double)} {key : Text} (top : tok.top = .done value)
    (isBelow : tok.below = ⟨.objectValueAdd, saved, .object entries, key⟩ :: below)
    (isSpaces : ∀ x ∈ spaces, isSpace x) (visible : Visible c) :
    ∃ tok', Stack tok tok' ⟨.objectSep, .objectSep, .object (Entries.add entries key value), []⟩
        below ∧
      Reaches bounded (.standing tok obj (spaces ++ c :: str)) (.redo tok' value c str) := by
  refine child_added ⟨.eatws, .objectSep, .object (Entries.add entries key value), []⟩ obj str top
    isBelow
    isSpaces visible rfl fun tok' top => ?_
  rw [turn, top]
  simp [turnObjectValueAdd, top, Tokener.eat, Value.objectAdd]

theorem child_started (obj : Value doubles.Double) (str : Text) {add : TokenerState}
    (visible : Visible c)
    (pushes : turn bounded tok obj c str = some (.redo (tok.push add) obj c str)) :
    ∃ tok', Stack tok tok' .starting ({ tok.top with state := add } :: tok.below) ∧
      Reaches bounded (.redo tok obj c str) (.redo tok' obj c str) := by
  obtain ⟨tok', stack, reaches⟩ := resumed obj str (show (tok.push add).top = .reset from rfl) rfl
    (List.forall_mem_nil _) visible
  have pushed : Stack tok (tok.push add) .reset ({ tok.top with state := add } :: tok.below) :=
    ⟨rfl, rfl, rfl, rfl⟩
  exact ⟨tok', pushed.trans stack, (Reaches.redo pushes).trans reaches⟩

theorem child_read {room : Nat} {characters : Text} {follows : Byte → Bool}
    (leads : Leads bounded room follows .starting (.done value) characters)
    (obj : Value doubles.Double) (str : Text) (top : tok.top = .starting)
    (inside : tok.depth + room < tok.maxDepth) (follow : follows c) :
    ∃ tok' obj', Stack tok tok' (.done value) tok.below ∧
      Reaches bounded (.standing tok obj (characters ++ c :: str)) (.redo tok' obj' c str) := by
  obtain ⟨tok', obj', top', above, reaches⟩ := leads tok obj c str top inside follow
  exact ⟨tok', obj', ⟨top', above.below, above.maxDepth, above.err⟩, reaches⟩

end Children

/-! ## Arrays -/

/-- Characters that end a number. -/
def endsNumber (c : Byte) : Bool := !isNumberChar c

section Arrays

variable {tok : Tokener doubles.Double} {value : Value doubles.Double} {c : Byte}
variable {below : List (Srec doubles.Double)}

/-- What the tokener needs to know of a value that stands in another one. -/
structure ReadsAs (bounded : Bool) (value : Value doubles.Double) (characters : Text) : Prop where
  leads : Leads bounded value.height endsNumber .starting (.done value) characters
  starts : ∃ first more, characters = first :: more ∧ Visible first ∧ first ≠ ascii ']'

theorem element_read {state : TokenerState} {values : List (Value doubles.Double)}
    {characters : Text} (reads : ReadsAs bounded value characters)
    (isState : state = .array ∨ state = .arrayAfterSep)
    (top : tok.top = ⟨state, state, .array values, []⟩)
    (inside : tok.depth + (value.height + 1) < tok.maxDepth) (follow : endsNumber c)
    (obj : Value doubles.Double) (str : Text) :
    ∃ tok' obj', Stack tok tok' (.done value) (⟨.arrayAdd, state, .array values, []⟩ :: tok.below) ∧
      Reaches bounded (.standing tok obj (characters ++ c :: str)) (.redo tok' obj' c str) := by
  obtain ⟨first, more, rfl, visible, notEnd⟩ := reads.starts
  have pushes : turn bounded tok obj first (more ++ c :: str) =
      some (.redo (tok.push .arrayAdd) obj first (more ++ c :: str)) := by
    have room : ¬tok.maxDepth ≤ tok.depth + 1 := by omega
    rw [turn, top]
    rcases isState with rfl | rfl
    · simp [turnArray, notEnd, room]
    · simp [turnArray, notEnd, room]
  obtain ⟨tok', started, reaches⟩ := child_started obj (more ++ c :: str) visible pushes
  have depth : tok'.depth = tok.depth + 1 := by
    rw [Tokener.depth, started.below]
    rfl
  obtain ⟨tok'', obj', done, reaches'⟩ := child_read reads.leads obj str started.top
    (by rw [depth, started.maxDepth]; omega) follow
  rw [started.below, top] at done
  exact ⟨tok'', obj', started.trans done, reaches.trans reaches'⟩

theorem append_spaces {first second : Text} (isFirst : ∀ x ∈ first, isSpace x)
    (isSecond : ∀ x ∈ second, isSpace x) : ∀ x ∈ first ++ second, isSpace x := by
  intro x member
  rcases List.mem_append.mp member with member | member
  · exact isFirst x member
  · exact isSecond x member

theorem opening_spaces (flags : ToStringFlags) (level : Nat) :
    ∀ x ∈ flags.newline ++ flags.separator false level, isSpace x :=
  append_spaces (newline_spaces flags)
    (append_spaces (append_spaces nofun (space_spaces flags)) (indent_spaces (level + 1)))

theorem separator_spaces (flags : ToStringFlags) (level : Nat) :
    ∃ spaces, flags.separator true level = ascii ',' :: spaces ∧ ∀ x ∈ spaces, isSpace x := by
  refine ⟨flags.newline ++ flags.space ++ flags.indent (level + 1), ?_,
    append_spaces (append_spaces (newline_spaces flags) (space_spaces flags))
    (indent_spaces (level + 1))⟩
  simp [ToStringFlags.separator, text]

theorem spaces_endsNumber {spaces : Text} (isSpaces : ∀ x ∈ spaces, isSpace x)
    (ends : endsNumber c) (str : Text) :
    ∃ next rest, spaces ++ c :: str = next :: rest ∧ endsNumber next := by
  cases spaces with
  | nil => exact ⟨c, str, rfl, ends⟩
  | cons space spaces =>
      have others : ∀ x : Byte, isSpace x → endsNumber x := by decide
      exact ⟨space, spaces ++ c :: str, rfl, others space (isSpaces space List.mem_cons_self)⟩

theorem items_endsNumber (flags : ToStringFlags) (level : Nat)
    (values : List (Value doubles.Double)) (str : Text) :
    ∃ next rest, itemsString doubles flags level true values ++
      (flags.closing true level ++ ascii ']' :: str) = next :: rest ∧ endsNumber next := by
  cases values with
  | nil => exact spaces_endsNumber (closing_spaces flags true level) (by decide) str
  | cons value values =>
      obtain ⟨spaces, isSeparator, -⟩ := separator_spaces flags level
      rw [itemsString, isSeparator]
      exact ⟨ascii ',', _, rfl, by decide⟩

theorem items_read (level : Nat) (values : List (Value doubles.Double)) {saved : TokenerState}
    {taken : List (Value doubles.Double)}
    (reads : ∀ value ∈ values, ReadsAs bounded value (toJsonString doubles flags (level + 1) value))
    (top : tok.top = .done value)
    (isBelow : tok.below = ⟨.arrayAdd, saved, .array taken, []⟩ :: below)
    (inside : ∀ value ∈ values, below.length + (value.height + 1) < tok.maxDepth)
    (obj : Value doubles.Double) (rest : Text) :
    ∃ tok' obj', Stack tok tok' (.done (.array (taken ++ value :: values))) below ∧
      Reaches bounded
        (.standing tok obj (itemsString doubles flags level true values ++
          (flags.closing true level ++ ascii ']' :: c :: rest))) (.redo tok' obj' c rest) := by
  induction values generalizing tok value saved taken obj with
  | nil =>
      obtain ⟨tok', stack, reaches⟩ := element_added obj (c :: rest) top isBelow
        (closing_spaces flags true level) (show Visible (ascii ']') by decide)
      have closed : turn bounded tok' value (ascii ']') (c :: rest) =
          some (.leave (tok'.eat .finish) (ascii ']') (c :: rest)) := by
        rw [turn, stack.top]
        rfl
      refine ⟨tok'.eat .finish, value, ⟨?_, stack.below, stack.maxDepth, stack.err⟩,
        reaches.trans (.leave closed (by decide))⟩
      rw [Tokener.eat, stack.top]
      rfl
  | cons next values induction =>
      obtain ⟨spaces, isSeparator, isSpaces⟩ := separator_spaces flags level
      obtain ⟨follow, str, isRest, ends⟩ := items_endsNumber flags level values (c :: rest)
      have readsNext := reads next List.mem_cons_self
      obtain ⟨first, more, isText, visible, notEnd⟩ := readsNext.starts
      obtain ⟨tok₁, stack₁, reaches₁⟩ := element_added obj
        (spaces ++ first :: (more ++ follow :: str)) top isBelow
        (List.forall_mem_nil _) (show Visible (ascii ',') by decide)
      have leaves : ∀ str, turn bounded tok₁ value (ascii ',') str =
          some (.leave (tok₁.eat .arrayAfterSep) (ascii ',') str) := by
        intro str
        rw [turn, stack₁.top]
        rfl
      have top₁ : (tok₁.eat .arrayAfterSep).top =
          ⟨.eatws, .arrayAfterSep, .array (taken ++ [value]), []⟩ := by
        rw [Tokener.eat, stack₁.top]
      obtain ⟨tok₂, stack₂, reaches₂⟩ := separated value (more ++ follow :: str) top₁ rfl isSpaces
        visible (by decide) leaves
      have isBelow₂ : tok₂.below = below := stack₂.below.trans stack₁.below
      have maxDepth₂ : tok₂.maxDepth = tok.maxDepth := stack₂.maxDepth.trans stack₁.maxDepth
      have inside₂ : tok₂.depth + (next.height + 1) < tok₂.maxDepth := by
        rw [Tokener.depth, isBelow₂, maxDepth₂]
        exact inside next List.mem_cons_self
      obtain ⟨tok₃, obj₃, stack₃, reaches₃⟩ := element_read readsNext (Or.inr rfl) stack₂.top
        inside₂ ends value str
      rw [isBelow₂] at stack₃
      obtain ⟨tok₄, obj₄, stack₄, reaches₄⟩ := induction
        (fun value member => reads value (List.mem_cons_of_mem next member)) stack₃.top stack₃.below
        (fun value member => by
          rw [stack₃.maxDepth, maxDepth₂]
          exact inside value (List.mem_cons_of_mem next member)) obj₃
      refine ⟨tok₄, obj₄, ⟨?_, stack₄.below, ?_, ?_⟩, ?_⟩
      · rw [stack₄.top, List.append_assoc]
        rfl
      · rw [stack₄.maxDepth, stack₃.maxDepth, maxDepth₂]
      · rw [stack₄.err, stack₃.err, stack₂.err]
        exact stack₁.err
      · rw [itemsString, isSeparator, List.append_assoc, List.append_assoc, isRest, isText]
        rw [isText] at reaches₃
        rw [isRest] at reaches₄
        exact ((reaches₁.trans reaches₂).trans reaches₃).trans reaches₄

theorem leads_array {follows : Byte → Bool} (level : Nat) (values : List (Value doubles.Double))
    (reads : ∀ value ∈ values, ReadsAs bounded value
    (toJsonString doubles flags (level + 1) value)) :
    Leads bounded (Value.itemsHeight values) follows (.starting : Srec doubles.Double)
      (.done (.array values)) (toJsonString doubles flags level (.array values)) := by
  intro tok obj c rest top inside _
  let opened := (tok.eat .array).setCurrent (.array [])
  have opens : ∀ str, turn bounded tok obj (ascii '[') str =
      some (.leave opened (ascii '[') str) := by
    intro str
    rw [turn, top]
    rfl
  have isTop : opened.top = ⟨.eatws, .array, .array [], []⟩ := by
    simp [opened, Tokener.setCurrent, Tokener.eat, top, Srec.starting]
  cases values with
  | nil =>
      have isSpaces : ∀ x ∈ flags.newline ++ flags.closing false level, isSpace x :=
        append_spaces (newline_spaces flags) (closing_spaces flags false level)
      obtain ⟨tok', stack, reaches⟩ := separated obj (c :: rest) isTop rfl isSpaces
        (show Visible (ascii ']') by decide) (by decide) opens
      have closed : turn bounded tok' obj (ascii ']') (c :: rest) =
          some (.leave (tok'.eat .finish) (ascii ']') (c :: rest)) := by
        rw [turn, stack.top]
        simp [turnArray, stack.top]
      refine ⟨tok'.eat .finish, obj, ?_, ⟨stack.below, stack.maxDepth, stack.err⟩, ?_⟩
      · rw [Tokener.eat, stack.top]
        rfl
      · have isText : toJsonString doubles flags level (.array []) ++ c :: rest =
            ascii '[' :: (flags.newline ++ flags.closing false level ++
            ascii ']' :: c :: rest) := by
          simp [toJsonString, itemsString, text]
        rw [isText]
        exact reaches.trans (.leave closed (by decide))
  | cons value values =>
      obtain ⟨follow, str, isRest, ends⟩ := items_endsNumber flags level values (c :: rest)
      have readsFirst := reads value List.mem_cons_self
      obtain ⟨first, more, isText, visible, notEnd⟩ := readsFirst.starts
      obtain ⟨tok₁, stack₁, reaches₁⟩ := separated obj (more ++ follow :: str) isTop rfl
        (opening_spaces flags level) visible (by decide) opens
      have low := itemsHeight_le_iff.mp (Nat.le_refl (Value.itemsHeight (value :: values)))
      have isBelow₁ : tok₁.below = tok.below := stack₁.below
      have maxDepth₁ : tok₁.maxDepth = tok.maxDepth := stack₁.maxDepth
      obtain ⟨tok₂, obj₂, stack₂, reaches₂⟩ := element_read readsFirst (Or.inl rfl) stack₁.top
        (by
          have := low value List.mem_cons_self
          rw [Tokener.depth, isBelow₁, maxDepth₁, ← Tokener.depth]
          omega) ends obj str
      rw [isBelow₁] at stack₂
      obtain ⟨tok₃, obj₃, stack₃, reaches₃⟩ := items_read level values
        (fun value member => reads value (List.mem_cons_of_mem _ member)) stack₂.top stack₂.below
        (fun value member => by
          have := low value (List.mem_cons_of_mem _ member)
          rw [stack₂.maxDepth, maxDepth₁, ← Tokener.depth]
          omega) obj₂ rest
      refine ⟨tok₃, obj₃, stack₃.top, ⟨stack₃.below, ?_, ?_⟩, ?_⟩
      · rw [stack₃.maxDepth, stack₂.maxDepth, maxDepth₁]
      · rw [stack₃.err, stack₂.err]
        exact stack₁.err
      · have isText' : toJsonString doubles flags level (.array (value :: values)) ++ c :: rest =
            ascii '[' :: (flags.newline ++ flags.separator false level ++
              (toJsonString doubles flags (level + 1) value ++
                (itemsString doubles flags level true values ++
                  (flags.closing true level ++ ascii ']' :: c :: rest)))) := by
          simp [toJsonString, itemsString, text]
        rw [isText', isRest, isText]
        rw [isText] at reaches₂
        rw [isRest] at reaches₃
        exact (reaches₁.trans reaches₂).trans reaches₃

end Arrays

/-! ## Objects -/

section Objects

variable {tok : Tokener doubles.Double} {value : Value doubles.Double} {c : Byte}
variable {below : List (Srec doubles.Double)}

/-- The text of a member of an object. -/
def memberText (flags : ToStringFlags) (key characters : Text) : Text :=
  ascii '"' :: (jsonEscapeStr key ++ ascii '"' :: ascii ':' :: (flags.space ++ characters))

theorem member_read (flags : ToStringFlags) {state : TokenerState} {current : Value doubles.Double}
    {key : Text}
    {characters : Text} (reads : ReadsAs bounded value characters)
    (isState : state = .objectFieldStart ∨ state = .objectFieldStartAfterSep) (noZero : 0 ∉ key)
    (top : tok.top = ⟨state, state, current, []⟩)
    (inside : tok.depth + (value.height + 1) < tok.maxDepth) (follow : endsNumber c)
    (obj : Value doubles.Double) (str : Text) :
    ∃ tok' obj',
      Stack tok tok' (.done value) (⟨.objectValueAdd, .objectValue, current, key⟩ :: tok.below) ∧
      Reaches bounded (.standing tok obj (memberText flags key characters ++ c :: str))
        (.redo tok' obj' c str) := by
  obtain ⟨first, more, rfl, visible, -⟩ := reads.starts
  obtain ⟨tok₁, obj₁, top₁, above, reaches₁⟩ := leads_name 0 (fun _ => true)
    isState current noZero tok obj (ascii ':') (flags.space ++ first :: (more ++ c :: str)) top
    (by omega) rfl
  obtain ⟨tok₂, stack₂, reaches₂⟩ := resumed obj₁ (flags.space ++ first :: (more ++ c :: str))
    top₁ rfl (List.forall_mem_nil _) (show Visible (ascii ':') by decide)
  have leaves : ∀ str, turn bounded tok₂ obj₁ (ascii ':') str =
      some (.leave (tok₂.eat .objectValue) (ascii ':') str) := by
    intro str
    rw [turn, stack₂.top]
    rfl
  have top₂ : (tok₂.eat .objectValue).top = ⟨.eatws, .objectValue, current, key⟩ := by
    rw [Tokener.eat, stack₂.top]
  obtain ⟨tok₃, stack₃, reaches₃⟩ := separated obj₁ (more ++ c :: str) top₂ rfl
    (space_spaces flags) visible (by decide) leaves
  have isBelow : tok₃.below = tok.below := stack₃.below.trans (stack₂.below.trans above.below)
  have maxDepth : tok₃.maxDepth = tok.maxDepth :=
    stack₃.maxDepth.trans (stack₂.maxDepth.trans above.maxDepth)
  have err : tok₃.err = tok.err := stack₃.err.trans (stack₂.err.trans above.err)
  have depth : tok₃.depth = tok.depth := congrArg List.length isBelow
  have pushes : turn bounded tok₃ obj₁ first (more ++ c :: str) =
      some (.redo (tok₃.push .objectValueAdd) obj₁ first (more ++ c :: str)) := by
    have room : ¬tok₃.maxDepth ≤ tok₃.depth + 1 := by omega
    rw [turn, stack₃.top]
    simp [turnObjectValue, room]
  obtain ⟨tok₄, stack₄, reaches₄⟩ := child_started obj₁ (more ++ c :: str) visible pushes
  rw [stack₃.top, isBelow] at stack₄
  have depth₄ : tok₄.depth = tok.depth + 1 := by
    rw [Tokener.depth, stack₄.below]
    rfl
  obtain ⟨tok₅, obj₅, stack₅, reaches₅⟩ := child_read reads.leads obj₁ str stack₄.top
    (by rw [depth₄, stack₄.maxDepth]; omega) follow
  rw [stack₄.below] at stack₅
  refine ⟨tok₅, obj₅, ⟨stack₅.top, stack₅.below, ?_, ?_⟩, ?_⟩
  · rw [stack₅.maxDepth, stack₄.maxDepth, maxDepth]
  · rw [stack₅.err, stack₄.err, err]
  · have isText : memberText flags key (first :: more) ++ c :: str =
        (ascii '"' :: (jsonEscapeStr key ++ [ascii '"'])) ++ ascii ':' ::
          (flags.space ++ first :: (more ++ c :: str)) := by
      simp [memberText]
    rw [isText]
    exact (((reaches₁.trans reaches₂).trans reaches₃).trans reaches₄).trans reaches₅

theorem entriesString_cons (level : Nat) (hadChildren : Bool) {key : Text} (noZero : 0 ∉ key)
    (value : Value doubles.Double) (entries : List (Text × Value doubles.Double)) (str : Text) :
    entriesString doubles flags level hadChildren ((key, value) :: entries) ++ str =
      flags.separator hadChildren level ++
        (memberText flags key (toJsonString doubles flags (level + 1) value) ++
          (entriesString doubles flags level true entries ++ str)) := by
  rw [entriesString, takeWhile_noZero noZero]
  simp [memberText, text]

theorem entries_endsNumber (flags : ToStringFlags) (level : Nat)
    (entries : List (Text × Value doubles.Double)) (str : Text) :
    ∃ next rest, entriesString doubles flags level true entries ++
      (flags.closing true level ++ ascii '}' :: str) = next :: rest ∧ endsNumber next := by
  cases entries with
  | nil => exact spaces_endsNumber (closing_spaces flags true level) (by decide) str
  | cons entry entries =>
      obtain ⟨spaces, isSeparator, -⟩ := separator_spaces flags level
      rw [entriesString, isSeparator]
      exact ⟨ascii ',', _, rfl, by decide⟩

theorem add_new {entries : List (Text × Value doubles.Double)} {key : Text}
    (isNew : key ∉ entries.map Prod.fst) :
    Entries.add entries key value = entries ++ [(key, value)] := by
  rw [Entries.add]
  exact if_neg isNew

theorem entries_read (level : Nat) (entries : List (Text × Value doubles.Double))
    {saved : TokenerState} {taken : List (Text × Value doubles.Double)} {key : Text}
    (reads : ∀ entry ∈ entries,
      0 ∉ entry.1 ∧ ReadsAs bounded entry.2 (toJsonString doubles flags (level + 1) entry.2))
    (distinct : ((taken ++ (key, value) :: entries).map Prod.fst).Nodup)
    (top : tok.top = .done value)
    (isBelow : tok.below = ⟨.objectValueAdd, saved, .object taken, key⟩ :: below)
    (inside : ∀ entry ∈ entries, below.length + (entry.2.height + 1) < tok.maxDepth)
    (obj : Value doubles.Double) (rest : Text) :
    ∃ tok' obj', Stack tok tok' (.done (.object (taken ++ (key, value) :: entries))) below ∧
      Reaches bounded
        (.standing tok obj (entriesString doubles flags level true entries ++
          (flags.closing true level ++ ascii '}' :: c :: rest))) (.redo tok' obj' c rest) := by
  have isNew : key ∉ taken.map Prod.fst := by
    rw [List.map_append, List.map_cons, List.nodup_middle, List.nodup_cons] at distinct
    exact fun member => distinct.1 (List.mem_append_left _ member)
  induction entries generalizing tok value saved taken key obj with
  | nil =>
      obtain ⟨tok', stack, reaches⟩ := member_added obj (c :: rest) top isBelow
        (closing_spaces flags true level) (show Visible (ascii '}') by decide)
      have closed : turn bounded tok' value (ascii '}') (c :: rest) =
          some (.leave (tok'.eat .finish) (ascii '}') (c :: rest)) := by
        rw [turn, stack.top]
        rfl
      refine ⟨tok'.eat .finish, value, ⟨?_, stack.below, stack.maxDepth, stack.err⟩,
        reaches.trans (.leave closed (by decide))⟩
      rw [Tokener.eat, stack.top, add_new isNew]
      rfl
  | cons entry entries induction =>
      obtain ⟨key', next⟩ := entry
      obtain ⟨spaces, isSeparator, isSpaces⟩ := separator_spaces flags level
      obtain ⟨follow, str, isRest, ends⟩ := entries_endsNumber flags level entries (c :: rest)
      obtain ⟨noZero, readsNext⟩ := reads (key', next) List.mem_cons_self
      let member := memberText flags key' (toJsonString doubles flags (level + 1) next)
      obtain ⟨tok₁, stack₁, reaches₁⟩ := member_added obj (spaces ++ (member ++ follow :: str)) top
        isBelow (List.forall_mem_nil _) (show Visible (ascii ',') by decide)
      rw [add_new isNew] at stack₁
      have leaves : ∀ str, turn bounded tok₁ value (ascii ',') str =
          some (.leave (tok₁.eat .objectFieldStartAfterSep) (ascii ',') str) := by
        intro str
        rw [turn, stack₁.top]
        rfl
      have top₁ : (tok₁.eat .objectFieldStartAfterSep).top =
          ⟨.eatws, .objectFieldStartAfterSep, .object (taken ++ [(key, value)]), []⟩ := by
        rw [Tokener.eat, stack₁.top]
      obtain ⟨tok₂, stack₂, reaches₂⟩ := separated value (member.tail ++ follow :: str) top₁ rfl
        isSpaces (show Visible (ascii '"') by decide) (by decide) leaves
      have isBelow₂ : tok₂.below = below := stack₂.below.trans stack₁.below
      have maxDepth₂ : tok₂.maxDepth = tok.maxDepth := stack₂.maxDepth.trans stack₁.maxDepth
      have inside₂ : tok₂.depth + (next.height + 1) < tok₂.maxDepth := by
        rw [Tokener.depth, isBelow₂, maxDepth₂]
        exact inside (key', next) List.mem_cons_self
      obtain ⟨tok₃, obj₃, stack₃, reaches₃⟩ := member_read flags readsNext (Or.inr rfl) noZero
        stack₂.top inside₂ ends value str
      rw [isBelow₂] at stack₃
      have distinct' : ((taken ++ [(key, value)] ++ (key', next) :: entries).map
          Prod.fst).Nodup := by
        rw [List.append_assoc]
        exact distinct
      obtain ⟨tok₄, obj₄, stack₄, reaches₄⟩ := induction
        (fun entry isEntry => reads entry (List.mem_cons_of_mem _ isEntry)) distinct' stack₃.top
        stack₃.below
        (fun entry isEntry => by
          rw [stack₃.maxDepth, maxDepth₂]
          exact inside entry (List.mem_cons_of_mem _ isEntry)) obj₃
        (by
          rw [List.map_append, List.map_cons, List.nodup_middle, List.nodup_cons] at distinct'
          exact fun isKey => distinct'.1 (List.mem_append_left _ isKey))
      refine ⟨tok₄, obj₄, ⟨?_, stack₄.below, ?_, ?_⟩, ?_⟩
      · rw [stack₄.top, List.append_assoc]
        rfl
      · rw [stack₄.maxDepth, stack₃.maxDepth, maxDepth₂]
      · rw [stack₄.err, stack₃.err, stack₂.err]
        exact stack₁.err
      · rw [entriesString_cons level true noZero, isSeparator, isRest]
        rw [isRest] at reaches₄
        exact ((reaches₁.trans reaches₂).trans reaches₃).trans reaches₄

theorem leads_object {follows : Byte → Bool} (level : Nat)
    (entries : List (Text × Value doubles.Double))
    (reads : ∀ entry ∈ entries,
      0 ∉ entry.1 ∧ ReadsAs bounded entry.2 (toJsonString doubles flags (level + 1) entry.2))
    (distinct : (entries.map Prod.fst).Nodup) :
    Leads bounded (Value.entriesHeight entries) follows (.starting : Srec doubles.Double)
      (.done (.object entries)) (toJsonString doubles flags level (.object entries)) := by
  intro tok obj c rest top inside _
  let opened := (tok.eat .objectFieldStart).setCurrent (.object [])
  have opens : ∀ str, turn bounded tok obj (ascii '{') str =
      some (.leave opened (ascii '{') str) := by
    intro str
    rw [turn, top]
    rfl
  have isTop : opened.top = ⟨.eatws, .objectFieldStart, .object [], []⟩ := by
    simp [opened, Tokener.setCurrent, Tokener.eat, top, Srec.starting]
  cases entries with
  | nil =>
      have isSpaces : ∀ x ∈ flags.newline ++ flags.closing false level, isSpace x :=
        append_spaces (newline_spaces flags) (closing_spaces flags false level)
      obtain ⟨tok', stack, reaches⟩ := separated obj (c :: rest) isTop rfl isSpaces
        (show Visible (ascii '}') by decide) (by decide) opens
      have closed : turn bounded tok' obj (ascii '}') (c :: rest) =
          some (.leave (tok'.eat .finish) (ascii '}') (c :: rest)) := by
        rw [turn, stack.top]
        simp [turnObjectFieldStart, stack.top]
      refine ⟨tok'.eat .finish, obj, ?_, ⟨stack.below, stack.maxDepth, stack.err⟩, ?_⟩
      · rw [Tokener.eat, stack.top]
        rfl
      · have isText : toJsonString doubles flags level (.object []) ++ c :: rest =
            ascii '{' :: (flags.newline ++ flags.closing false level ++
            ascii '}' :: c :: rest) := by
          simp [toJsonString, entriesString, text]
        rw [isText]
        exact reaches.trans (.leave closed (by decide))
  | cons entry entries =>
      obtain ⟨key, value⟩ := entry
      obtain ⟨follow, str, isRest, ends⟩ := entries_endsNumber flags level entries (c :: rest)
      obtain ⟨noZero, readsFirst⟩ := reads (key, value) List.mem_cons_self
      let member := memberText flags key (toJsonString doubles flags (level + 1) value)
      obtain ⟨tok₁, stack₁, reaches₁⟩ := separated obj (member.tail ++ follow :: str) isTop rfl
        (opening_spaces flags level) (show Visible (ascii '"') by decide) (by decide) opens
      have low := entriesHeight_le_iff.mp
        (Nat.le_refl (Value.entriesHeight ((key, value) :: entries)))
      have isBelow₁ : tok₁.below = tok.below := stack₁.below
      have maxDepth₁ : tok₁.maxDepth = tok.maxDepth := stack₁.maxDepth
      obtain ⟨tok₂, obj₂, stack₂, reaches₂⟩ := member_read flags readsFirst (Or.inl rfl) noZero
        stack₁.top (by
          have := low (key, value) List.mem_cons_self
          rw [Tokener.depth, isBelow₁, maxDepth₁, ← Tokener.depth]
          omega) ends obj str
      rw [isBelow₁] at stack₂
      obtain ⟨tok₃, obj₃, stack₃, reaches₃⟩ := entries_read level entries
        (fun entry isEntry => reads entry (List.mem_cons_of_mem _ isEntry)) distinct stack₂.top
        stack₂.below
        (fun entry isEntry => by
          have := low entry (List.mem_cons_of_mem _ isEntry)
          rw [stack₂.maxDepth, maxDepth₁, ← Tokener.depth]
          omega) obj₂ rest
      refine ⟨tok₃, obj₃, stack₃.top, ⟨stack₃.below, ?_, ?_⟩, ?_⟩
      · rw [stack₃.maxDepth, stack₂.maxDepth, maxDepth₁]
      · rw [stack₃.err, stack₂.err]
        exact stack₁.err
      · have isText : toJsonString doubles flags level (.object ((key, value) :: entries)) ++
            c :: rest = ascii '{' :: (flags.newline ++
              (entriesString doubles flags level false ((key, value) :: entries) ++
                (flags.closing true level ++ ascii '}' :: c :: rest))) := by
          simp [toJsonString, text]
        rw [isText, entriesString_cons level false noZero, isRest, ← List.append_assoc]
        rw [isRest] at reaches₃
        exact (reaches₁.trans reaches₂).trans reaches₃

end Objects

/-! ## Values -/

theorem printed_starts (level : Nat) (value : Value doubles.Double)
    (readable : value.Readable flags) :
    ∃ first more, toJsonString doubles flags level value = first :: more ∧ Visible first ∧
      first ≠ ascii ']' := by
  have numbers : ∀ c : Byte, isDigit c ∨ c = ascii '-' → Visible c ∧ c ≠ ascii ']' := by decide
  cases value with
  | null => exact ⟨_, _, rfl, by decide, by decide⟩
  | boolean value => cases value <;> exact ⟨_, _, rfl, by decide, by decide⟩
  | int value =>
      obtain ⟨first, more, isText, starts, -⟩ := decimal_cons value
      exact ⟨first, more, isText, numbers first starts⟩
  | double value =>
      obtain ⟨first, more, isText, starts, -⟩ := readable value List.mem_cons_self
      exact ⟨first, more, isText, numbers first starts⟩
  | string characters => exact ⟨ascii '"', _, rfl, by decide, by decide⟩
  | array values => exact ⟨ascii '[', _, rfl, by decide, by decide⟩
  | object entries => exact ⟨ascii '{', _, rfl, by decide, by decide⟩

theorem leads_double {value : doubles.Double} (readsBack : ReadsBack doubles flags value) :
    Leads bounded 0 endsNumber .starting (.done (.double value))
      (doubles.print flags.noZero value) := by
  obtain ⟨first, more, isText, starts, chars, isDouble, scans⟩ := readsBack
  rw [isText]
  refine leads_number starts chars ?_
  rw [readNumber, if_pos isDouble, scans]
  rfl

mutual

theorem value_reads (level : Nat) : ∀ value : Value doubles.Double, value.Keyed →
    value.Readable flags →
    Leads bounded value.height endsNumber .starting (.done value)
    (toJsonString doubles flags level value)
  | .null, _, _ => leads_null
  | .boolean true, _, _ => leads_true
  | .boolean false, _, _ => leads_false
  | .int value, _, _ => leads_int value
  | .double value, _, readable => leads_double (readable value List.mem_cons_self)
  | .string characters, _, _ => leads_string characters
  | .array values, keyed, readable =>
      leads_array level values (items_reads level values keyed readable)
  | .object entries, keyed, readable =>
      leads_object level entries (entries_reads level entries keyed.2 readable) keyed.1

theorem items_reads (level : Nat) : ∀ values :
    List (Value doubles.Double), Value.ItemsKeyed values →
    (∀ number ∈ Value.itemsDoubles values, ReadsBack doubles flags number) →
    ∀ value ∈ values, ReadsAs bounded value (toJsonString doubles flags (level + 1) value)
  | [], _, _ => nofun
  | value :: values, keyed, readable => by
      intro other member
      have readable' : value.Readable flags :=
        fun number isNumber => readable number (List.mem_append_left _ isNumber)
      rcases List.mem_cons.mp member with same | member
      · rw [same]
        exact ⟨value_reads (level + 1) value keyed.1 readable',
          printed_starts (level + 1) value readable'⟩
      · exact items_reads level values keyed.2
          (fun number isNumber => readable number (List.mem_append_right _ isNumber)) other member

theorem entries_reads (level : Nat) : ∀ entries : List (Text × Value doubles.Double),
    Value.EntriesKeyed entries →
    (∀ number ∈ Value.entriesDoubles entries, ReadsBack doubles flags number) →
    ∀ entry ∈ entries, 0 ∉ entry.1 ∧
      ReadsAs bounded entry.2 (toJsonString doubles flags (level + 1) entry.2)
  | [], _, _ => nofun
  | (key, value) :: entries, keyed, readable => by
      intro other member
      have readable' : value.Readable flags :=
        fun number isNumber => readable number (List.mem_append_left _ isNumber)
      rcases List.mem_cons.mp member with same | member
      · rw [same]
        exact ⟨keyed.1, value_reads (level + 1) value keyed.2.1 readable',
          printed_starts (level + 1) value readable'⟩
      · exact entries_reads level entries keyed.2.2
          (fun number isNumber => readable number (List.mem_append_right _ isNumber)) other member

end

/-- Only a number needs to be followed by a character that ends it. -/
def Value.isNumber : Value doubles.Double → Bool
  | .int _ => true
  | .double _ => true
  | _ => false

theorem value_reads_before (level : Nat) (value : Value doubles.Double) (keyed : value.Keyed)
    (readable : value.Readable flags) {c : Byte} (ends : value.isNumber → endsNumber c)
    (tok : Tokener doubles.Double) (obj : Value doubles.Double) (rest : Text)
    (top : tok.top = .starting) (inside : tok.depth + value.height < tok.maxDepth) :
    ∃ tok' obj', tok'.top = .done value ∧ Above tok tok' ∧
      Reaches bounded (.standing tok obj (toJsonString doubles flags level value ++ c :: rest))
        (.redo tok' obj' c rest) := by
  have any : Leads bounded value.height (fun next => next = c) .starting (.done value)
      (toJsonString doubles flags level value) := by
    cases value with
    | null => exact leads_null
    | boolean value =>
        cases value with
        | true => exact leads_true
        | false => exact leads_false
    | string characters => exact leads_string characters
    | array values => exact leads_array level values (items_reads level values keyed readable)
    | object entries =>
        exact leads_object level entries (entries_reads level entries keyed.2 readable) keyed.1
    | int value =>
        intro tok obj next rest top inside isNext
        refine leads_int value tok obj next rest top inside ?_
        rw [of_decide_eq_true isNext]
        exact ends rfl
    | double value =>
        intro tok obj next rest top inside isNext
        refine leads_double (readable value List.mem_cons_self) tok obj next rest top inside ?_
        rw [of_decide_eq_true isNext]
        exact ends rfl
  exact any tok obj c rest top inside (decide_eq_true rfl)

/-! ## Printed texts are C strings -/

section NoZero

theorem noZero_append {first second : Text} (isFirst : 0 ∉ first) (isSecond : 0 ∉ second) :
    0 ∉ first ++ second := by
  rw [List.mem_append]
  exact not_or.mpr ⟨isFirst, isSecond⟩

theorem noZero_spaces {spaces : Text} (isSpaces : ∀ x ∈ spaces, isSpace x) : 0 ∉ spaces :=
  fun member => absurd (isSpaces 0 member) (by decide)

theorem noZero_number {characters : Text} (chars : ∀ x ∈ characters, isNumberChar x) :
    0 ∉ characters :=
  fun member => absurd (chars 0 member) (by decide)

theorem noZero_escaped {c : Byte} {escaped : Text} (isEscaped : escapeChar c = some escaped) :
    0 ∉ escaped := by
  rw [escapeChar] at isEscaped
  split_ifs at isEscaped with b n r t f quote backslash slash control
  all_goals obtain rfl := Option.some.inj isEscaped
  iterate 8 decide
  obtain ⟨-, -, first, second, -⟩ := hex_digits c control
  refine noZero_append (by decide) ?_
  simp only [List.mem_cons, List.not_mem_nil, or_false, not_or]
  exact ⟨first.symm, second.symm⟩

theorem noZero_escapeLoop {plain : Text} (isPlain : Plain plain) (characters : Text) :
    0 ∉ escapeLoop plain characters := by
  have noZero : ∀ {plain : Text}, Plain plain → 0 ∉ plain :=
    fun isPlain member => absurd (isPlain 0 member) (by decide)
  induction characters generalizing plain with
  | nil => exact noZero isPlain
  | cons c characters induction =>
      rw [escapeLoop]
      cases isEscaped : escapeChar c with
      | some escaped =>
          exact noZero_append (noZero_append (noZero isPlain) (noZero_escaped isEscaped))
            (induction plain_nil)
      | none =>
          refine induction fun x member => ?_
          rcases List.mem_append.mp member with member | member
          · exact isPlain x member
          · rw [List.mem_singleton.mp member, isEscaped]

theorem noZero_separator (hadChildren : Bool) (level : Nat) :
    0 ∉ flags.separator hadChildren level := by
  cases hadChildren with
  | true =>
      obtain ⟨spaces, isSeparator, isSpaces⟩ := separator_spaces flags level
      rw [isSeparator]
      exact noZero_append (show 0 ∉ [ascii ','] by decide) (noZero_spaces isSpaces)
  | false =>
      exact fun member => noZero_spaces (opening_spaces flags level)
          (List.mem_append_right _ member)

mutual

theorem printed_noZero (level : Nat) : ∀ value : Value doubles.Double, value.Readable flags →
    0 ∉ toJsonString doubles flags level value
  | .null, _ => by rw [toJsonString]; decide
  | .boolean true, _ => by rw [toJsonString]; decide
  | .boolean false, _ => by rw [toJsonString]; decide
  | .int value, _ => by
      obtain ⟨first, more, isText, -, chars⟩ := decimal_cons value
      rw [toJsonString, isText]
      exact noZero_number fun x member => (chars x member).1
  | .double value, readable => by
      obtain ⟨first, more, isText, -, chars, -⟩ := readable value List.mem_cons_self
      rw [toJsonString, isText]
      exact noZero_number chars
  | .string characters, _ => by
      rw [toJsonString]
      exact noZero_append (noZero_append (by decide) (noZero_escapeLoop plain_nil characters))
          (by decide)
  | .array values, readable => by
      rw [toJsonString]
      exact noZero_append (noZero_append (noZero_append (noZero_append (by decide)
        (noZero_spaces (newline_spaces flags))) (items_noZero level false values readable))
        (noZero_spaces (closing_spaces flags _ level))) (by decide)
  | .object entries, readable => by
      rw [toJsonString]
      exact noZero_append (noZero_append (noZero_append (noZero_append (by decide)
        (noZero_spaces (newline_spaces flags))) (entries_noZero level false entries readable))
        (noZero_spaces (closing_spaces flags _ level))) (by decide)

theorem items_noZero (level : Nat) (hadChildren : Bool) : ∀ values : List (Value doubles.Double),
    (∀ number ∈ Value.itemsDoubles values, ReadsBack doubles flags number) →
    0 ∉ itemsString doubles flags level hadChildren values
  | [], _ => List.not_mem_nil
  | value :: values, readable => by
      rw [itemsString]
      exact noZero_append (noZero_append (noZero_separator hadChildren level)
        (printed_noZero (level + 1) value
          fun number isNumber => readable number (List.mem_append_left _ isNumber)))
        (items_noZero level true values
          fun number isNumber => readable number (List.mem_append_right _ isNumber))

theorem entries_noZero (level : Nat) (hadChildren : Bool) :
    ∀ entries : List (Text × Value doubles.Double),
    (∀ number ∈ Value.entriesDoubles entries, ReadsBack doubles flags number) →
    0 ∉ entriesString doubles flags level hadChildren entries
  | [], _ => List.not_mem_nil
  | (key, value) :: entries, readable => by
      rw [entriesString]
      exact noZero_append (noZero_append (noZero_append (noZero_append (noZero_append
        (noZero_append (noZero_separator hadChildren level) (by decide))
        (noZero_escapeLoop plain_nil _)) (by decide)) (noZero_spaces (space_spaces flags)))
        (printed_noZero (level + 1) value
          fun number isNumber => readable number (List.mem_append_left _ isNumber)))
        (entries_noZero level true entries
          fun number isNumber => readable number (List.mem_append_right _ isNumber))

end

end NoZero

theorem printed_value_reaches (bounded : Bool) (value : Value doubles.Double)
    (readable : value.Readable flags) (keyed : value.Keyed) {tok : Tokener doubles.Double}
    (isReset : tok.top = .reset) (room : tok.depth + value.height < tok.maxDepth)
    (isBelow : tok.below = []) (obj : Value doubles.Double) {spaces : Text}
    (isSpaces : ∀ x ∈ spaces, isSpace x) {c : Byte} (visible : Visible c)
    (ends : value.isNumber → endsNumber c) (beyond : Text) :
    ∃ tok', tok'.top = { Srec.done value with state := .finish } ∧ tok'.below = [] ∧
      tok'.err = tok.err ∧
      Reaches bounded
        (.standing tok obj (jsonObjectToJsonStringExt doubles flags value ++
        (spaces ++ c :: beyond)))
        (.out tok' c) := by
  obtain ⟨first, more, isText, isVisible, -⟩ := printed_starts 0 value readable
  obtain ⟨next, rest, isRest, endsNext⟩ : ∃ next rest, spaces ++ c :: beyond = next :: rest ∧
      (value.isNumber → endsNumber next) := by
    by_cases isNumber : value.isNumber
    · obtain ⟨next, rest, isRest, ends⟩ := spaces_endsNumber isSpaces (ends isNumber) beyond
      exact ⟨next, rest, isRest, fun _ => ends⟩
    · obtain ⟨next, rest, isRest⟩ :=
        List.exists_cons_of_ne_nil (show spaces ++ c :: beyond ≠ [] by simp)
      exact ⟨next, rest, isRest, fun yes => absurd yes isNumber⟩
  obtain ⟨tok₁, stack₁, reaches₁⟩ := resumed obj (more ++ next :: rest) isReset rfl
    (List.forall_mem_nil _) isVisible
  have depth₁ : tok₁.depth = tok.depth := congrArg List.length stack₁.below
  obtain ⟨tok₂, obj₂, top₂, above₂, reaches₂⟩ := value_reads_before 0 value keyed readable endsNext
    tok₁ obj rest stack₁.top (by rw [depth₁, stack₁.maxDepth]; exact room)
  obtain ⟨tok₃, stack₃, reaches₃⟩ := resumed obj₂ beyond top₂ rfl isSpaces visible
  have below₃ : tok₃.below = [] := stack₃.below.trans
      (above₂.below.trans (stack₁.below.trans isBelow))
  have finishes : turn bounded tok₃ obj₂ c beyond = some (.out tok₃ c) := by
    rw [turn, stack₃.top]
    simp [turnFinish, below₃, Srec.done]
  refine ⟨tok₃, stack₃.top, below₃, stack₃.err.trans (above₂.err.trans stack₁.err), ?_⟩
  rw [isRest] at reaches₃ ⊢
  rw [jsonObjectToJsonStringExt, isText]
  rw [isText] at reaches₂
  exact ((reaches₁.trans reaches₂).trans reaches₃).trans (.out finishes)

theorem parseOut_finished {tok : Tokener doubles.Double} {c : Byte}
    (isState : tok.top.state = .finish)
    (success : tok.err = .success) :
    (parseOut tok c).1.err = .success ∧ (parseOut tok c).2 = tok.top.current := by
  have notEof : ¬(c = 0 ∧ tok.top.state ≠ .finish ∧ tok.top.savedState ≠ .finish) :=
    fun eof => eof.2.1 isState
  unfold parseOut
  rw [if_neg notEof]
  dsimp only
  rw [if_pos success]
  exact ⟨success, rfl⟩

/-- `json_tokener_parse` reads a printed value that fits, whatever stands behind the next
visible character. -/
theorem printed_value_is_read (value : Value doubles.Double) (readable : value.Readable flags)
    (fits : Fits jsonTokenerDefaultDepth 0 value) {spaces : Text}
    (isSpaces : ∀ x ∈ spaces, isSpace x) {c : Byte} (visible : Visible c)
    (ends : value.isNumber → endsNumber c) (beyond : Text) :
    jsonTokenerParseVerbose doubles
        (jsonObjectToJsonStringExt doubles flags value ++ (spaces ++ c :: beyond)) =
      some (.success, value) := by
  obtain ⟨first, more, isText, -⟩ := printed_starts 0 value readable
  let tok : Tokener doubles.Double := (jsonTokenerNewEx jsonTokenerDefaultDepth).fail .success
  have room : 0 + value.height < jsonTokenerDefaultDepth := by
    have := fits.height
    omega
  obtain ⟨tok', top, below, err, reaches⟩ := printed_value_reaches false value readable fits.keyed
    (show tok.top = .reset from rfl) room rfl .null isSpaces visible ends beyond
  rw [jsonObjectToJsonStringExt, isText] at reaches ⊢
  generalize spaces ++ c :: beyond = rest at reaches
  have looped : parseLoop false (switches * ((more ++ rest).length + 1))
      (.redo tok .null first (more ++ rest)) = some (tok', c) :=
    reaches.parseLoop ((default_wellFormed .null).fail .success) (work_le _ _ _)
  have finished := parseOut_finished (c := c) (by rw [top]) err
  rw [jsonTokenerParseVerbose, List.cons_append, jsonTokenerParseEx]
  dsimp only
  rw [looped]
  simp only [Option.bind_eq_bind, Option.bind_some, finished.1, finished.2, if_true]
  rw [top]
  rfl

/-- `json_tokener_parse` reads a printed value as itself exactly when its arrays and objects
fit into the tokener's stack and no object has a key twice or with a zero in it. -/
theorem printed_value_is_read_iff (doubles : Doubles) (flags : ToStringFlags)
    (value : Value doubles.Double) (readable : value.Readable flags) (beyond : Text) :
    jsonTokenerParseVerbose doubles (jsonObjectToJsonStringExt doubles flags value ++ 0 :: beyond) =
        some (.success, value) ↔
      Fits jsonTokenerDefaultDepth 0 value := by
  constructor
  · exact parseVerbose_fits
  · intro fits
    exact printed_value_is_read value readable fits (List.forall_mem_nil _)
      (show Visible 0 by decide) (fun _ => by decide) beyond

/-- `{"d": [-7, 1.5, "\u0001/"], "": null}`. -/
def sampleValue : Value Text :=
  .object [(text ['d'], .array [.int (-7), .double (text ['1', '.', '5']),
    .string [1, ascii '/']]), ([], .null)]

theorem sampleValue_readable : @Value.Readable textDoubles ⟨true, true, false⟩ sampleValue := by
  intro number member
  obtain rfl := List.mem_singleton.mp member
  exact ⟨ascii '1', text ['.', '5'], rfl, by decide, by decide, by decide, rfl⟩

theorem sampleValue_fits : Fits jsonTokenerDefaultDepth 0 sampleValue := by
  refine ⟨by decide, ?_⟩
  have keys : [text ['d'], []].Nodup := by decide
  have noZero : 0 ∉ text ['d'] := by decide
  exact ⟨keys, noZero, ⟨trivial, trivial, trivial, trivial⟩, List.not_mem_nil, trivial, trivial⟩

theorem printed_value_is_read_pretty :
    jsonTokenerParseVerbose textDoubles
        (jsonObjectToJsonStringExt textDoubles ⟨true, true, false⟩ sampleValue ++ [0]) =
      some (.success, sampleValue) :=
  (printed_value_is_read_iff textDoubles ⟨true, true, false⟩ sampleValue
    sampleValue_readable []).mpr sampleValue_fits

end StudyDemo.Json
