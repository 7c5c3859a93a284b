import Mathlib.Data.List.Infix
import Mathlib.InformationTheory.Coding.UniquelyDecodable

/-! # Prefix codes

A code that gives every letter a word of its own, none of them the beginning of
another, can be read back: different texts have different encodings. Words that
are single letters, or stand between an opening and a closing letter, are such a
code. -/

namespace StudyDemo

open InformationTheory

/-- A word for every letter, with different words for different letters. -/
structure PrefixCode (Letter Symbol : Type*) where
  word : Letter → List Symbol
  word_injective : Function.Injective word
  word_ne_nil : ∀ letter, word letter ≠ []
  prefixFree : ∀ letter other, word letter <+: word other → word letter = word other

namespace PrefixCode

variable {Letter Symbol : Type*} (code : PrefixCode Letter Symbol)

/-- The words of a text, one behind the other. -/
def encode (text : List Letter) : List Symbol := text.flatMap code.word

@[simp] theorem encode_nil : code.encode [] = [] := rfl

@[simp] theorem encode_cons (letter : Letter) (text : List Letter) :
    code.encode (letter :: text) = code.word letter ++ code.encode text := rfl

theorem word_eq_of_append_eq {letter other : Letter} {rest otherRest : List Symbol}
    (equal : code.word letter ++ rest = code.word other ++ otherRest) :
    code.word letter = code.word other := by
  have first : code.word letter <+: code.word other ++ otherRest :=
    equal ▸ List.prefix_append _ _
  have second : code.word other <+: code.word other ++ otherRest := List.prefix_append _ _
  rcases List.prefix_or_prefix_of_prefix first second with shorter | longer
  · exact code.prefixFree _ _ shorter
  · exact (code.prefixFree _ _ longer).symm

theorem uniquelyDecodable : UniquelyDecodable (Set.range code.word) := by
  intro words others wordsOf othersOf equal
  induction words generalizing others with
  | nil =>
      cases others with
      | nil => rfl
      | cons other others =>
          obtain ⟨letter, rfl⟩ := othersOf _ List.mem_cons_self
          have empty := List.append_eq_nil_iff.mp equal.symm
          exact absurd empty.1 (code.word_ne_nil letter)
  | cons word words induction =>
      obtain ⟨letter, rfl⟩ := wordsOf _ List.mem_cons_self
      cases others with
      | nil =>
          have empty := List.append_eq_nil_iff.mp equal
          exact absurd empty.1 (code.word_ne_nil letter)
      | cons other others =>
          obtain ⟨otherLetter, rfl⟩ := othersOf _ List.mem_cons_self
          rw [List.flatten_cons, List.flatten_cons] at equal
          have same := code.word_eq_of_append_eq equal
          rw [same] at equal ⊢
          rw [induction others (fun word member => wordsOf word (List.mem_cons_of_mem _ member))
            (fun word member => othersOf word (List.mem_cons_of_mem _ member))
            (List.append_cancel_left equal)]

theorem encode_injective : Function.Injective code.encode := by
  intro text other equal
  have words : ∀ letters : List Letter, ∀ word ∈ letters.map code.word,
      word ∈ Set.range code.word := by
    intro letters word member
    obtain ⟨letter, _, rfl⟩ := List.mem_map.mp member
    exact Set.mem_range_self letter
  have sameWords : text.map code.word = other.map code.word :=
    code.uniquelyDecodable _ _ (words text) (words other) equal
  exact List.map_injective_iff.mpr code.word_injective sameWords

theorem length_encode_le {bound : Nat} (short : ∀ letter, (code.word letter).length ≤ bound)
    (text : List Letter) : (code.encode text).length ≤ bound * text.length := by
  induction text with
  | nil => exact Nat.zero_le _
  | cons letter text induction =>
      have here := short letter
      rw [encode_cons, List.length_append, List.length_cons, Nat.mul_succ]
      omega

end PrefixCode

/-! ## Delimited words -/

/-- A single letter other than the opening one, or a body between the opening and
the closing letter, which does not occur in it. -/
def Delimited {Symbol : Type*} (opening closing : Symbol) (word : List Symbol) : Prop :=
  (∃ symbol, symbol ≠ opening ∧ word = [symbol]) ∨
    ∃ body, closing ∉ body ∧ word = opening :: (body ++ [closing])

section Delimited

variable {Symbol : Type*} {opening closing : Symbol} {word other : List Symbol}

theorem Delimited.ne_nil (delimited : Delimited opening closing word) : word ≠ [] := by
  rcases delimited with ⟨symbol, -, rfl⟩ | ⟨body, -, rfl⟩
  · exact List.cons_ne_nil _ _
  · exact List.cons_ne_nil _ _

theorem body_eq_of_begins {body otherBody : List Symbol} (outside : closing ∉ body)
    (otherOutside : closing ∉ otherBody) (begins : body ++ [closing] <+: otherBody ++ [closing]) :
    body = otherBody := by
  induction body generalizing otherBody with
  | nil =>
      cases otherBody with
      | nil => rfl
      | cons symbol otherBody =>
          have same := (List.cons_prefix_cons.mp begins).1
          exact absurd (same ▸ List.mem_cons_self) otherOutside
  | cons symbol body induction =>
      cases otherBody with
      | nil =>
          have same := (List.cons_prefix_cons.mp begins).1
          exact absurd (same ▸ List.mem_cons_self) outside
      | cons otherSymbol otherBody =>
          obtain ⟨rfl, rest⟩ := List.cons_prefix_cons.mp begins
          rw [induction (fun member => outside (List.mem_cons_of_mem _ member))
            (fun member => otherOutside (List.mem_cons_of_mem _ member)) rest]

theorem Delimited.eq_of_begins (delimited : Delimited opening closing word)
    (otherDelimited : Delimited opening closing other) (begins : word <+: other) :
    word = other := by
  rcases delimited with ⟨symbol, closed, rfl⟩ | ⟨body, outside, rfl⟩
  · rcases otherDelimited with ⟨otherSymbol, -, rfl⟩ | ⟨otherBody, -, rfl⟩
    · rw [(List.cons_prefix_cons.mp begins).1]
    · exact absurd (List.cons_prefix_cons.mp begins).1 closed
  · rcases otherDelimited with ⟨otherSymbol, closed, rfl⟩ | ⟨otherBody, otherOutside, rfl⟩
    · exact absurd (List.cons_prefix_cons.mp begins).1.symm closed
    · rw [body_eq_of_begins outside otherOutside (List.cons_prefix_cons.mp begins).2]

end Delimited

/-- A code of delimited words. -/
def PrefixCode.ofDelimited {Letter Symbol : Type*} (opening closing : Symbol)
    (word : Letter → List Symbol) (injective : Function.Injective word)
    (delimited : ∀ letter, Delimited opening closing (word letter)) :
    PrefixCode Letter Symbol where
  word := word
  word_injective := injective
  word_ne_nil := fun letter => (delimited letter).ne_nil
  prefixFree := fun letter other begins => (delimited letter).eq_of_begins (delimited other) begins

end StudyDemo
