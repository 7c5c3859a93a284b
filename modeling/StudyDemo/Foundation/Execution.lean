import Mathlib.Data.List.Basic
import Mathlib.Tactic.Common

/-! # Runs of a step function

A component that keeps state between calls is a step function from a state and
an input to the next state and an optional observation. This file runs it over
a list of inputs and packages the inductions every component uses: invariants
of all reached states, properties of all observations, and observations that can
happen at most once. -/

namespace StudyDemo.Execution

/-- One call: the next state and what the call lets its environment observe. -/
abbrev Step (State Input Observation : Type*) :=
  State → Input → State × Option Observation

variable {State Input Observation : Type*}

/-- The state after all the inputs. -/
def finalState (step : Step State Input Observation) (initial : State) :
    List Input → State
  | [] => initial
  | input :: inputs => finalState step (step initial input).1 inputs

/-- What is observed while the inputs are consumed, in order. -/
def observations (step : Step State Input Observation) (initial : State) :
    List Input → List Observation
  | [] => []
  | input :: inputs =>
      (step initial input).2.toList ++
        observations step (step initial input).1 inputs

section Basics

variable (step : Step State Input Observation)

@[simp] theorem finalState_nil (initial : State) :
    finalState step initial [] = initial := rfl

@[simp] theorem finalState_cons (initial : State) (input : Input)
    (inputs : List Input) :
    finalState step initial (input :: inputs) =
      finalState step (step initial input).1 inputs := rfl

@[simp] theorem observations_nil (initial : State) :
    observations step initial [] = [] := rfl

@[simp] theorem observations_cons (initial : State) (input : Input)
    (inputs : List Input) :
    observations step initial (input :: inputs) =
      (step initial input).2.toList ++
        observations step (step initial input).1 inputs := rfl

theorem finalState_append (initial : State) (first second : List Input) :
    finalState step initial (first ++ second) =
      finalState step (finalState step initial first) second := by
  induction first generalizing initial with
  | nil => rfl
  | cons input inputs induction => exact induction (step initial input).1

theorem observations_append (initial : State) (first second : List Input) :
    observations step initial (first ++ second) =
      observations step initial first ++
        observations step (finalState step initial first) second := by
  induction first generalizing initial with
  | nil => rfl
  | cons input inputs induction =>
      simp [induction (step initial input).1, List.append_assoc]

end Basics

/-- Every call of the run meets a condition on the state it starts from. -/
def EachCall (step : Step State Input Observation) (Condition : State → Input → Prop)
    (initial : State) (inputs : List Input) : Prop :=
  ∀ before input after, inputs = before ++ input :: after →
    Condition (finalState step initial before) input

theorem eachCall_cons {step : Step State Input Observation} {Condition : State → Input → Prop}
    {initial : State} {input : Input} {inputs : List Input} :
    EachCall step Condition initial (input :: inputs) ↔
      Condition initial input ∧ EachCall step Condition (step initial input).1 inputs := by
  constructor
  · intro each
    refine ⟨each [] input inputs rfl, fun before later after split => ?_⟩
    exact each (input :: before) later after (by rw [split, List.cons_append])
  · rintro ⟨here, each⟩ before later after split
    cases before with
    | nil =>
        obtain ⟨rfl, rfl⟩ := List.cons.inj split
        exact here
    | cons first before =>
        obtain ⟨rfl, rest⟩ := List.cons.inj split
        exact each before later after rest

theorem eachCall_nil (step : Step State Input Observation) (Condition : State → Input → Prop)
    (initial : State) : EachCall step Condition initial [] := by
  intro before input after split
  exact absurd split (List.append_ne_nil_of_right_ne_nil before (List.cons_ne_nil _ _)).symm

instance EachCall.decidable (step : Step State Input Observation)
    (Condition : State → Input → Prop)
    [∀ state input, Decidable (Condition state input)] :
    (initial : State) → (inputs : List Input) →
      Decidable (EachCall step Condition initial inputs)
  | initial, [] => isTrue (eachCall_nil step Condition initial)
  | initial, input :: inputs =>
      let _ := decidable step Condition (step initial input).1 inputs
      decidable_of_iff _ eachCall_cons.symm

theorem eachCall_of_append {step : Step State Input Observation}
    {Condition : State → Input → Prop} {initial : State} {first second : List Input}
    (each : EachCall step Condition initial (first ++ second)) :
    EachCall step Condition initial first := by
  intro before input after split
  apply each before input (after ++ second)
  rw [split, List.append_assoc, List.cons_append]

theorem eachCall_append {step : Step State Input Observation}
    {Condition : State → Input → Prop} {initial : State} {first second : List Input}
    (each : EachCall step Condition initial first)
    (then_ : EachCall step Condition (finalState step initial first) second) :
    EachCall step Condition initial (first ++ second) := by
  induction first generalizing initial with
  | nil => exact then_
  | cons input inputs induction =>
      obtain ⟨here, rest⟩ := eachCall_cons.mp each
      exact eachCall_cons.mpr ⟨here, induction rest then_⟩

theorem eachCall_of_allowed (step : Step State Input Observation) {Allowed : Input → Prop}
    (initial : State) {inputs : List Input} (allowed : ∀ input ∈ inputs, Allowed input) :
    EachCall step (fun _ => Allowed) initial inputs := by
  intro before input after split
  apply allowed input
  rw [split]
  exact List.mem_append_right before List.mem_cons_self

section Invariants

variable {step : Step State Input Observation} (Condition : State → Input → Prop)
  (Invariant : State → Prop)
  (preserved : ∀ state input, Condition state input → Invariant state →
    Invariant (step state input).1)
  {initial : State} {inputs : List Input}

include preserved

theorem invariant_finalState (each : EachCall step Condition initial inputs)
    (holds : Invariant initial) : Invariant (finalState step initial inputs) := by
  induction inputs generalizing initial with
  | nil => exact holds
  | cons input inputs induction =>
      obtain ⟨here, rest⟩ := eachCall_cons.mp each
      exact induction rest (preserved initial input here holds)

theorem eachCall_invariant (each : EachCall step Condition initial inputs)
    (holds : Invariant initial) :
    EachCall step (fun state input => Condition state input ∧ Invariant state) initial inputs := by
  intro before input after split
  refine ⟨each before input after split, ?_⟩
  apply invariant_finalState Condition Invariant preserved _ holds
  exact eachCall_of_append (split ▸ each)

/-- What the invariant guarantees of the observation of one call holds of all
the observations of a run. -/
theorem forall_observations {Good : Observation → Prop}
    (observed : ∀ state input, Condition state input → Invariant state →
      ∀ seen ∈ (step state input).2, Good seen)
    (each : EachCall step Condition initial inputs) (holds : Invariant initial) :
    ∀ seen ∈ observations step initial inputs, Good seen := by
  induction inputs generalizing initial with
  | nil => simp
  | cons input inputs induction =>
      obtain ⟨here, rest⟩ := eachCall_cons.mp each
      intro seen member
      rcases List.mem_append.mp member with now | later
      · exact observed initial input here holds seen (by simpa using now)
      · exact induction rest (preserved initial input here holds) seen later

end Invariants

section Pairs

variable {step : Step State Input Observation} {Condition : State → Input → Prop}
  {Related : Observation → State → Prop} {Good : Observation → Observation → Prop}

/-- What every state reached after an observation has to do with it carries over
to the pairs of observations of a run. -/
theorem pairwise_observations
    (establishes : ∀ state input, Condition state input →
      ∀ seen ∈ (step state input).2, Related seen (step state input).1)
    (preserved : ∀ seen state input, Condition state input → Related seen state →
      Related seen (step state input).1)
    (observed : ∀ seen state input, Condition state input → Related seen state →
      ∀ later ∈ (step state input).2, Good seen later)
    {initial : State} {inputs : List Input} (each : EachCall step Condition initial inputs) :
    (observations step initial inputs).Pairwise Good := by
  induction inputs generalizing initial with
  | nil => exact List.Pairwise.nil
  | cons input inputs induction =>
      obtain ⟨here, rest⟩ := eachCall_cons.mp each
      have later := induction rest
      rw [observations_cons]
      cases emitted : (step initial input).2 with
      | none => exact later
      | some seen =>
          have related := establishes initial input here seen emitted
          exact List.pairwise_cons.mpr ⟨forall_observations Condition (Related seen)
            (preserved seen) (observed seen) rest related, later⟩

end Pairs

section AtMostOnce

variable {step : Step State Input Observation} (Invariant Done : State → Prop)
  {select : Observation → Bool}

/-- Once `Done` holds it stays, and nothing selected is observed any more. -/
theorem no_selected_observation
    (preserved : ∀ state input, Invariant state → Invariant (step state input).1)
    (stays : ∀ state input, Invariant state → Done state →
      Done (step state input).1)
    (silent : ∀ state input, Invariant state → Done state →
      ∀ seen ∈ (step state input).2, select seen = false)
    {initial : State} (inputs : List Input) (holds : Invariant initial)
    (done : Done initial) :
    (observations step initial inputs).countP select = 0 := by
  induction inputs generalizing initial with
  | nil => rfl
  | cons input inputs induction =>
      have later := induction (preserved initial input holds)
        (stays initial input holds done)
      have now : (step initial input).2.toList.countP select = 0 := by
        rw [List.countP_eq_zero]
        intro seen member
        simp [silent initial input holds done seen (by simpa using member)]
      simp [List.countP_append, now, later]

/-- An observation whose call establishes `Done`, and which cannot happen once
`Done` holds, happens at most once in any run. -/
theorem selected_observation_at_most_once
    (preserved : ∀ state input, Invariant state → Invariant (step state input).1)
    (stays : ∀ state input, Invariant state → Done state →
      Done (step state input).1)
    (silent : ∀ state input, Invariant state → Done state →
      ∀ seen ∈ (step state input).2, select seen = false)
    (establishes : ∀ state input, Invariant state →
      ∀ seen ∈ (step state input).2, select seen = true →
        Done (step state input).1)
    {initial : State} (inputs : List Input) (holds : Invariant initial) :
    (observations step initial inputs).countP select ≤ 1 := by
  induction inputs generalizing initial with
  | nil => simp
  | cons input inputs induction =>
      have nextHolds := preserved initial input holds
      rw [observations_cons, List.countP_append]
      cases emitted : (step initial input).2 with
      | none => simpa using induction nextHolds
      | some seen =>
          cases chosen : select seen with
          | false => simpa [chosen] using induction nextHolds
          | true =>
              have done : Done (step initial input).1 :=
                establishes initial input holds seen (by simp [emitted]) chosen
              have later := no_selected_observation Invariant Done preserved stays silent inputs
                nextHolds done
              simp [chosen, later]

end AtMostOnce

end StudyDemo.Execution
