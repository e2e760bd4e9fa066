/-!
# Programs with words

The definitions of this library count with natural numbers. A machine has words for them, and how
a program is built decides what becomes of a sum that is no word: in a checked build it stops the
program, and in a wrapping build the program goes on with the remainder. The same is true of a
difference below zero. Looking for what is not there stops the program in either build.

A program that computes a value arrives at it as long as its sums fit. A checked build can then be
stopped by a sum, but never goes on with anything else and never looks for what is not there.
-/

namespace LootRules.Machine

/-- The first number that is no word. -/
def wordSize : Nat := 0x10000000000000000

/-- Why a program stops. -/
inductive Stop where
  /-- A row, a range or a difference does not exist. -/
  | access
  /-- A sum is no word. -/
  | overflow
  deriving DecidableEq, Repr

/-- What becomes of sums and differences that are no words. -/
inductive Build where
  | checked | wrapping
  deriving DecidableEq, Repr

namespace Build

/-- The sum of two words. -/
def sum (build : Build) (a b : Nat) : Except Stop Nat :=
  if a + b < wordSize then .ok (a + b)
  else
    match build with
    | checked => .error .overflow
    | wrapping => .ok ((a + b) % wordSize)

/-- The difference of two words. -/
def difference (build : Build) (a b : Nat) : Except Stop Nat :=
  if b ≤ a then .ok (a - b)
  else
    match build with
    | checked => .error .access
    | wrapping => .ok ((a + wordSize - b) % wordSize)

end Build

variable {α β : Type} {build : Build} {fits : Prop}

/-- What is looked for, which has to be there. -/
def found : Option α → Except Stop α
  | some a => .ok a
  | none => .error .access

/-- A program goes on from where another arrives. -/
theorem bind_eq_ok {program : Except Stop α} {value : α} {next : α → Except Stop β} {result : β}
    (h : program = .ok value) (go : next value = .ok result) :
    program >>= next = .ok result := by
  rw [h]
  exact go

/-- A program computes a value: it arrives at the value if its sums fit, and in a checked build
unless one of them stops it. -/
structure Computes (build : Build) (fits : Prop) (program : Except Stop α) (value : α) : Prop where
  of_fits : fits → program = .ok value
  of_checked : build = .checked → program = .ok value ∨ program = .error .overflow

/-- A program without sums computes where it ends. -/
theorem Computes.of_eq {program : Except Stop α} {value : α} (h : program = .ok value) :
    Computes build fits program value :=
  ⟨fun _ => h, fun _ => .inl h⟩

/-- A program that goes on from what another computes. -/
theorem Computes.bind {program : Except Stop α} {value : α} {next : α → Except Stop β} {result : β}
    (h : Computes build fits program value) (go : Computes build fits (next value) result) :
    Computes build fits (program >>= next) result where
  of_fits := fun right => bind_eq_ok (h.of_fits right) (go.of_fits right)
  of_checked := fun checked => by
    rcases h.of_checked checked with arrived | stopped
    · rw [arrived]
      exact go.of_checked checked
    · rw [stopped]
      exact .inr rfl

/-- A part of what a program computes. -/
theorem Computes.map {program : Except Stop α} {value : α} (h : Computes build fits program value)
    (part : α → β) : Computes build fits (program.map part) (part value) where
  of_fits := fun right => by
    rw [h.of_fits right]
    rfl
  of_checked := fun checked => by
    rcases h.of_checked checked with arrived | stopped
    · rw [arrived]
      exact .inl rfl
    · rw [stopped]
      exact .inr rfl

/-- A sum is computed where those that fit include it. -/
theorem Computes.sum {a b : Nat} (h : fits → a + b < wordSize) :
    Computes build fits (build.sum a b) (a + b) where
  of_fits := fun right => if_pos (h right)
  of_checked := fun checked => by
    rw [checked, Build.sum]
    split
    · exact .inl rfl
    · exact .inr rfl

/-- A difference is computed where it exists. -/
theorem Computes.difference {a b : Nat} (h : b ≤ a) :
    Computes build fits (build.difference a b) (a - b) :=
  .of_eq (if_pos h)

end LootRules.Machine
