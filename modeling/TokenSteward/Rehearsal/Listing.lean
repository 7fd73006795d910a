import TokenSteward.Number.Digits
import TokenSteward.Resource.Object

/-! # Listings that do not depend on chance

A name that a store has made up ends in a serial number where a real one ends in chance. Where such
a name is listed, the objects are listed by namespace and name, with serial numbers compared as
numbers. Without it they stay in the order of the store.
-/

namespace TokenSteward.Rehearsal

open TokenSteward.Resource TokenSteward.Number

/-- A name without the serial number and the bracket at its end, and the serial number. -/
def unnumbered (name : String) : String × Nat :=
  let reversed := name.toList.reverse.drop 1
  (String.ofList (reversed.dropWhile isDigit).reverse,
    ofDigits (reversed.takeWhile isDigit).reverse)

/-- The place of an object in a listing: its namespace, its name and, if the name was made up, its
serial number. -/
def placeOf (isMadeUp : String → Bool) (m : Metadata) : String × String × Nat :=
  (m.space, if isMadeUp m.name then unnumbered m.name else (m.name, 0))

/-- Whether one place comes before another one, or is the same. -/
def isListedBefore : String × String × Nat → String × String × Nat → Bool
  | (space, name, serial), (space', name', serial') =>
    decide (space < space' ∨ (space = space' ∧ (name < name' ∨ (name = name' ∧ serial ≤ serial'))))

/-- Objects in the order in which they are listed. -/
def listed {σ τ : Type} (isMadeUp : String → Bool) (objects : List (Object σ τ)) :
    List (Object σ τ) :=
  if objects.any fun o => isMadeUp o.metadata.name then
    objects.mergeSort fun a b =>
      isListedBefore (placeOf isMadeUp a.metadata) (placeOf isMadeUp b.metadata)
  else objects

end TokenSteward.Rehearsal
