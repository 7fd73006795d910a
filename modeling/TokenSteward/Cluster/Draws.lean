import TokenSteward.Number.Digits

/-! # What a store draws

A store draws the uid of each object that it creates (a random `Uuid`), and the end of each name that it
makes up (`generate_name`). A
drawn name is one that no object has at the time; it may have been drawn before and be free again. Of
uids nothing is known here: who relies on their being different says so.
-/

namespace TokenSteward.Cluster

/-- What a store draws from outside. Each draw has a number; that of a name may depend on its beginning
and on the names that are taken, and gives none of these. -/
structure Draws where
  uid : Nat → String
  ending : Nat → String → List String → String
  free : ∀ (number : Nat) (beginning : String) (taken : List String),
    beginning ++ ending number beginning taken ∉ taken

namespace Draws

open TokenSteward.Number

/-- The text of a serial number with a mark that tells stores apart. -/
def serialText (mark : String) (serial : Nat) : String := "<" ++ mark ++ natText serial ++ ">"

theorem serialText_injective {mark : String} {n m : Nat}
    (same : serialText mark n = serialText mark m) : n = m := by
  apply natText_injective
  have lists := congrArg String.toList same
  simp only [serialText, String.toList_append, List.append_assoc] at lists
  exact String.toList_injective (List.append_cancel_right (List.append_cancel_left
    (List.append_cancel_left lists)))

/-- Names that differ in the serial number are different. -/
theorem append_serialText_ne (mark beginning : String) {n m : Nat} (other : n ≠ m) :
    beginning ++ serialText mark n ≠ beginning ++ serialText mark m := by
  intro same
  apply other
  have lists := congrArg String.toList same
  simp only [String.toList_append] at lists
  exact serialText_injective (String.toList_injective (List.append_cancel_left lists))

/-- The first of some serial numbers in a row whose name is not taken, or the one after them. -/
def freeSerial (mark beginning : String) (taken : List String) : Nat → Nat → Nat
  | 0, serial => serial
  | tries + 1, serial =>
    if beginning ++ serialText mark serial ∈ taken then
      freeSerial mark beginning taken tries (serial + 1)
    else serial

theorem le_freeSerial (mark beginning : String) (taken : List String) (tries serial : Nat) :
    serial ≤ freeSerial mark beginning taken tries serial := by
  induction tries generalizing serial with
  | zero => exact Nat.le_refl _
  | succ tries ih =>
    rw [freeSerial]
    split
    · exact Nat.le_of_succ_le (ih (serial + 1))
    · exact Nat.le_refl _

/-- A taken name with a smaller number does not matter for a search. -/
theorem freeSerial_erase {mark beginning : String} {taken : List String} {number tries serial : Nat}
    (smaller : number < serial) :
    freeSerial mark beginning (taken.erase (beginning ++ serialText mark number)) tries serial =
      freeSerial mark beginning taken tries serial := by
  induction tries generalizing serial with
  | zero => rfl
  | succ tries ih =>
    have other := append_serialText_ne mark beginning (Nat.ne_of_gt smaller)
    simp only [freeSerial, List.mem_erase_of_ne other, ih (Nat.lt_succ_of_lt smaller)]

/-- With a try for each taken name, the search comes to a free one. -/
theorem freeSerial_free {mark beginning : String} {taken : List String} {tries : Nat}
    (enough : taken.length ≤ tries) (serial : Nat) :
    beginning ++ serialText mark (freeSerial mark beginning taken tries serial) ∉ taken := by
  induction tries generalizing taken serial with
  | zero =>
    rw [List.eq_nil_of_length_eq_zero (Nat.le_zero.mp enough)]
    exact List.not_mem_nil
  | succ tries ih =>
    rw [freeSerial]
    split
    · next here =>
      -- the search goes on as if the name that was met were not there
      have fewer : (taken.erase (beginning ++ serialText mark serial)).length ≤ tries := by
        rw [List.length_erase_of_mem here]
        omega
      have free := ih fewer (serial + 1)
      rw [freeSerial_erase (Nat.lt_succ_self serial)] at free
      have other := append_serialText_ne mark beginning
        (Nat.ne_of_gt (le_freeSerial mark beginning taken tries (serial + 1)))
      exact fun there => free ((List.mem_erase_of_ne other).mpr there)
    · next free => exact free

/-- Names end in a serial number, searched from a first one on that the draw's number decides. Uids are
numbered. -/
def numbered (mark : String) (first : Nat → Nat) : Draws where
  uid number := serialText ("uid:" ++ mark) (number + 1)
  ending number beginning taken :=
    serialText mark (freeSerial mark beginning taken taken.length (first number))
  free _ _ _ := freeSerial_free (Nat.le_refl _) _

/-- No uid is drawn twice by numbers. -/
theorem uid_numbered_injective {mark : String} {first : Nat → Nat} {n m : Nat}
    (same : (numbered mark first).uid n = (numbered mark first).uid m) : n = m :=
  Nat.succ.inj (serialText_injective same)

/-- No serial number comes twice. -/
def serial (mark : String) : Draws := numbered mark (· + 1)

/-- The smallest serial number whose name is free comes again and again. -/
def recurring (mark : String) : Draws := numbered mark fun _ => 1

end Draws

end TokenSteward.Cluster
