/-!
# Decimal digits

The value of decimal digits.  The digits of a number give it back, and only zero
begins with the digit zero.
-/

namespace LessonSite

/-- The value of a run of decimal digits. -/
def decimalValue (digits : List Char) : Nat :=
  Nat.ofDigitChars 10 digits 0

theorem decimalValue_toDigits (number : Nat) :
    decimalValue (Nat.toDigits 10 number) = number :=
  Nat.ofDigitChars_ten_toDigits

theorem toList_toString (number : Nat) :
    (toString number).toList = Nat.toDigits 10 number := by
  rw [Nat.toString_eq_ofList_toDigits, String.toList_ofList]

theorem isDigit_of_mem_toDigits {number : Nat} {digit : Char}
    (member : digit ∈ Nat.toDigits 10 number) : digit.isDigit = true :=
  Nat.isDigit_of_mem_toDigits (by decide) (by decide) member

theorem exists_toDigits_eq_cons (number : Nat) :
    ∃ first rest,
      Nat.toDigits 10 number = first :: rest ∧ first.isDigit = true := by
  obtain ⟨first, rest, digits⟩ :=
    List.exists_cons_of_ne_nil (Nat.toDigits_ne_nil (n := number) (b := 10))
  exact ⟨first, rest, digits,
    isDigit_of_mem_toDigits (digits ▸ List.mem_cons_self)⟩

theorem head?_toDigits_ne_zero {number : Nat} (positive : 0 < number) :
    (Nat.toDigits 10 number).head? ≠ some '0' := by
  induction number using Nat.strongRecOn with
  | ind number smaller =>
      by_cases small : number < 10
      · rw [Nat.toDigits_of_lt_base small]
        have nonzero :
            ∀ digit : Fin 10,
              0 < digit.val → digit.val.digitChar ≠ '0' := by decide
        simpa using nonzero ⟨number, small⟩ positive
      · obtain ⟨first, rest, digits, -⟩ := exists_toDigits_eq_cons (number / 10)
        have earlier :=
          smaller (number / 10)
            (Nat.div_lt_self positive (by decide)) (by omega)
        rw [Nat.toDigits_of_base_le (by decide) (Nat.not_lt.mp small)]
        rw [digits] at earlier ⊢
        exact earlier

end LessonSite
