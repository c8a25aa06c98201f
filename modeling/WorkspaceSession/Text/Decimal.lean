/-! Decimal numerals: naturals as digits, and signed numerals of 64 bits. -/
namespace WorkspaceSession.Text

def decimalValue (digits : List Char) : Nat := Nat.ofDigitChars 10 digits 0

def decimal (n : Nat) : List Char := Nat.toDigits 10 n

def naturalText (n : Nat) : String := String.ofList (decimal n)

@[simp] theorem decimalValue_decimal (n : Nat) : decimalValue (decimal n) = n :=
  Nat.ofDigitChars_toDigits (by decide) (by decide)

theorem isDigit_of_mem_decimal {n : Nat} {c : Char} (h : c ∈ decimal n) : c.isDigit = true :=
  Nat.isDigit_of_mem_toDigits (by decide) (by decide) h

theorem decimal_ne_nil (n : Nat) : decimal n ≠ [] := Nat.toDigits_ne_nil

@[simp] theorem decimal_zero : decimal 0 = ['0'] := Nat.toDigits_zero 10

theorem toNat_of_isDigit {c : Char} (h : c.isDigit = true) : 48 ≤ c.toNat ∧ c.toNat ≤ 57 := by
  unfold Char.isDigit at h
  obtain ⟨hlow, hhigh⟩ := Bool.and_eq_true_iff.mp h
  exact ⟨of_decide_eq_true hlow, of_decide_eq_true hhigh⟩

theorem toNat_of_isAlphanum {c : Char} (h : c.isAlphanum = true) :
    48 ≤ c.toNat ∧ c.toNat ≤ 122 := by
  unfold Char.isAlphanum Char.isAlpha Char.isUpper Char.isLower at h
  simp only [Bool.or_eq_true, Bool.and_eq_true, decide_eq_true_eq] at h
  rcases h with (⟨hlow, hhigh⟩ | ⟨hlow, hhigh⟩) | hdigit
  · exact ⟨Nat.le_trans (by decide : 48 ≤ 65) hlow, Nat.le_trans hhigh (by decide : 90 ≤ 122)⟩
  · exact ⟨Nat.le_trans (by decide : 48 ≤ 97) hlow, hhigh⟩
  · obtain ⟨hlow, hhigh⟩ := toNat_of_isDigit hdigit
    exact ⟨hlow, by omega⟩

theorem decimal_of_isDigit {c : Char} (h : c.isDigit = true) : decimal (c.toNat - 48) = [c] := by
  obtain ⟨hlow, hhigh⟩ := toNat_of_isDigit h
  have hlt : c.toNat - 48 < 10 := by omega
  have hchar : Nat.digitChar (c.toNat - 48) = c := by
    apply Char.toNat_inj.mp
    rw [Nat.toNat_digitChar_of_lt_ten hlt]
    omega
  unfold decimal
  rw [Nat.toDigits_of_lt_base hlt, hchar]

theorem decimal_ofDigitChars {n : Nat} (hn : 0 < n) {ds : List Char}
    (hds : ∀ d ∈ ds, d.isDigit = true) : decimal (Nat.ofDigitChars 10 ds n) = decimal n ++ ds := by
  induction ds generalizing n with
  | nil => simp [Nat.ofDigitChars_nil]
  | cons d ds ih =>
    obtain ⟨hd, hds⟩ := List.forall_mem_cons.mp hds
    obtain ⟨hlow, hhigh⟩ := toNat_of_isDigit hd
    have hjoin : decimal n ++ decimal (d.toNat - 48) = decimal (10 * n + (d.toNat - 48)) :=
      Nat.toDigits_append_toDigits (by decide) hn (by omega)
    have hzero : '0'.toNat = 48 := rfl
    rw [Nat.ofDigitChars_cons, hzero, ih (by omega) hds, ← hjoin, decimal_of_isDigit hd,
      List.append_assoc, List.singleton_append]

structure Numeral (cs : List Char) : Prop where
  nonempty : cs ≠ []
  digits : ∀ c ∈ cs, c.isDigit = true
  zero : cs.head? = some '0' → cs = ['0']

/-- A number is written in one way. -/
theorem Numeral.decimal_decimalValue {cs : List Char} (h : Numeral cs) :
    decimal (decimalValue cs) = cs := by
  obtain ⟨nonempty, digits, zero⟩ := h
  cases cs with
  | nil => contradiction
  | cons d ds =>
    obtain ⟨hd, hds⟩ := List.forall_mem_cons.mp digits
    by_cases hzero : d = '0'
    · obtain rfl := hzero
      rw [zero rfl]
      rfl
    · obtain ⟨hlow, -⟩ := toNat_of_isDigit hd
      have hne : d.toNat ≠ 48 := by
        intro heq
        exact hzero (Char.toNat_inj.mp heq)
      have hvalue : decimalValue (d :: ds) = Nat.ofDigitChars 10 ds (d.toNat - 48) := by
        simp [decimalValue, Nat.ofDigitChars_cons]
      rw [hvalue, decimal_ofDigitChars (by omega) hds, decimal_of_isDigit hd,
        List.singleton_append]

theorem Numeral.not_mem {cs : List Char} (h : Numeral cs) {c : Char} (hc : c.isDigit = false) :
    c ∉ cs := by
  intro hmem
  rw [h.digits c hmem] at hc
  cases hc

theorem head?_decimal_div {n : Nat} (hn : 10 ≤ n) :
    (decimal n).head? = (decimal (n / 10)).head? := by
  unfold decimal
  rw [Nat.toDigits_of_base_le (by decide) hn, List.head?_append]
  cases h : Nat.toDigits 10 (n / 10) with
  | nil => exact absurd h Nat.toDigits_ne_nil
  | cons d ds => rfl

theorem head?_decimal_ne_zero {n : Nat} (hn : 0 < n) : (decimal n).head? ≠ some '0' := by
  induction n using Nat.strongRecOn with
  | _ n ih =>
    by_cases hlt : n < 10
    · unfold decimal
      rw [Nat.toDigits_of_lt_base hlt]
      simpa using Nat.ne_of_gt hn
    · rw [head?_decimal_div (by omega)]
      exact ih (n / 10) (by omega) (by omega)

theorem numeral_decimal (n : Nat) : Numeral (decimal n) where
  nonempty := decimal_ne_nil n
  digits _ hc := isDigit_of_mem_decimal hc
  zero hhead := by
    cases n with
    | zero => rfl
    | succ n => exact absurd hhead (head?_decimal_ne_zero n.succ_pos)

def minInt64 : Int := -9223372036854775808
def maxInt64 : Int := 9223372036854775807

/-- A numeral is one or more ASCII digits, and nothing else. -/
def natural? (cs : List Char) : Option Nat :=
  if cs ≠ [] ∧ cs.all Char.isDigit then some (decimalValue cs) else none

def signed? : List Char → Option Int
  | '-' :: rest => (natural? rest).map fun n => -(n : Int)
  | '+' :: rest => (natural? rest).map fun n => (n : Int)
  | cs => (natural? cs).map fun n => (n : Int)

/-- A signed numeral whose value is in range; one that is out of range is no numeral. -/
def int64? (cs : List Char) : Option Int64 :=
  match signed? cs with
  | some i => if minInt64 ≤ i ∧ i ≤ maxInt64 then some (Int64.ofInt i) else none
  | none => none

def int64Chars (i : Int64) : List Char :=
  if i.toInt < 0 then '-' :: decimal i.toInt.natAbs else decimal i.toInt.natAbs

def int64Text (i : Int64) : String := String.ofList (int64Chars i)

end WorkspaceSession.Text
