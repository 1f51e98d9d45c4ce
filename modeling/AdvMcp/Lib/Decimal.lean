import Mathlib.Data.List.Basic
import Mathlib.Data.Nat.Notation

/-!
# Decimal numerals

Numerals in the decimal digits of any script.

* `Digits` — the characters that are digits, with their values; the ASCII ones among them;
* `Digits.number` — the number that a numeral denotes;
* `Numeral` — the numerals that Lean prints; `toDigits_number` — only they are printed as they were read.
-/

namespace AdvMcp.Lib

/-- The decimal digits.  Of the table of all scripts the ASCII part is fixed. -/
structure Digits where
  value : Char → Option ℕ
  lt : ∀ c d, value c = some d → d < 10
  ascii : ∀ c, c.toNat < 128 → value c = if c.isDigit then some (c.toNat - 48) else none

/-- The digits of ASCII alone. -/
def asciiDigits : Digits where
  value c := if c.isDigit then some (c.toNat - 48) else none
  lt c d h := by
    split_ifs at h with hc
    have hc' : 48 ≤ c.toNat ∧ c.toNat ≤ 57 := by simpa [Char.isDigit, UInt32.le_iff_toNat_le] using hc
    have hd := Option.some.inj h
    omega
  ascii _ _ := rfl

/-- The numerals without leading zeros, in ASCII. -/
structure Numeral (ds : List Char) : Prop where
  ne_nil : ds ≠ []
  ascii : ∀ c ∈ ds, c.isDigit = true
  leading : ds.head? = some '0' → ds = ['0']

lemma isDigit_iff {c : Char} : c.isDigit = true ↔ 48 ≤ c.toNat ∧ c.toNat ≤ 57 := by
  simp [Char.isDigit, UInt32.le_iff_toNat_le]

lemma digitChar_of_isDigit {c : Char} (h : c.isDigit = true) : Nat.digitChar (c.toNat - 48) = c := by
  have hc := isDigit_iff.1 h
  apply Char.toNat_inj.1
  rw [Nat.toNat_digitChar_of_lt_ten (by omega)]
  omega

section Digits

variable (D : Digits)

def Digits.isDigit (c : Char) : Bool := (D.value c).isSome

/-- The number that a numeral denotes. -/
def Digits.number (ds : List Char) : ℕ := ds.foldl (fun n c => 10 * n + (D.value c).getD 0) 0

variable {D} {ds : List Char} {n : ℕ}

lemma Digits.value_ascii {c : Char} (h : c.isDigit = true) : D.value c = some (c.toNat - 48) := by
  have hc := isDigit_iff.1 h
  rw [D.ascii c (by omega), if_pos h]

/-- On ASCII digits, what Lean computes. -/
lemma Digits.number_ascii (h : ∀ c ∈ ds, c.isDigit = true) : D.number ds = Nat.ofDigitChars 10 ds 0 := by
  have hacc : ∀ acc, ds.foldl (fun n c => 10 * n + (D.value c).getD 0) acc = Nat.ofDigitChars 10 ds acc := by
    induction ds with
    | nil => exact fun _ => rfl
    | cons c ds ih =>
      intro acc
      rw [List.foldl_cons, Digits.value_ascii (h c List.mem_cons_self), Nat.ofDigitChars_cons]
      exact ih (fun a ha => h a (List.mem_cons_of_mem _ ha)) _
  exact hacc 0

lemma Digits.isDigit_of_ascii {c : Char} (h : c.isDigit = true) : D.isDigit c = true := by
  unfold Digits.isDigit
  rw [Digits.value_ascii h]
  rfl

/-- A numeral that was printed denotes the number. -/
lemma Digits.number_toDigits (n : ℕ) : D.number (Nat.toDigits 10 n) = n := by
  rw [Digits.number_ascii fun c hc => Nat.isDigit_of_mem_toDigits (by omega) (by omega) hc]
  exact Nat.ofDigitChars_ten_toDigits

/-- Printing appends the digits one by one. -/
lemma toDigits_append {cs : List Char} (hn : 0 < n) (h : ∀ c ∈ cs, c.isDigit = true) :
    Nat.toDigits 10 n ++ cs = Nat.toDigits 10 (Nat.ofDigitChars 10 cs n) := by
  induction cs generalizing n with
  | nil => simp
  | cons c cs ih =>
    have hc := isDigit_iff.1 (h c List.mem_cons_self)
    have hd : c.toNat - 48 < 10 := by omega
    have hstep := Nat.toDigits_append_toDigits (b := 10) (n := n) (d := c.toNat - 48) (by omega) hn hd
    rw [Nat.toDigits_of_lt_base hd, digitChar_of_isDigit (h c List.mem_cons_self)] at hstep
    rw [Nat.ofDigitChars_cons, ← List.singleton_append, ← List.append_assoc, hstep]
    exact ih (by omega) fun a ha => h a (List.mem_cons_of_mem _ ha)

/-- No number but zero begins with a zero. -/
lemma head_toDigits (h : 0 < n) : (Nat.toDigits 10 n).head? ≠ some '0' := by
  induction n using Nat.strongRecOn with
  | ind n ih =>
    by_cases hlt : n < 10
    · rw [Nat.toDigits_of_lt_base hlt]
      simp
      omega
    · rw [Nat.toDigits_of_base_le (by omega) (by omega)]
      have hdiv := ih (n / 10) (by omega) (by omega)
      obtain ⟨c, cs, hcs⟩ := List.exists_cons_of_ne_nil (Nat.toDigits_ne_nil (n := n / 10) (b := 10))
      rw [hcs] at hdiv ⊢
      exact hdiv

lemma numeral_toDigits (n : ℕ) : Numeral (Nat.toDigits 10 n) where
  ne_nil := Nat.toDigits_ne_nil
  ascii _ hc := Nat.isDigit_of_mem_toDigits (by omega) (by omega) hc
  leading h := by
    rcases Nat.eq_zero_or_pos n with rfl | hn
    · exact Nat.toDigits_zero 10
    · exact absurd h (head_toDigits hn)

/-- **A numeral is printed as it was read** exactly if it is ASCII and has no leading zeros. -/
theorem Digits.toDigits_number : Nat.toDigits 10 (D.number ds) = ds ↔ Numeral ds := by
  constructor
  · intro h
    rw [← h]
    exact numeral_toDigits _
  · intro h
    rw [Digits.number_ascii h.ascii]
    cases ds with
    | nil => exact absurd rfl h.ne_nil
    | cons c cs =>
      have hc := h.ascii c List.mem_cons_self
      have hlt := isDigit_iff.1 hc
      by_cases h0 : c = '0'
      · subst h0
        rw [h.leading rfl]
        rfl
      · have hpos : 0 < c.toNat - 48 := by
          have hne : c.toNat ≠ 48 := fun he => h0 (Char.toNat_inj.1 he)
          omega
        rw [Nat.ofDigitChars_cons, ← toDigits_append (by simpa using hpos)
          fun a ha => h.ascii a (List.mem_cons_of_mem _ ha)]
        have hone : Nat.toDigits 10 (c.toNat - 48) = [c] := by
          rw [Nat.toDigits_of_lt_base (by omega), digitChar_of_isDigit hc]
        simp [hone]

/-- A number has at most as many digits as its numeral. -/
lemma Digits.length_toDigits_number (h : ds ≠ []) : (Nat.toDigits 10 (D.number ds)).length ≤ ds.length := by
  have hbound : ∀ (ds : List Char) (acc : ℕ),
      ds.foldl (fun n c => 10 * n + (D.value c).getD 0) acc < (acc + 1) * 10 ^ ds.length := by
    intro ds
    induction ds with
    | nil =>
      intro acc
      simp
    | cons c ds ih =>
      intro acc
      have hd : (D.value c).getD 0 < 10 := by
        cases hv : D.value c with
        | none => simp
        | some d => exact D.lt c d hv
      have hstep := ih (10 * acc + (D.value c).getD 0)
      have hle : (10 * acc + (D.value c).getD 0 + 1) * 10 ^ ds.length ≤ (acc + 1) * 10 * 10 ^ ds.length :=
        Nat.mul_le_mul_right _ (by omega)
      rw [List.foldl_cons, List.length_cons, Nat.pow_succ]
      calc _ < _ := hstep
        _ ≤ (acc + 1) * 10 * 10 ^ ds.length := hle
        _ = (acc + 1) * (10 ^ ds.length * 10) := by rw [Nat.mul_assoc, Nat.mul_comm 10]
  rw [Nat.length_toDigits_le_iff (by omega) (List.length_pos_iff.2 h)]
  have hlt := hbound ds 0
  rwa [Nat.zero_add, Nat.one_mul] at hlt

end Digits

end AdvMcp.Lib
