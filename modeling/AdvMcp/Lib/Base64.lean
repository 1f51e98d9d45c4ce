import Mathlib.Data.Nat.Notation
import Mathlib.Tactic.Common

/-!
# Base64

Bytes as text, four digits for three bytes, and the lenient reading of such a text.

* `encode` — the text of some bytes, with its padding;
* `decode` — reads a text digit by digit, passes over everything that is neither a digit nor a pad, and stops at
  the padding of a quad;
* `Canonical` — the texts without anything to pass over.

`decode_encode` says that what was encoded is read back, and `encode_eq_iff` which texts are written back.
-/

namespace AdvMcp.Lib.Base64

/-- The digits, by their values. -/
def alphabet : List Char := "ABCDEFGHIJKLMNOPQRSTUVWXYZabcdefghijklmnopqrstuvwxyz0123456789+/".toList

def pad : Char := '='

/-- The digit of a value. -/
def digit (n : ℕ) : Char := alphabet.getD n pad

/-- The value of a digit. -/
def value (c : Char) : Option ℕ := alphabet.idxOf? c

def byte (n : ℕ) : UInt8 := UInt8.ofNat n

/-! ### Writing -/

def encode : List UInt8 → List Char
  | [] => []
  | [a] => [digit (a.toNat / 4), digit (a.toNat % 4 * 16), pad, pad]
  | [a, b] => [digit (a.toNat / 4), digit (a.toNat % 4 * 16 + b.toNat / 16), digit (b.toNat % 16 * 4), pad]
  | a :: b :: c :: bs =>
    digit (a.toNat / 4) :: digit (a.toNat % 4 * 16 + b.toNat / 16) ::
      digit (b.toNat % 16 * 4 + c.toNat / 64) :: digit (c.toNat % 64) :: encode bs

/-! ### Reading -/

/-- Where the reader is in its quad, with the bits that are left over. -/
inductive Quad where
  | start
  | one (left : ℕ)
  | two (left : ℕ)
  /-- two digits and a pad -/
  | padded (left : ℕ)
  | three (left : ℕ)

/-- A digit: where the reader is then, and the byte that is complete. -/
def Quad.next (v : ℕ) : Quad → Quad × Option UInt8
  | .start => (.one v, none)
  | .one left => (.two (v % 16), some (byte (left * 4 + v / 16)))
  | .two left => (.three (v % 4), some (byte (left * 16 + v / 4)))
  | .padded left => (.three (v % 4), some (byte (left * 16 + v / 4)))
  | .three left => (.start, some (byte (left * 64 + v)))

/-- A pad: where the reader is then, or `none` at the end of the padding. -/
def Quad.pad : Quad → Option Quad
  | .two left => some (.padded left)
  | .padded _ => none
  | .three _ => none
  | q => some q

/-- Reads on; a text that ends within a quad is none. -/
def read : Quad → List Char → Option (List UInt8)
  | .start, [] => some []
  | _, [] => none
  | q, c :: cs =>
    if c = pad then
      match q.pad with
      | some q => read q cs
      | none => some []
    else
      match value c with
      | none => read q cs
      | some v => (read (q.next v).1 cs).map fun bs => (q.next v).2.toList ++ bs

def decode (cs : List Char) : Option (List UInt8) := read .start cs

section Reading

variable {q : Quad} {cs : List Char} {c : Char} {n v : ℕ}

lemma value_digit (h : n < 64) : value (digit n) = some n := by
  have hall : ∀ n < 64, value (digit n) = some n := by decide +kernel
  exact hall n h

lemma value_pad : value pad = none := by decide

lemma digit_ne_pad (h : n < 64) : digit n ≠ pad := by
  intro he
  have hv := value_digit h
  rw [he, value_pad] at hv
  cases hv

/-- A digit is read. -/
lemma read_digit (h : n < 64) :
    read q (digit n :: cs) = (read (q.next n).1 cs).map fun bs => (q.next n).2.toList ++ bs := by
  cases q <;> simp only [read, if_neg (digit_ne_pad h), value_digit h]

end Reading

/-! ### Round trips -/

section RoundTrip

variable {bs : List UInt8} {cs : List Char}

lemma byte_eq {a : UInt8} {n : ℕ} (h : n = a.toNat) : byte n = a := by
  subst h
  exact UInt8.ofNat_toNat

/-- Three bytes are read from their four digits, whatever follows. -/
lemma decode_quad (a b c : UInt8) : decode (digit (a.toNat / 4) :: digit (a.toNat % 4 * 16 + b.toNat / 16) ::
      digit (b.toNat % 16 * 4 + c.toNat / 64) :: digit (c.toNat % 64) :: cs) =
    (decode cs).map fun bs => a :: b :: c :: bs := by
  have ha := a.toNat_lt
  have hb := b.toNat_lt
  have hc := c.toNat_lt
  unfold decode
  rw [read_digit (by omega), Quad.next, read_digit (by omega), Quad.next, read_digit (by omega), Quad.next,
    read_digit (by omega), Quad.next]
  have h1 : byte (a.toNat / 4 * 4 + (a.toNat % 4 * 16 + b.toNat / 16) / 16) = a := byte_eq (by omega)
  have h2 : byte ((a.toNat % 4 * 16 + b.toNat / 16) % 16 * 16 + (b.toNat % 16 * 4 + c.toNat / 64) / 4) = b :=
    byte_eq (by omega)
  have h3 : byte ((b.toNat % 16 * 4 + c.toNat / 64) % 4 * 64 + c.toNat % 64) = c := byte_eq (by omega)
  simp only [h1, h2, h3, Option.map_map]
  rfl

/-- **What was encoded** is read back. -/
theorem decode_encode (bs : List UInt8) : decode (encode bs) = some bs := by
  induction bs using encode.induct with
  | case1 => rfl
  | case2 a =>
    have ha := a.toNat_lt
    have h1 : byte (a.toNat / 4 * 4 + a.toNat % 4 * 16 / 16) = a := byte_eq (by omega)
    unfold decode encode
    rw [read_digit (by omega), Quad.next, read_digit (by omega), Quad.next, h1]
    rfl
  | case3 a b =>
    have ha := a.toNat_lt
    have hb := b.toNat_lt
    have h1 : byte (a.toNat / 4 * 4 + (a.toNat % 4 * 16 + b.toNat / 16) / 16) = a := byte_eq (by omega)
    have h2 : byte ((a.toNat % 4 * 16 + b.toNat / 16) % 16 * 16 + b.toNat % 16 * 4 / 4) = b := byte_eq (by omega)
    unfold decode encode
    rw [read_digit (by omega), Quad.next, read_digit (by omega), Quad.next, read_digit (by omega), Quad.next, h1, h2]
    rfl
  | case4 a b c bs ih =>
    unfold encode
    rw [decode_quad, ih]
    rfl

/-- The texts that are written: full quads, and a last one whose spare bits are zero. -/
inductive Canonical : List Char → Prop
  | nil : Canonical []
  | one {u v : ℕ} : u < 64 → v < 64 → v % 16 = 0 → Canonical [digit u, digit v, pad, pad]
  | two {u v w : ℕ} : u < 64 → v < 64 → w < 64 → w % 4 = 0 → Canonical [digit u, digit v, digit w, pad]
  | quad {u v w x : ℕ} {cs : List Char} : u < 64 → v < 64 → w < 64 → x < 64 → Canonical cs →
    Canonical (digit u :: digit v :: digit w :: digit x :: cs)

lemma canonical_encode (bs : List UInt8) : Canonical (encode bs) := by
  induction bs using encode.induct with
  | case1 => exact .nil
  | case2 a =>
    have ha := a.toNat_lt
    exact .one (by omega) (by omega) (by omega)
  | case3 a b =>
    have ha := a.toNat_lt
    have hb := b.toNat_lt
    exact .two (by omega) (by omega) (by omega) (by omega)
  | case4 a b c bs ih =>
    have ha := a.toNat_lt
    have hb := b.toNat_lt
    have hc := c.toNat_lt
    exact .quad (by omega) (by omega) (by omega) (by omega) ih

lemma toNat_byte {n : ℕ} (h : n < 256) : (byte n).toNat = n := UInt8.toNat_ofNat_of_lt h

/-- A canonical text is the text of some bytes. -/
lemma Canonical.exists_encode (h : Canonical cs) : ∃ bs, encode bs = cs := by
  induction h with
  | nil => exact ⟨[], rfl⟩
  | @one u v hu hv h0 =>
    refine ⟨[byte (u * 4 + v / 16)], ?_⟩
    unfold encode
    rw [toNat_byte (by omega), show (u * 4 + v / 16) / 4 = u by omega, show (u * 4 + v / 16) % 4 * 16 = v by omega]
  | @two u v w hu hv hw h0 =>
    refine ⟨[byte (u * 4 + v / 16), byte (v % 16 * 16 + w / 4)], ?_⟩
    unfold encode
    rw [toNat_byte (by omega), toNat_byte (by omega), show (u * 4 + v / 16) / 4 = u by omega,
      show (u * 4 + v / 16) % 4 * 16 + (v % 16 * 16 + w / 4) / 16 = v by omega,
      show (v % 16 * 16 + w / 4) % 16 * 4 = w by omega]
  | @quad u v w x cs hu hv hw hx _ ih =>
    obtain ⟨bs, rfl⟩ := ih
    refine ⟨byte (u * 4 + v / 16) :: byte (v % 16 * 16 + w / 4) :: byte (w % 4 * 64 + x) :: bs, ?_⟩
    rw [encode]
    rw [toNat_byte (by omega), toNat_byte (by omega), toNat_byte (by omega), show (u * 4 + v / 16) / 4 = u by omega,
      show (u * 4 + v / 16) % 4 * 16 + (v % 16 * 16 + w / 4) / 16 = v by omega,
      show (v % 16 * 16 + w / 4) % 16 * 4 + (w % 4 * 64 + x) / 64 = w by omega,
      show (w % 4 * 64 + x) % 64 = x by omega]

/-- **What was read** is written back as it was exactly if it is canonical. -/
theorem encode_eq_iff (h : decode cs = some bs) : encode bs = cs ↔ Canonical cs := by
  constructor
  · rintro rfl
    exact canonical_encode bs
  · intro hc
    obtain ⟨bs', rfl⟩ := hc.exists_encode
    rw [decode_encode] at h
    rw [Option.some.inj h]

end RoundTrip

end AdvMcp.Lib.Base64
