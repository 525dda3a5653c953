/-!
# Positive words

Sizes, rates and delays are 32-bit numbers other than zero.

## Main Definitions

* `Positive` - a 32-bit word that is not zero
* `Positive.ofWord?`, `Positive.ofInt?` - the positive word of a word or of an integer, if there is
  one
-/

namespace Livecast

/-- A 32-bit word that is not zero. -/
structure Positive where
  /-- The word itself. -/
  val : UInt32
  /-- It is not zero. -/
  ne_zero : val ≠ 0
deriving DecidableEq

namespace Positive

/-- A word as a positive word, unless it is zero. -/
def ofWord? (w : UInt32) : Option Positive :=
  if h : w = 0 then none else some ⟨w, h⟩

/-- An integer as a positive word, unless it is zero, negative or needs more than 32 bits. -/
def ofInt? (i : Int) : Option Positive :=
  if 0 < i ∧ i < 4294967296 then ofWord? (UInt32.ofNat i.toNat) else none

/-- The number that a positive word stands for. -/
def toNat (p : Positive) : Nat := p.val.toNat

theorem toNat_pos (p : Positive) : 0 < p.toNat := by
  have h := p.ne_zero
  rcases Nat.eq_zero_or_pos p.toNat with hz | hp
  · exact absurd (UInt32.toNat_inj.1 (by simpa [toNat] using hz)) h
  · exact hp

/-- A positive word is found again from its number. -/
theorem ofInt?_toNat (p : Positive) : ofInt? (p.toNat : Int) = some p := by
  have hp := p.toNat_pos
  have hb : p.toNat < 4294967296 := p.val.toNat_lt
  have hw : UInt32.ofNat p.toNat = p.val := by simp [toNat]
  rw [ofInt?, if_pos (by omega), Int.toNat_natCast, hw, ofWord?, dif_neg p.ne_zero]

end Positive

end Livecast
