import Mathlib.Tactic

/-!
Cyclic redundancy checks of `w` bits in the reflected form, for any polynomial
with a constant term.

* `shift`, `feed`: the register after one position, and after bits of input;
* `feed_eq`: up to `w` bits at once, as one addition and as many shifts;
* `shift_injective`: no position of the register is lost;
* `Burst`: two inputs that agree outside a stretch of some bits;
* `Burst.eq_of_feed`: a burst of `w` bits leaves a different register;
* `feed_checked`: an input with its check value after it leaves a register that
  does not depend on the input;
* `Burst.eq_of_checked`: so no burst of `w` bits leads from one checked input to
  another.
-/

namespace Crc

variable {w : ℕ} (poly : BitVec w)

/-- The register one position on. -/
def shift (r : BitVec w) : BitVec w :=
  if r.getLsbD 0 then (r >>> 1) ^^^ poly else r >>> 1

/-- Bits as a vector, the first bit lowest. -/
def vec : List Bool → BitVec w
  | [] => 0
  | b :: bs => (vec bs <<< 1) ^^^ (BitVec.ofBool b).setWidth w

/-- The register after one bit of input. -/
def feedBit (r : BitVec w) (b : Bool) : BitVec w :=
  shift poly (r ^^^ (BitVec.ofBool b).setWidth w)

/-- The register after bits of input. -/
def feed (r : BitVec w) (bs : List Bool) : BitVec w := bs.foldl (feedBit poly) r

/-- The lowest `k` bits of a number, the lowest first. -/
def bits (k n : ℕ) : List Bool := (List.range k).map n.testBit

variable {poly}

/-! ### Bits and vectors -/

@[simp] lemma length_bits (k n : ℕ) : (bits k n).length = k := by
  rw [bits, List.length_map, List.length_range]

lemma getLsbD_vec (bs : List Bool) : ∀ {i : ℕ}, i < w →
    (vec bs : BitVec w).getLsbD i = bs[i]?.getD false := by
  induction bs with
  | nil =>
      intro i _
      simp [vec]
  | cons b bs ih =>
      intro i hi
      cases i with
      | zero => simp [vec, hi]
      | succ i =>
          have hlow : ((BitVec.ofBool b).setWidth w).getLsbD (i + 1) = false := by simp
          have hnext : (vec bs <<< 1 : BitVec w).getLsbD (i + 1) = (vec bs : BitVec w).getLsbD i := by
            rw [BitVec.getLsbD_shiftLeft]
            simp [hi]
          rw [vec, BitVec.getLsbD_xor, hlow, hnext, Bool.xor_false, ih (by omega)]
          rfl

/-- Up to `w` bits are told from their vector. -/
lemma vec_inj {as bs : List Bool} (hlen : as.length = bs.length) (hw : as.length ≤ w)
    (h : (vec as : BitVec w) = vec bs) : as = bs := by
  refine List.ext_getElem hlen fun i hi hi' => ?_
  have hbit := congrArg (fun v => v.getLsbD i) h
  simp only [getLsbD_vec _ (lt_of_lt_of_le hi hw)] at hbit
  simpa [List.getElem?_eq_getElem hi, List.getElem?_eq_getElem hi'] using hbit

/-- The bits of a number below `2 ^ k`. -/
lemma vec_bits {k : ℕ} {v : BitVec w} (hv : v.toNat < 2 ^ k) : vec (bits k v.toNat) = v := by
  refine BitVec.eq_of_getLsbD_eq fun i hi => ?_
  rw [getLsbD_vec _ hi, bits, List.getElem?_map]
  rcases lt_or_ge i k with hk | hk
  · rw [List.getElem?_range hk]
    rfl
  · rw [List.getElem?_eq_none (by rwa [List.length_range])]
    exact (Nat.testBit_lt_two_pow (lt_of_lt_of_le hv (Nat.pow_le_pow_right (by decide) hk))).symm

/-! ### One position -/

/-- A position is linear. -/
lemma shift_xor (x y : BitVec w) : shift poly (x ^^^ y) = shift poly x ^^^ shift poly y := by
  rw [shift, shift, shift, BitVec.getLsbD_xor, BitVec.ushiftRight_xor_distrib]
  cases x.getLsbD 0 with
  | false =>
      cases y.getLsbD 0 with
      | false => rfl
      | true => exact BitVec.xor_assoc _ _ _
  | true =>
      cases y.getLsbD 0 with
      | false =>
          change x >>> 1 ^^^ y >>> 1 ^^^ poly = x >>> 1 ^^^ poly ^^^ y >>> 1
          rw [BitVec.xor_assoc, BitVec.xor_assoc, BitVec.xor_comm poly]
      | true =>
          change x >>> 1 ^^^ y >>> 1 = x >>> 1 ^^^ poly ^^^ (y >>> 1 ^^^ poly)
          rw [BitVec.xor_comm (y >>> 1) poly, ← BitVec.xor_assoc, BitVec.xor_assoc (x >>> 1) poly,
            BitVec.xor_self, BitVec.xor_zero]

/-- An even register is halved. -/
lemma shift_shiftLeft {v : BitVec w} (hv : v.getLsbD (w - 1) = false) :
    shift poly (v <<< 1) = v := by
  have heven : (v <<< 1).getLsbD 0 = false := by simp
  rw [shift, heven]
  refine BitVec.eq_of_getLsbD_eq fun i hi => ?_
  rcases lt_or_ge (1 + i) w with hlt | hge
  · simp [BitVec.getLsbD_eq_getElem hi, hlt]
  · obtain rfl : i = w - 1 := by omega
    simp [hv, hge]

/-- **No position is lost**: the polynomial has a constant term, the highest bit
of its reflected form. -/
theorem shift_injective (hpoly : poly.getLsbD (w - 1) = true) :
    Function.Injective (shift poly) := by
  intro x y h
  have hzero : shift poly (x ^^^ y) = 0 := by rw [shift_xor, h, BitVec.xor_self]; rfl
  have hw : 0 < w := by
    refine Nat.pos_of_ne_zero fun hw => ?_
    subst hw
    simp at hpoly
  have htop : ((x ^^^ y) >>> 1).getLsbD (w - 1) = false := by
    rw [BitVec.getLsbD_ushiftRight]
    exact BitVec.getLsbD_of_ge _ _ (by omega)
  rw [← BitVec.xor_eq_zero_iff]
  -- the lowest bit is clear, since the highest bit of the result is
  cases hlow : (x ^^^ y).getLsbD 0 with
  | true =>
      rw [shift, if_pos hlow] at hzero
      have hbit := congrArg (fun v => v.getLsbD (w - 1)) hzero
      simp only [BitVec.getLsbD_xor, htop, hpoly] at hbit
      simp at hbit
  | false =>
      rw [shift, hlow] at hzero
      refine BitVec.eq_of_getLsbD_eq fun i hi => ?_
      cases i with
      | zero => rw [hlow]; simp
      | succ i =>
          have hbit := congrArg (fun v => v.getLsbD i) hzero
          simpa [Nat.add_comm 1 i] using hbit

/-! ### Input -/

@[simp] lemma feed_nil (r : BitVec w) : feed poly r [] = r := rfl

lemma feed_append (r : BitVec w) (as bs : List Bool) :
    feed poly r (as ++ bs) = feed poly (feed poly r as) bs := List.foldl_append

/-- **Up to `w` bits at once.** -/
lemma feed_eq (bs : List Bool) : ∀ (r : BitVec w), bs.length ≤ w →
    feed poly r bs = (shift poly)^[bs.length] (r ^^^ vec bs) := by
  induction bs with
  | nil =>
      intro r _
      simp [vec]
  | cons b bs ih =>
      intro r hlen
      rw [List.length_cons] at hlen
      have hroom : (vec bs : BitVec w).getLsbD (w - 1) = false := by
        rw [getLsbD_vec _ (by omega), List.getElem?_eq_none (by omega)]
        rfl
      have hbit : feedBit poly r b ^^^ vec bs = shift poly (r ^^^ vec (b :: bs)) := by
        rw [feedBit, vec, BitVec.xor_comm (vec bs <<< 1), ← BitVec.xor_assoc,
          shift_xor (r ^^^ _), shift_shiftLeft hroom]
      have hrest := ih (feedBit poly r b) (by omega)
      rw [hbit] at hrest
      exact hrest

lemma feed_left_injective (hpoly : poly.getLsbD (w - 1) = true) (bs : List Bool) :
    Function.Injective fun r => feed poly r bs := by
  induction bs with
  | nil => exact fun x y h => h
  | cons b bs ih =>
      intro x y h
      have hbit := shift_injective hpoly (ih h)
      exact (BitVec.xor_left_inj _).mp hbit

/-- Inputs of up to `w` bits are told by what they leave. -/
lemma feed_right_inj (hpoly : poly.getLsbD (w - 1) = true) {r : BitVec w} {as bs : List Bool}
    (hlen : as.length = bs.length) (hw : as.length ≤ w) (h : feed poly r as = feed poly r bs) :
    as = bs := by
  rw [feed_eq as r hw, feed_eq bs r (hlen ▸ hw), hlen] at h
  exact vec_inj hlen hw ((BitVec.xor_right_inj r).mp ((shift_injective hpoly).iterate _ h))

/-- Inputs of one length that agree outside a stretch of `k` bits. -/
def Burst (k : ℕ) (xs ys : List Bool) : Prop :=
  ∃ pre as bs post, xs = pre ++ as ++ post ∧ ys = pre ++ bs ++ post ∧
    as.length = bs.length ∧ as.length ≤ k

/-- **A burst shows**: inputs that agree outside a stretch of `w` bits leave
different registers, unless they are equal. -/
theorem Burst.eq_of_feed (hpoly : poly.getLsbD (w - 1) = true) {r : BitVec w} {xs ys : List Bool}
    (hburst : Burst w xs ys) (h : feed poly r xs = feed poly r ys) : xs = ys := by
  obtain ⟨pre, as, bs, post, rfl, rfl, hlen, hw⟩ := hburst
  rw [feed_append, feed_append, feed_append, feed_append] at h
  rw [feed_right_inj hpoly hlen hw (feed_left_injective hpoly post h)]

/-! ### Check values -/

/-- **A checked input**: after an input, its register with `out` added leaves what
`out` alone determines. -/
theorem feed_checked (r out : BitVec w) (bs : List Bool) :
    feed poly r (bs ++ bits w (feed poly r bs ^^^ out).toNat) = (shift poly)^[w] out := by
  rw [feed_append, feed_eq _ _ (length_bits _ _).le, vec_bits (BitVec.isLt _), length_bits,
    ← BitVec.xor_assoc, BitVec.xor_self, BitVec.zero_xor]

/-- **No burst leads from a checked input to another.** -/
theorem Burst.eq_of_checked (hpoly : poly.getLsbD (w - 1) = true) {r out : BitVec w}
    {xs ys : List Bool}
    (hburst : Burst w (xs ++ bits w (feed poly r xs ^^^ out).toNat)
      (ys ++ bits w (feed poly r ys ^^^ out).toNat)) :
    xs ++ bits w (feed poly r xs ^^^ out).toNat =
      ys ++ bits w (feed poly r ys ^^^ out).toNat :=
  hburst.eq_of_feed hpoly ((feed_checked r out xs).trans (feed_checked r out ys).symm)

end Crc
