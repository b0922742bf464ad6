import Mathlib.Algebra.Order.Ring.Int
import Mathlib.Order.Basic

/-! Division that rounds: `bias` is nothing for the floor, half the divisor for half up. -/

namespace Rounding

variable (bias n d : ℤ)

def quot : ℤ := (n + bias) / d

/-- What the rounded quotient leaves of `n`; negative where it was rounded up. -/
def rest : ℤ := (n + bias) % d - bias

theorem mul_quot_add_rest : d * quot bias n d + rest bias n d = n := by
  have hdiv := Int.mul_ediv_add_emod (n + bias) d
  unfold quot rest
  omega

theorem quot_mul_add (bias k n : ℤ) {d : ℤ} (hd : d ≠ 0) :
    quot bias (d * k + n) d = k + quot bias n d := by
  have hsum : d * k + n + bias = n + bias + d * k := by omega
  rw [quot, hsum, Int.add_mul_ediv_left _ _ hd, quot]
  omega

theorem le_rest (bias n : ℤ) {d : ℤ} (hd : 0 < d) : -bias ≤ rest bias n d := by
  have hmod := Int.emod_nonneg (n + bias) (by omega : d ≠ 0)
  unfold rest
  omega

theorem rest_lt (bias n : ℤ) {d : ℤ} (hd : 0 < d) : rest bias n d < d - bias := by
  have hmod := Int.emod_lt_of_pos (n + bias) hd
  unfold rest
  omega

theorem quot_of_dvd {bias n d : ℤ} (hbias : 0 ≤ bias) (hlt : bias < d) (h : d ∣ n) :
    quot bias n d = n / d := by
  obtain ⟨k, rfl⟩ := h
  have hsum := quot_mul_add bias k 0 (by omega : d ≠ 0)
  rw [Int.add_zero] at hsum
  rw [hsum, quot, Int.zero_add, Int.ediv_eq_zero_of_lt hbias hlt,
    Int.mul_ediv_cancel_left _ (by omega : d ≠ 0)]
  omega

theorem quot_le {bias n d k : ℤ} (hd : 0 < d) (hbias : bias < d) (h : n ≤ d * k) :
    quot bias n d ≤ k := by
  have hlt : n + bias < (k + 1) * d := by
    rw [Int.add_mul, Int.one_mul, Int.mul_comm k]
    omega
  have hquot := Int.ediv_lt_of_lt_mul hd hlt
  unfold quot
  omega

theorem quot_nonneg {bias n d : ℤ} (hn : 0 ≤ n + bias) (hd : 0 ≤ d) : 0 ≤ quot bias n d :=
  Int.ediv_nonneg hn hd

theorem sum_quot_near (bias : ℤ) {d : ℤ} (hd : 0 < d) (ns : List ℤ) :
    ns.sum + ns.length ≤ d * (ns.map (fun n => quot bias n d)).sum + (d - bias) * ns.length ∧
      d * (ns.map (fun n => quot bias n d)).sum ≤ ns.sum + bias * ns.length := by
  induction ns with
  | nil => simp
  | cons n ns ih =>
    have hexact := mul_quot_add_rest bias n d
    have hle := le_rest bias n hd
    have hlt := rest_lt bias n hd
    simp only [List.map_cons, List.sum_cons, List.length_cons, Int.mul_add, Int.natCast_add,
      Int.natCast_one, Int.mul_one]
    omega

end Rounding
