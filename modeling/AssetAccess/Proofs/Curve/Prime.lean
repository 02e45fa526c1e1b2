import AssetAccess.Curve.Point
import AssetAccess.Proofs.Curve.Modular
import Mathlib.Algebra.BigOperators.Associated
import Mathlib.NumberTheory.LucasPrimality
/-!
# The field and the group have prime order

The numbers of elements of the field and of points of the curve are prime (`prime_prime`,
`prime_order`).  They are too large for trial division, so the proof is a list of certificates.
A certificate names the factors of `number - 1` and a witness whose powers show that the units
modulo `number` form a group of order `number - 1`, which makes `number` prime (Lucas).  A factor is
small, or it has a certificate of its own further down the list.
-/

namespace AssetAccess.Curve

/-- Why a number is prime: the prime factors of its predecessor, and a number that generates the
units modulo it. -/
structure Certificate where
  number : Nat
  witness : Nat
  factors : List Nat

namespace Certificate

/-- Whether a number is found to be prime by trial division. -/
def isSmallPrime (q : Nat) : Bool := q < 10000 && 2 ≤ q && q.minFac == q

/-- Whether the witness generates the units, if the factors are the prime factors. -/
def generates (c : Certificate) : Bool :=
  1 < c.number && c.factors.prod == c.number - 1
    && Modular.pow c.number c.witness (c.number - 1) == 1
    && c.factors.all fun q => Modular.pow c.number c.witness ((c.number - 1) / q) != 1

/-- Whether every certificate holds, each with factors that are small or certified behind it. -/
def allHold : List Certificate → Bool
  | [] => true
  | c :: l =>
    c.generates && c.factors.all (fun q => isSmallPrime q || l.any (·.number == q)) && allHold l

theorem prime_of_isSmallPrime {q : Nat} (h : isSmallPrime q = true) : q.Prime := by
  simp only [isSmallPrime, Bool.and_eq_true, decide_eq_true_eq, beq_iff_eq] at h
  exact Nat.prime_def_minFac.mpr ⟨h.1.2, h.2⟩

/-- A power is 1 in the ring exactly when it is computed as 1. -/
theorem natCast_pow_eq_one_iff {m : Nat} (hm : 1 < m) (b e : Nat) :
    (b : ZMod m) ^ e = 1 ↔ Modular.pow m b e = 1 := by
  have hlt : Modular.pow m b e < m := Modular.pow_lt (by omega) b e
  rw [← Modular.natCast_pow]
  constructor
  · intro h
    exact Modular.eq_of_natCast_eq hlt hm (by rw [h, Nat.cast_one])
  · intro h
    rw [h, Nat.cast_one]

/-- The number of a certificate is prime if its factors are. -/
theorem prime_of_generates {c : Certificate} (h : c.generates = true)
    (hfactors : ∀ q ∈ c.factors, q.Prime) : c.number.Prime := by
  simp only [generates, Bool.and_eq_true, decide_eq_true_eq, beq_iff_eq, List.all_eq_true,
    bne_iff_ne] at h
  obtain ⟨⟨⟨hone, hprod⟩, hfull⟩, hparts⟩ := h
  refine lucas_primality c.number (c.witness : ZMod c.number)
    ((natCast_pow_eq_one_iff hone _ _).mpr hfull) ?_
  intro q hq hdvd
  -- a prime that divides the product is one of the factors
  rw [← hprod] at hdvd
  obtain ⟨q', hq', hdvd'⟩ := (Prime.dvd_prod_iff hq.prime).mp hdvd
  obtain rfl := (Nat.prime_dvd_prime_iff_eq hq (hfactors q' hq')).mp hdvd'
  rw [ne_eq, natCast_pow_eq_one_iff hone]
  exact hparts q hq'

/-- All numbers in a list of certificates that hold are prime. -/
theorem prime_of_allHold {l : List Certificate} (h : allHold l = true) :
    ∀ c ∈ l, c.number.Prime := by
  -- the certificates behind one show that its larger factors are prime
  induction l with
  | nil => simp
  | cons c l ih =>
    simp only [allHold, Bool.and_eq_true, List.all_eq_true, Bool.or_eq_true, List.any_eq_true,
      beq_iff_eq] at h
    obtain ⟨⟨hc, hfactors⟩, hl⟩ := h
    have hlater := ih hl
    refine List.forall_mem_cons.mpr ⟨prime_of_generates hc fun q hq => ?_, hlater⟩
    rcases hfactors q hq with hsmall | ⟨c', hc', rfl⟩
    · exact prime_of_isSmallPrime hsmall
    · exact hlater c' hc'

end Certificate

/-- The certificates of the two orders and of their factors, larger numbers first. -/
def certificates : List Certificate :=
  [⟨prime, 6, [2, 3, 5, 5, 17, 257, 641, 1531, 65537, 490463, 6700417,
      835945042244614951780389953367877943453916927241]⟩,
    ⟨order, 7, [2, 2, 2, 2, 3, 71, 131, 373, 3407, 17449, 38189, 187019741, 622491383,
      1002328039319, 2624747550333869278416773953]⟩,
    ⟨835945042244614951780389953367877943453916927241, 11,
      [2, 2, 2, 3, 3, 3, 5, 774023187263532362759620327192479577272145303]⟩,
    ⟨774023187263532362759620327192479577272145303, 3,
      [2, 3, 3, 2411, 34282281433, 11290956913871, 46076956964474543]⟩,
    ⟨2624747550333869278416773953, 7,
      [2, 2, 2, 2, 2, 2, 3, 3, 1297, 16879, 208150935158385979]⟩,
    ⟨208150935158385979, 2, [2, 3, 11, 43, 127, 3023, 191039911]⟩,
    ⟨46076956964474543, 5, [2, 23, 18169, 78283, 704251]⟩,
    ⟨11290956913871, 13, [2, 5, 17, 66417393611]⟩,
    ⟨1002328039319, 19, [2, 126241, 3969899]⟩,
    ⟨66417393611, 6, [2, 5, 53, 173, 197, 3677]⟩,
    ⟨34282281433, 17, [2, 2, 2, 3, 7, 204061199]⟩,
    ⟨622491383, 5, [2, 311245691]⟩,
    ⟨311245691, 2, [2, 5, 7, 17, 29, 29, 311]⟩,
    ⟨204061199, 11, [2, 11, 23, 107, 3769]⟩,
    ⟨191039911, 3, [2, 3, 5, 41, 155317]⟩,
    ⟨187019741, 2, [2, 2, 5, 9350987]⟩,
    ⟨9350987, 2, [2, 17, 229, 1201]⟩,
    ⟨6700417, 5, [2, 2, 2, 2, 2, 2, 2, 3, 17449]⟩,
    ⟨3969899, 2, [2, 19, 104471]⟩,
    ⟨704251, 2, [2, 3, 3, 5, 5, 5, 313]⟩,
    ⟨490463, 14, [2, 7, 53, 661]⟩,
    ⟨155317, 5, [2, 2, 3, 7, 43, 43]⟩,
    ⟨126241, 7, [2, 2, 2, 2, 2, 3, 5, 263]⟩,
    ⟨104471, 11, [2, 5, 31, 337]⟩,
    ⟨78283, 3, [2, 3, 3, 4349]⟩,
    ⟨65537, 3, List.replicate 16 2⟩,
    ⟨38189, 2, [2, 2, 9547]⟩,
    ⟨18169, 11, [2, 2, 2, 3, 757]⟩,
    ⟨17449, 14, [2, 2, 2, 3, 727]⟩,
    ⟨16879, 3, [2, 3, 29, 97]⟩]

theorem allHold_certificates : Certificate.allHold certificates = true := by decide +kernel

theorem prime_prime : prime.Prime :=
  Certificate.prime_of_allHold allHold_certificates _ (.head _)

theorem prime_order : order.Prime :=
  Certificate.prime_of_allHold allHold_certificates _ (.tail _ (.head _))

end AssetAccess.Curve
