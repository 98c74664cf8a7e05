import Autoscaler.Resources

/-!
# Quantities as vectors

Quantities are added exactly here, with no largest word at which a sum stops. A request that
fits leaves what makes up the whole together with it, so room for one more request can be
judged by what is left or by the sum of what was taken. On one dimension a quantity is a
number, and a request fits if it does on every dimension.

The sum that stops at the largest words is the exact one, clamped. Quantities are never
negative, so clamping a term changes nothing about a sum that is clamped in the end.
-/

namespace Autoscaler

attribute [ext] Resources

namespace Resources

/-- The exact sum, which is not clamped. -/
instance : Add Resources where
  add a b := ⟨a.cpuMillis + b.cpuMillis, a.memoryBytes + b.memoryBytes, a.pods + b.pods⟩

@[simp] theorem cpuMillis_add (a b : Resources) :
    (a + b).cpuMillis = a.cpuMillis + b.cpuMillis := rfl

@[simp] theorem memoryBytes_add (a b : Resources) :
    (a + b).memoryBytes = a.memoryBytes + b.memoryBytes := rfl

@[simp] theorem pods_add (a b : Resources) : (a + b).pods = a.pods + b.pods := rfl

theorem add_assoc (a b c : Resources) : a + b + c = a + (b + c) := by
  ext <;> simp [Nat.add_assoc]

@[simp] theorem add_empty (a : Resources) : a + {} = a := rfl

@[simp] theorem empty_add (a : Resources) : {} + a = a := by
  ext <;> simp

/-- What is left and what was taken make up what was there, if there was room for it. -/
theorem minus_add {free used : Resources} (room : free.fits used) :
    free.minus used + used = free := by
  obtain ⟨cpu, memory, pods⟩ := fits_iff.mp room
  ext
  · exact Nat.sub_add_cancel cpu
  · exact Nat.sub_add_cancel memory
  · exact Nat.sub_add_cancel pods

theorem add_comm (a b : Resources) : a + b = b + a := by
  ext <;> simp [Nat.add_comm]

theorem fits_of_add_eq {capacity left used : Resources} (whole : left + used = capacity) :
    capacity.fits used := by
  subst whole
  refine fits_iff.mpr ⟨?_, ?_, ?_⟩ <;> exact Nat.le_add_left _ _

/-- There is room for one more request if and only if its sum with what was taken fits the
whole. -/
theorem fits_iff_add_fits {capacity left used request : Resources}
    (whole : left + used = capacity) : left.fits request ↔ capacity.fits (used + request) := by
  subst whole
  simp only [fits_iff, cpuMillis_add, memoryBytes_add, pods_add]
  omega

theorem fits_empty (free : Resources) : free.fits {} := by
  simp [fits]

/-- The exact sum of a list of quantities. -/
def sum : List Resources → Resources
  | [] => {}
  | r :: rs => r + sum rs

@[simp] theorem sum_nil : sum [] = {} := rfl

@[simp] theorem sum_cons (r : Resources) (rs : List Resources) : sum (r :: rs) = r + sum rs := rfl

theorem sum_append (rs rs' : List Resources) : sum (rs ++ rs') = sum rs + sum rs' := by
  induction rs with
  | nil => simp
  | cons r rs ih => rw [List.cons_append, sum_cons, sum_cons, ih, add_assoc]

theorem sum_perm {rs rs' : List Resources} (same : rs.Perm rs') : sum rs = sum rs' := by
  induction same with
  | nil => rfl
  | cons r _ ih => rw [sum_cons, sum_cons, ih]
  | swap r r' rs =>
      rw [sum_cons, sum_cons, sum_cons, sum_cons, ← add_assoc, ← add_assoc, add_comm r']
  | trans _ _ first second => exact first.trans second

/-- The exact sum of `n` equal quantities. -/
def times (n : Nat) (r : Resources) : Resources :=
  ⟨n * r.cpuMillis, n * r.memoryBytes, n * r.pods⟩

@[simp] theorem times_zero (r : Resources) : times 0 r = {} := by
  simp [times]

@[simp] theorem times_one (r : Resources) : times 1 r = r := by
  ext <;> simp [times]

theorem times_succ (n : Nat) (r : Resources) : times (n + 1) r = times n r + r := by
  ext <;> simp [times, Nat.succ_mul]

/-! ## One dimension -/

/-- A dimension of a quantity. -/
inductive Dimension where
  | cpu
  | memory
  | slots
  deriving DecidableEq, Repr, Inhabited

/-- How much there is on one dimension. -/
def along (r : Resources) : Dimension → Nat
  | .cpu => r.cpuMillis
  | .memory => r.memoryBytes
  | .slots => r.pods

theorem eq_of_along {a b : Resources} (same : ∀ d, a.along d = b.along d) : a = b := by
  ext
  · exact same .cpu
  · exact same .memory
  · exact same .slots

@[simp] theorem along_empty (d : Dimension) : along {} d = 0 := by
  cases d <;> rfl

@[simp] theorem along_add (a b : Resources) (d : Dimension) :
    (a + b).along d = a.along d + b.along d := by
  cases d <;> rfl

theorem along_minus (a b : Resources) (d : Dimension) :
    (a.minus b).along d = a.along d - b.along d := by
  cases d <;> rfl

theorem fits_iff_along {free request : Resources} :
    free.fits request ↔ ∀ d, request.along d ≤ free.along d := by
  rw [fits_iff]
  constructor
  · rintro ⟨cpu, memory, slots⟩ d
    cases d with
    | cpu => exact cpu
    | memory => exact memory
    | slots => exact slots
  · intro every
    exact ⟨every .cpu, every .memory, every .slots⟩

theorem exceeds_of_not_fits {free request : Resources} (full : ¬ free.fits request) :
    ∃ d, free.along d < request.along d := by
  rw [fits_iff_along] at full
  obtain ⟨d, exceeds⟩ := Classical.not_forall.mp full
  exact ⟨d, Nat.lt_of_not_le exceeds⟩

/-- What holds more has room for more. -/
theorem fits_trans {a b c : Resources} (first : a.fits b) (second : b.fits c) : a.fits c :=
  fits_iff_along.mpr fun d =>
    Nat.le_trans (fits_iff_along.mp second d) (fits_iff_along.mp first d)

theorem fits_minus (free used : Resources) : free.fits (free.minus used) := by
  rw [fits_iff_along]
  intro d
  rw [along_minus]
  exact Nat.sub_le _ _

theorem fits_add_left (a b : Resources) : (a + b).fits a := by
  rw [fits_iff_along]
  intro d
  rw [along_add]
  exact Nat.le_add_right _ _

theorem fits_add_of_fits_add {capacity a b x y : Resources}
    (room : capacity.fits (a + x + (b + y))) : capacity.fits (a + b) := by
  rw [fits_iff_along] at room ⊢
  intro d
  have within := room d
  simp only [along_add] at within ⊢
  omega

/-- A sum has room for each of its terms. -/
theorem sum_fits_of_mem {r : Resources} {rs : List Resources} (member : r ∈ rs) :
    (sum rs).fits r := by
  induction rs with
  | nil => exact absurd member List.not_mem_nil
  | cons first rest ih =>
      obtain rfl | later := List.mem_cons.mp member
      · exact fits_add_left r (sum rest)
      · have within : (first + sum rest).fits (sum rest) := by
          rw [add_comm]
          exact fits_add_left (sum rest) first
        exact fits_trans within (ih later)

/-! ## The largest words -/

/-- The largest word of each dimension. -/
def largest : Resources := ⟨word64 - 1, word64 - 1, word32 - 1⟩

/-- The quantity with each dimension clamped to its largest word. -/
def clamped (r : Resources) : Resources where
  cpuMillis := min r.cpuMillis largest.cpuMillis
  memoryBytes := min r.memoryBytes largest.memoryBytes
  pods := min r.pods largest.pods

theorem along_clamped (r : Resources) (d : Dimension) :
    r.clamped.along d = min (r.along d) (largest.along d) := by
  cases d <;> rfl

@[simp] theorem clamped_empty : clamped {} = {} := rfl

theorem plus_eq_clamped (a b : Resources) : a.plus b = (a + b).clamped := rfl

/-- A term that has stopped at the largest word still stops the sum there. -/
theorem clamped_add_left (a b : Resources) : (a.clamped + b).clamped = (a + b).clamped := by
  refine eq_of_along fun d => ?_
  simp only [along_clamped, along_add]
  omega

theorem clamped_plus_clamped (a b : Resources) :
    a.clamped.plus b.clamped = (a + b).clamped := by
  rw [plus_eq_clamped, clamped_add_left, add_comm, clamped_add_left, add_comm]

end Resources

end Autoscaler
