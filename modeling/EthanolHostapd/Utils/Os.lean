import Mathlib.Algebra.Group.Int.Defs
import Mathlib.Algebra.Group.Nat.Defs
import Mathlib.Data.Int.Notation
import Mathlib.Order.Basic

/-!
# Relative time

The helpers for `struct os_reltime` in `utils/os.h`.  A time is a number of seconds and a number of
microseconds; the clock returns fewer than 1000000 microseconds, and for such times the helpers compute
with the total number of microseconds.

`os_time_t` is a signed number of 64 bits.  Where no sum can leave its range it is an integer here.
-/

namespace Ethanol

/-- `struct os_reltime`. -/
structure OsReltime where
  sec : ℤ
  usec : ℤ
deriving DecidableEq, Repr

namespace OsReltime

/-- `os_reltime_before`. -/
def before (a b : OsReltime) : Bool := a.sec < b.sec || (a.sec = b.sec && a.usec < b.usec)

/-- `os_reltime_sub`. -/
def sub (a b : OsReltime) : OsReltime :=
  if a.usec - b.usec < 0 then ⟨a.sec - b.sec - 1, a.usec - b.usec + 1000000⟩
  else ⟨a.sec - b.sec, a.usec - b.usec⟩

/-- `os_reltime_expired`. -/
def expired (now ts : OsReltime) (timeoutSecs : ℤ) : Bool :=
  let age := now.sub ts
  timeoutSecs < age.sec || (age.sec = timeoutSecs && 0 < age.usec)

/-- The time in microseconds. -/
def toUsec (t : OsReltime) : ℤ := t.sec * 1000000 + t.usec

/-- The microseconds make up less than a second. -/
structure Normalized (t : OsReltime) : Prop where
  usec_nonneg : 0 ≤ t.usec
  usec_lt : t.usec < 1000000

instance (t : OsReltime) : Decidable t.Normalized :=
  decidable_of_iff (0 ≤ t.usec ∧ t.usec < 1000000) ⟨fun h => ⟨h.1, h.2⟩, fun h => ⟨h.1, h.2⟩⟩

variable {a b : OsReltime}

lemma before_iff (ha : a.Normalized) (hb : b.Normalized) :
    a.before b = true ↔ a.toUsec < b.toUsec := by
  obtain ⟨ha₀, ha₁⟩ := ha
  obtain ⟨hb₀, hb₁⟩ := hb
  simp only [before, toUsec, Bool.or_eq_true, Bool.and_eq_true, decide_eq_true_eq]
  omega

lemma toUsec_sub (a b : OsReltime) : (a.sub b).toUsec = a.toUsec - b.toUsec := by
  unfold sub
  split_ifs with h
  · simp only [toUsec]
    omega
  · simp only [toUsec]
    omega

lemma Normalized.sub (ha : a.Normalized) (hb : b.Normalized) : (a.sub b).Normalized := by
  obtain ⟨ha₀, ha₁⟩ := ha
  obtain ⟨hb₀, hb₁⟩ := hb
  unfold OsReltime.sub
  split_ifs with h
  · constructor
    · show 0 ≤ a.usec - b.usec + 1000000
      omega
    · show a.usec - b.usec + 1000000 < 1000000
      omega
  · constructor
    · show 0 ≤ a.usec - b.usec
      omega
    · show a.usec - b.usec < 1000000
      omega

/-- A time stamp has expired if it is older than the given number of seconds. -/
lemma expired_iff (ha : a.Normalized) (hb : b.Normalized) (timeoutSecs : ℤ) :
    a.expired b timeoutSecs = true ↔ timeoutSecs * 1000000 < a.toUsec - b.toUsec := by
  obtain ⟨h₀, h₁⟩ := ha.sub hb
  rw [← toUsec_sub]
  simp only [expired, toUsec, Bool.or_eq_true, Bool.and_eq_true, decide_eq_true_eq]
  omega

end OsReltime

/-- What `os_get_reltime` returns: the time since the start of the system. -/
structure ClockTime extends OsReltime where
  normalized : toOsReltime.Normalized := by decide
  sec_nonneg : 0 ≤ sec := by decide
  sec_lt : sec < 2 ^ 63 := by decide

lemma ClockTime.toUsec_nonneg (t : ClockTime) : 0 ≤ t.toUsec := by
  have hsec := t.sec_nonneg
  have husec := t.normalized.usec_nonneg
  rw [OsReltime.toUsec]
  omega

end Ethanol
