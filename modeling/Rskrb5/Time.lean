import Rskrb5.Lib.Results
import Mathlib.Tactic.Linarith
import Mathlib.Tactic.Ring

namespace Rskrb5

def nanosPerSec : ℕ := 1000000000

/-- Durations are numbers of nanoseconds. -/
def Duration.new (secs nanos : ℕ) : ℕ := secs * nanosPerSec + nanos

def Duration.fromSecs (secs : ℕ) : ℕ := secs * nanosPerSec

def Duration.fromMicros (micros : ℕ) : ℕ := micros * 1000

/-- A wall-clock instant, in nanoseconds since the Unix epoch, whose seconds fit 64 bits. -/
structure SystemTime where
  nanos : ℤ
  lower : -(2 ^ 63 * nanosPerSec : ℤ) ≤ nanos
  upper : nanos < 2 ^ 63 * nanosPerSec
  deriving DecidableEq

namespace SystemTime

theorem ext {a b : SystemTime} (h : a.nanos = b.nanos) : a = b := by
  cases a
  cases b
  simpa using h

instance : LE SystemTime := ⟨fun a b ↦ a.nanos ≤ b.nanos⟩
instance : LT SystemTime := ⟨fun a b ↦ a.nanos < b.nanos⟩
instance (a b : SystemTime) : Decidable (a ≤ b) := inferInstanceAs (Decidable (a.nanos ≤ b.nanos))
instance (a b : SystemTime) : Decidable (a < b) := inferInstanceAs (Decidable (a.nanos < b.nanos))
instance : Hashable SystemTime := ⟨fun t ↦ hash t.nanos⟩

theorem le_def {a b : SystemTime} : a ≤ b ↔ a.nanos ≤ b.nanos := Iff.rfl

def ofNanos? (nanos : ℤ) : Option SystemTime :=
  if h : -(2 ^ 63 * nanosPerSec : ℤ) ≤ nanos ∧ nanos < 2 ^ 63 * nanosPerSec then
    some ⟨nanos, h.1, h.2⟩
  else none

theorem ofNanos?_eq_some {nanos : ℤ} {t : SystemTime} : ofNanos? nanos = some t ↔ t.nanos = nanos := by
  unfold ofNanos?
  split
  · constructor
    · intro h
      cases h
      rfl
    · intro h
      rw [Option.some.injEq]
      exact ext h.symm
  · next hn =>
    constructor
    · exact nofun
    · intro heq
      subst heq
      exact absurd ⟨t.lower, t.upper⟩ hn

def unixEpoch : SystemTime := ⟨0, by decide, by decide⟩

theorem nanos_unixEpoch : unixEpoch.nanos = 0 := rfl

def checkedAdd (t : SystemTime) (d : ℕ) : Option SystemTime := ofNanos? (t.nanos + d)

def checkedSub (t : SystemTime) (d : ℕ) : Option SystemTime := ofNanos? (t.nanos - d)

def wholeSeconds (t : SystemTime) : SystemTime where
  nanos := t.nanos - t.nanos % nanosPerSec
  lower := by
    have hlower := t.lower
    simp only [nanosPerSec] at *
    omega
  upper := by
    have hupper := t.upper
    simp only [nanosPerSec] at *
    omega

def durationSince (t earlier : SystemTime) : Except ℕ ℕ :=
  if earlier ≤ t then .ok (t.nanos - earlier.nanos).toNat
  else .error (earlier.nanos - t.nanos).toNat

end SystemTime

def minTimestamp : ℤ := -8334601228800
def maxTimestamp : ℤ := 8210266876799

/-- A Kerberos time: a date with its nanoseconds, past a second within a leap second. -/
structure KerberosTime where
  seconds : ℤ
  nanos : ℕ
  seconds_ge : minTimestamp ≤ seconds
  seconds_le : seconds ≤ maxTimestamp
  nanos_lt : nanos < 2 * nanosPerSec
  deriving DecidableEq

namespace KerberosTime

theorem ext {a b : KerberosTime} (hs : a.seconds = b.seconds) (hn : a.nanos = b.nanos) : a = b := by
  cases a
  cases b
  simp_all

def fromTimestamp (seconds : ℤ) (nanos : ℕ) : Option KerberosTime :=
  if h : minTimestamp ≤ seconds ∧ seconds ≤ maxTimestamp ∧ nanos < nanosPerSec then
    some ⟨seconds, nanos, h.1, h.2.1, Nat.lt_of_lt_of_le h.2.2 (by decide)⟩
  else none

/-- A time that the wire format carries without a fraction. -/
def IsWhole (t : KerberosTime) : Prop := t.nanos = 0

instance (t : KerberosTime) : Decidable t.IsWhole := inferInstanceAs (Decidable (t.nanos = 0))

end KerberosTime

theorem minTimestamp_le_u32 (seconds : UInt32) : minTimestamp ≤ (seconds.toNat : ℤ) := by
  simp only [minTimestamp]
  omega

theorem u32_le_maxTimestamp (seconds : UInt32) : (seconds.toNat : ℤ) ≤ maxTimestamp := by
  have hlt := seconds.toNat_lt
  simp only [maxTimestamp]
  omega

theorem zero_lt_two_nanosPerSec : 0 < 2 * nanosPerSec := by decide

/-- The second that a counter of 32 bits stands for. -/
def wholeTime (seconds : UInt32) : KerberosTime where
  seconds := seconds.toNat
  nanos := 0
  seconds_ge := minTimestamp_le_u32 seconds
  seconds_le := u32_le_maxTimestamp seconds
  nanos_lt := zero_lt_two_nanosPerSec

/-- `none` stands for the overflow error of each of the four copies of this conversion. -/
def systemTimeFromKerberosTime (time : KerberosTime) : Option SystemTime :=
  if 0 ≤ time.seconds then
    SystemTime.unixEpoch.checkedAdd (Duration.new time.seconds.toNat time.nanos)
  else SystemTime.unixEpoch.checkedSub (Duration.new time.seconds.natAbs time.nanos)

def unixTimestampParts (time : SystemTime) : Option (ℤ × ℕ) :=
  match time.durationSince .unixEpoch with
  | .ok duration =>
    let secs := duration / nanosPerSec
    if secs < 2 ^ 63 then some (secs, duration % nanosPerSec) else none
  | .error duration =>
    let secs := duration / nanosPerSec
    if secs < 2 ^ 63 then
      if duration % nanosPerSec = 0 then some (-secs, 0)
      else if secs + 1 < 2 ^ 63 then some (-(secs + 1), nanosPerSec - duration % nanosPerSec)
      else none
    else none

/-- The service's conversion, which keeps the nanoseconds. -/
def kerberosTimeFromSystemTime (time : SystemTime) : Option KerberosTime := do
  let (seconds, nanos) ← unixTimestampParts time
  KerberosTime.fromTimestamp seconds nanos

/-- The client's conversion, which drops them. -/
def truncatedKerberosTime (time : SystemTime) : Option KerberosTime := do
  let (seconds, _) ← unixTimestampParts time
  KerberosTime.fromTimestamp seconds 0

/-- A decimal integer parsed into 32 bits. -/
def integerToU32 (value : ℤ) : Option UInt32 :=
  if 0 ≤ value ∧ value < 2 ^ 32 then some (UInt32.ofNat value.toNat) else none

theorem integerToU32_ofNat (n : UInt32) : integerToU32 (n.toNat : ℤ) = some n := by
  have hlt := n.toNat_lt
  have hc : 0 ≤ (n.toNat : ℤ) ∧ (n.toNat : ℤ) < 2 ^ 32 := ⟨Int.natCast_nonneg _, by omega⟩
  rw [integerToU32, if_pos hc, Int.toNat_natCast]
  exact congrArg some UInt32.ofNat_toNat

section Conversions

theorem unixTimestampParts_eq_some {time : SystemTime} {seconds : ℤ} {nanos : ℕ}
    (h : unixTimestampParts time = some (seconds, nanos)) :
    time.nanos = seconds * nanosPerSec + nanos ∧ nanos < nanosPerSec := by
  simp only [unixTimestampParts, SystemTime.durationSince, SystemTime.le_def, SystemTime.nanos_unixEpoch] at h
  split_ifs at h with h0
  · obtain ⟨d, hd⟩ : ∃ d : ℕ, (time.nanos - 0).toNat = d := ⟨_, rfl⟩
    have ht : time.nanos = d := by omega
    simp only [hd] at h
    split_ifs at h
    obtain ⟨rfl, rfl⟩ := Prod.mk.inj (Option.some.inj h)
    rw [ht]
    simp only [nanosPerSec]
    omega
  · obtain ⟨d, hd⟩ : ∃ d : ℕ, (0 - time.nanos).toNat = d := ⟨_, rfl⟩
    have ht : time.nanos = -d := by omega
    simp only [hd] at h
    split_ifs at h with h1 h2
    all_goals
      obtain ⟨rfl, rfl⟩ := Prod.mk.inj (Option.some.inj h)
      rw [ht]
      simp only [nanosPerSec] at *
      omega

section Parts

variable {t : SystemTime}

theorem duration_parts (secs : ℕ) {nanos : ℕ} (hremainder : nanos < nanosPerSec) :
    (secs * nanosPerSec + nanos) / nanosPerSec = secs ∧ (secs * nanosPerSec + nanos) % nanosPerSec = nanos := by
  simp only [nanosPerSec] at *
  omega

theorem durationSince_epoch_of_nonneg {d : ℕ} (h : t.nanos = d) :
    t.durationSince .unixEpoch = .ok d := by
  have hle : SystemTime.unixEpoch ≤ t := by
    rw [SystemTime.le_def, SystemTime.nanos_unixEpoch, h]
    exact Int.natCast_nonneg d
  rw [SystemTime.durationSince, if_pos hle, SystemTime.nanos_unixEpoch, h, sub_zero, Int.toNat_natCast]

theorem durationSince_epoch_of_neg {d : ℕ} (hpos : 0 < d) (h : t.nanos = -d) :
    t.durationSince .unixEpoch = .error d := by
  have hlt : ¬ SystemTime.unixEpoch ≤ t := by
    rw [SystemTime.le_def, SystemTime.nanos_unixEpoch, h]
    omega
  rw [SystemTime.durationSince, if_neg hlt, SystemTime.nanos_unixEpoch, h, sub_neg_eq_add, zero_add, Int.toNat_natCast]

theorem parts_of_after {secs nanos : ℕ} (hsecs : secs < 2 ^ 63) (hremainder : nanos < nanosPerSec)
    (h : t.nanos = (secs * nanosPerSec + nanos : ℕ)) :
    unixTimestampParts t = some ((secs : ℤ), nanos) := by
  obtain ⟨hdiv, hmod⟩ := duration_parts secs hremainder
  rw [unixTimestampParts, durationSince_epoch_of_nonneg h]
  dsimp only
  rw [hdiv, hmod, if_pos hsecs]

theorem parts_of_whole_before {secs : ℕ} (hsecs : secs < 2 ^ 63) (hpos : 0 < secs)
    (h : t.nanos = -(secs * nanosPerSec + 0 : ℕ)) : unixTimestampParts t = some (-(secs : ℤ), 0) := by
  obtain ⟨hdiv, hmod⟩ := duration_parts secs (by decide : 0 < nanosPerSec)
  have hdistance : 0 < secs * nanosPerSec + 0 := Nat.add_pos_left (Nat.mul_pos hpos (by decide)) 0
  rw [unixTimestampParts, durationSince_epoch_of_neg hdistance h]
  dsimp only
  rw [hdiv, hmod, if_pos hsecs, if_pos rfl]

/-- The nanoseconds behind the whole seconds of the distance count up to the next second. -/
theorem parts_of_before {secs nanos : ℕ} (hsecs : secs + 1 < 2 ^ 63) (hpos : 0 < nanos)
    (hremainder : nanos < nanosPerSec) (h : t.nanos = -(secs * nanosPerSec + (nanosPerSec - nanos) : ℕ)) :
    unixTimestampParts t = some (-((secs : ℤ) + 1), nanos) := by
  have hrest : nanosPerSec - nanos < nanosPerSec := Nat.sub_lt (by decide) hpos
  have hdistance : 0 < secs * nanosPerSec + (nanosPerSec - nanos) := Nat.add_pos_right _ (Nat.sub_pos_of_lt hremainder)
  obtain ⟨hdiv, hmod⟩ := duration_parts secs hrest
  rw [unixTimestampParts, durationSince_epoch_of_neg hdistance h]
  dsimp only
  rw [hdiv, hmod, if_pos (by omega), if_neg (Nat.sub_ne_zero_of_lt hremainder), if_pos hsecs,
    Nat.sub_sub_self hremainder.le]

theorem unixTimestampParts_of_nanos {seconds : ℤ} {nanos : ℕ} (hseconds : seconds.natAbs < 2 ^ 63)
    (hremainder : nanos < nanosPerSec) (h : t.nanos = seconds * nanosPerSec + nanos) :
    unixTimestampParts t = some (seconds, nanos) := by
  obtain ⟨secs, rfl | rfl⟩ := Int.eq_nat_or_neg seconds
  · exact parts_of_after (by simpa using hseconds) hremainder (by rw [h]; push_cast; rfl)
  · rw [Int.natAbs_neg, Int.natAbs_natCast] at hseconds
    rcases Nat.eq_zero_or_pos secs with rfl | hpos
    · exact parts_of_after hseconds hremainder (by rw [h]; push_cast; simp)
    · rcases Nat.eq_zero_or_pos nanos with rfl | hnanos
      · exact parts_of_whole_before hseconds hpos (by rw [h]; push_cast; ring)
      · obtain ⟨secs, rfl⟩ := Nat.exists_eq_succ_of_ne_zero hpos.ne'
        have hparts := parts_of_before (t := t) hseconds hnanos hremainder (by
          rw [h]
          push_cast [hremainder.le]
          ring)
        rw [hparts]
        push_cast
        rfl

end Parts

theorem fromTimestamp_eq_some {seconds : ℤ} {nanos : ℕ} {k : KerberosTime}
    (h : KerberosTime.fromTimestamp seconds nanos = some k) : k.seconds = seconds ∧ k.nanos = nanos := by
  unfold KerberosTime.fromTimestamp at h
  split at h
  · cases h
    exact ⟨rfl, rfl⟩
  · cases h

theorem systemTimeFromKerberosTime_of_isWhole {k : KerberosTime} (hk : k.IsWhole) :
    ∃ t, systemTimeFromKerberosTime k = some t ∧ t.nanos = k.seconds * nanosPerSec := by
  have hge := k.seconds_ge
  have hle := k.seconds_le
  simp only [minTimestamp, maxTimestamp] at hge hle
  have hk' : k.nanos = 0 := hk
  simp only [systemTimeFromKerberosTime, SystemTime.checkedAdd, SystemTime.checkedSub, Duration.new,
    hk', Nat.add_zero]
  refine ⟨⟨k.seconds * nanosPerSec, ?_, ?_⟩, ?_, rfl⟩
  · simp only [nanosPerSec]; omega
  · simp only [nanosPerSec]; omega
  · split
    · rw [SystemTime.ofNanos?_eq_some, SystemTime.nanos_unixEpoch]
      simp only [nanosPerSec]; omega
    · rw [SystemTime.ofNanos?_eq_some, SystemTime.nanos_unixEpoch]
      simp only [nanosPerSec]; omega

theorem truncatedKerberosTime_eq_some {time : SystemTime} {k : KerberosTime}
    (h : truncatedKerberosTime time = some k) :
    k.IsWhole ∧ ∃ nanos : ℕ, time.nanos = k.seconds * nanosPerSec + nanos ∧ nanos < nanosPerSec := by
  simp only [truncatedKerberosTime, Option.bind_eq_bind, Option.bind_eq_some_iff, Prod.exists] at h
  obtain ⟨seconds, nanos, hp, hk⟩ := h
  obtain ⟨rfl, hn⟩ := fromTimestamp_eq_some hk
  exact ⟨hn, nanos, unixTimestampParts_eq_some hp⟩

theorem systemTime_truncated_eq_iff {time : SystemTime} {k : KerberosTime}
    (h : truncatedKerberosTime time = some k) :
    systemTimeFromKerberosTime k = some time ↔ time.nanos % nanosPerSec = 0 := by
  obtain ⟨hw, nanos, hn, hlt⟩ := truncatedKerberosTime_eq_some h
  obtain ⟨t, ht, htn⟩ := systemTimeFromKerberosTime_of_isWhole hw
  rw [ht, Option.some.injEq]
  constructor
  · intro heq
    subst heq
    rw [htn]
    exact Int.mul_emod_left _ _
  · intro hm
    apply SystemTime.ext
    rw [htn]
    simp only [nanosPerSec] at *
    omega

theorem kerberosTimeFromSystemTime_of_isWhole {k : KerberosTime} {t : SystemTime} (hk : k.IsWhole)
    (h : systemTimeFromKerberosTime k = some t) : kerberosTimeFromSystemTime t = some k := by
  obtain ⟨t', ht', htn⟩ := systemTimeFromKerberosTime_of_isWhole hk
  obtain rfl := Option.some.inj (h.symm.trans ht')
  have hge := k.seconds_ge
  have hle := k.seconds_le
  simp only [minTimestamp, maxTimestamp] at hge hle
  have hsecs : k.seconds.natAbs < 2 ^ 63 := by omega
  have hp : unixTimestampParts t = some (k.seconds, 0) :=
    unixTimestampParts_of_nanos hsecs (by decide) (by rw [htn, Nat.cast_zero, add_zero])
  have hc : minTimestamp ≤ k.seconds ∧ k.seconds ≤ maxTimestamp ∧ 0 < nanosPerSec :=
    ⟨k.seconds_ge, k.seconds_le, by decide⟩
  simp only [kerberosTimeFromSystemTime, hp, Option.bind_eq_bind, Option.bind_some,
    KerberosTime.fromTimestamp, dif_pos hc, Option.some.injEq]
  exact KerberosTime.ext rfl hk.symm

end Conversions

end Rskrb5
