import Rskrb5.Time

namespace Rskrb5

/-- The instant of a Kerberos time, in nanoseconds since the Unix epoch. -/
def KerberosTime.instant (k : KerberosTime) : ℤ := k.seconds * nanosPerSec + k.nanos

/-- An instant that is not before the epoch, or a whole number of seconds away from it. -/
def FromEpochOrWhole (instant : ℤ) : Prop := 0 ≤ instant ∨ instant % nanosPerSec = 0

instance (instant : ℤ) : Decidable (FromEpochOrWhole instant) :=
  inferInstanceAs (Decidable (0 ≤ instant ∨ instant % nanosPerSec = 0))

section FromKerberosTime

variable {k : KerberosTime} {t : SystemTime}

theorem nanos_of_nonneg (h0 : 0 ≤ k.seconds) (h : systemTimeFromKerberosTime k = some t) :
    t.nanos = k.instant := by
  rw [systemTimeFromKerberosTime, if_pos h0] at h
  have hn := SystemTime.ofNanos?_eq_some.mp h
  rw [hn, SystemTime.nanos_unixEpoch, KerberosTime.instant, Duration.new]
  push_cast
  rw [Int.toNat_of_nonneg h0, zero_add]

/-- Before the epoch the nanoseconds are subtracted, though they count forward from the second. -/
theorem nanos_of_neg (h0 : k.seconds < 0) (h : systemTimeFromKerberosTime k = some t) :
    t.nanos = k.instant - 2 * k.nanos := by
  rw [systemTimeFromKerberosTime, if_neg (not_le.mpr h0)] at h
  have hn := SystemTime.ofNanos?_eq_some.mp h
  rw [hn, SystemTime.nanos_unixEpoch, KerberosTime.instant, Duration.new]
  push_cast
  rw [abs_of_neg h0]
  ring

/-- Every Kerberos time is within the range of the wall clock. -/
theorem exists_systemTime (k : KerberosTime) : ∃ t, systemTimeFromKerberosTime k = some t := by
  have hge := k.seconds_ge
  have hle := k.seconds_le
  have hlt := k.nanos_lt
  simp only [minTimestamp, maxTimestamp, nanosPerSec] at hge hle hlt
  rw [systemTimeFromKerberosTime]
  split
  · refine ⟨⟨Duration.new k.seconds.toNat k.nanos, ?_, ?_⟩, SystemTime.ofNanos?_eq_some.mpr (zero_add _).symm⟩
    · simp only [Duration.new, nanosPerSec]
      omega
    · simp only [Duration.new, nanosPerSec]
      omega
  · refine ⟨⟨-Duration.new k.seconds.natAbs k.nanos, ?_, ?_⟩, SystemTime.ofNanos?_eq_some.mpr (zero_sub _).symm⟩
    · simp only [Duration.new, nanosPerSec]
      omega
    · simp only [Duration.new, nanosPerSec]
      omega

theorem nanos_eq_instant_iff (hremainder : k.nanos < nanosPerSec) (h : systemTimeFromKerberosTime k = some t) :
    t.nanos = k.instant ↔ FromEpochOrWhole k.instant := by
  unfold FromEpochOrWhole
  by_cases h0 : 0 ≤ k.seconds
  · have hn := nanos_of_nonneg h0 h
    have hpos : 0 ≤ k.instant := by
      simp only [KerberosTime.instant, nanosPerSec]
      omega
    exact iff_of_true hn (.inl hpos)
  · have hn := nanos_of_neg (not_le.mp h0) h
    simp only [KerberosTime.instant, nanosPerSec] at hn hremainder ⊢
    omega

end FromKerberosTime

section FromSystemTime

variable {k k' : KerberosTime} {t : SystemTime}

/-- The service's conversion is exact: what it returns is the instant itself, the nanoseconds counted
forward from the second. -/
theorem kerberosTimeFromSystemTime_eq_some :
    kerberosTimeFromSystemTime t = some k ↔ k.instant = t.nanos ∧ k.nanos < nanosPerSec := by
  constructor
  · intro h
    obtain ⟨⟨seconds, nanos⟩, hparts, hfrom⟩ := Option.bind_eq_some_iff.mp h
    obtain ⟨hsum, hremainder⟩ := unixTimestampParts_eq_some hparts
    obtain ⟨rfl, rfl⟩ := fromTimestamp_eq_some hfrom
    exact ⟨hsum.symm, hremainder⟩
  · intro h
    obtain ⟨hinstant, hremainder⟩ := h
    have hge := k.seconds_ge
    have hle := k.seconds_le
    have hseconds : k.seconds.natAbs < 2 ^ 63 := by
      simp only [minTimestamp, maxTimestamp] at hge hle
      omega
    have hparts := unixTimestampParts_of_nanos hseconds hremainder hinstant.symm
    rw [kerberosTimeFromSystemTime, hparts, Option.bind_eq_bind, Option.bind_some]
    exact dif_pos ⟨hge, hle, hremainder⟩

end FromSystemTime

/-- The conversions are each other's inverses at the instants from the epoch on and on whole seconds,
and nowhere else. -/
theorem timeConversions_iff (t : SystemTime) (k : KerberosTime) :
    (∀ k', kerberosTimeFromSystemTime t = some k' →
      (systemTimeFromKerberosTime k' = some t ↔ FromEpochOrWhole t.nanos)) ∧
    (k.nanos < nanosPerSec → ∀ t', systemTimeFromKerberosTime k = some t' →
      ((∃ k', kerberosTimeFromSystemTime t' = some k' ∧ k'.instant = k.instant) ↔
        FromEpochOrWhole k.instant)) := by
  refine ⟨fun k' h ↦ ?_, fun hremainder t' h ↦ ?_⟩
  · obtain ⟨hinstant, hremainder⟩ := kerberosTimeFromSystemTime_eq_some.mp h
    obtain ⟨t', ht'⟩ := exists_systemTime k'
    rw [← hinstant, ← nanos_eq_instant_iff hremainder ht', ht', Option.some.injEq, hinstant]
    exact ⟨fun heq ↦ congrArg SystemTime.nanos heq, SystemTime.ext⟩
  · rw [← nanos_eq_instant_iff hremainder h]
    constructor
    · intro hback
      obtain ⟨k', hk', heq⟩ := hback
      rw [← (kerberosTimeFromSystemTime_eq_some.mp hk').1, heq]
    · intro heq
      exact ⟨k, kerberosTimeFromSystemTime_eq_some.mpr ⟨heq.symm, hremainder⟩, rfl⟩

/-- Half a second before the epoch comes back as one and a half. -/
theorem halfSecond_before_epoch : ∃ t k t' k', kerberosTimeFromSystemTime t = some k ∧
    systemTimeFromKerberosTime k = some t' ∧ t' ≠ t ∧
    kerberosTimeFromSystemTime t' = some k' ∧ k'.instant ≠ k.instant := by
  refine ⟨⟨-500000000, by decide, by decide⟩, ⟨-1, 500000000, by decide, by decide, by decide⟩,
    ⟨-1500000000, by decide, by decide⟩, ⟨-2, 500000000, by decide, by decide, by decide⟩, ?_, ?_, ?_, ?_, ?_⟩
  · exact kerberosTimeFromSystemTime_eq_some.mpr (by decide)
  · decide
  · decide
  · exact kerberosTimeFromSystemTime_eq_some.mpr (by decide)
  · decide

end Rskrb5
