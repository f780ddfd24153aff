import Rskrb5.Service.Replay

namespace Rskrb5.Service

open Lib.Results Lib.Once Crypto EncParts

inductive Op
  | validate (own : ReplayCache) (c : Call)
  | clearOlderThanAt (maxAge : ℕ) (now : SystemTime)

def Op.now : Op → SystemTime
  | .validate _ c => c.validator.now.getD c.clock.authenticator
  | .clearOlderThanAt _ now => now

/-- All validators allow the skew `S`, and prunes keep what is not older than twice of it. -/
def Op.Respects (S : ℕ) : Op → Prop
  | .validate _ c => c.validator.maxClockSkew = S
  | .clearOlderThanAt maxAge _ => 2 * S ≤ maxAge

section Clocks

theorem nanos_of_checkedAdd {t t' : SystemTime} {d : ℕ} (h : t.checkedAdd d = some t') :
    t'.nanos = t.nanos + d :=
  SystemTime.ofNanos?_eq_some.mp h

theorem absDuration_eq (left right : SystemTime) :
    (absDuration left right : ℤ) = |left.nanos - right.nanos| := by
  rw [absDuration, SystemTime.durationSince]
  by_cases h : right ≤ left
  · rw [if_pos h]
    rw [SystemTime.le_def] at h
    rw [abs_of_nonneg (by omega)]
    exact Int.toNat_of_nonneg (by omega)
  · rw [if_neg h]
    rw [SystemTime.le_def] at h
    rw [abs_of_neg (by omega)]
    simp only [Int.neg_sub]
    exact Int.toNat_of_nonneg (by omega)

theorem lt_of_keeps_eq_false {maxAge : ℕ} {now presentedAt : SystemTime}
    (h : ReplayCache.keeps maxAge now presentedAt = false) :
    presentedAt.nanos + maxAge < now.nanos := by
  rw [ReplayCache.keeps, SystemTime.durationSince] at h
  split at h
  · next age hage =>
    split at hage
    · simp only [Except.ok.injEq] at hage
      simp only [decide_eq_false_iff_not, not_le] at h
      omega
    · cases hage
  · cases h

end Clocks

section Runs

variable {Pac : Type} (P : Primitives) (R : Rasn) (pac : PacOps Pac)

def Op.run (s : SharedReplayCache × List Call) : Op → SharedReplayCache × List Call
  | .validate own c =>
    let (result, caches) := c.validator.validateApReq P R pac c.clock c.bytes ⟨own, some s.1⟩
    (caches.sharedReplayCache.getD s.1, if result.isOk then c :: s.2 else s.2)
  | .clearOlderThanAt maxAge now => ((s.1.clearOlderThanAt maxAge now).2, s.2)

def ReplayKey.authenticatorNanos (key : ReplayKey) : ℤ :=
  key.ctimeSeconds * nanosPerSec + key.cusec.toNat * 1000

/-- The accepted calls yielded keys of which the cache guards the skew window. -/
def Pruned (S : ℕ) (last : ℤ) (s : SharedReplayCache × List Call) : Prop :=
  ∃ log : List (Call × ReplayKey), s.2 = log.map Prod.fst ∧ (∀ a ∈ log, Yields P R pac a.1 a.2) ∧
    (memory s.1 (log.map Prod.snd)).Windowed SystemTime.nanos ReplayKey.authenticatorNanos S last

theorem pruned_new (S : ℕ) (last : ℤ) : Pruned P R pac S last (.new, []) :=
  ⟨[], rfl, by simp, memory_new ▸ Memory.windowed_empty _ _ _ _⟩

variable {P R pac}

theorem isWhole_of_decrypt (hw : ∀ bytes a, R.authenticator.decode bytes = .ok a → a.ctime.IsWhole)
    {apReq : ApReq} {key : EncryptionKey} {usage : UInt32} {a : Authenticator}
    (h : decryptApReqAuthenticator P R apReq key usage = .ok a) : a.ctime.IsWhole := by
  rw [decryptApReqAuthenticator, bind_eq_ok] at h
  obtain ⟨plaintext, -, h⟩ := h
  rw [decodeAuthenticator, decode, mapError_eq_ok] at h
  exact hw _ _ h

theorem skew_of_check (hw : ∀ bytes a, R.authenticator.decode bytes = .ok a → a.ctime.IsWhole) {c : Call}
    {key : ReplayKey} {now : SystemTime} {validated : ValidatedApReq Pac}
    (h : c.check P R pac = .ok (key, now, validated)) :
    now = c.validator.now.getD c.clock.authenticator ∧
      |now.nanos - key.authenticatorNanos| ≤ c.validator.maxClockSkew := by
  obtain ⟨e⟩ := c.validator.exists_evidence P R pac h
  refine ⟨e.now_eq, ?_⟩
  obtain ⟨t, ht, hnanos⟩ := systemTimeFromKerberosTime_of_isWhole (isWhole_of_decrypt hw e.authenticator_eq)
  have hctime : validated.authenticatorCtime = t := Option.some.inj (e.ctime_eq.symm.trans ht)
  have htime : validated.authenticatorTime.nanos = key.authenticatorNanos := by
    rw [nanos_of_checkedAdd e.time_eq, hctime, hnanos]
    simp [ReplayKey.authenticatorNanos, Duration.fromMicros, congrArg ReplayKey.ctimeSeconds e.replayKey_eq,
      congrArg ReplayKey.cusec e.replayKey_eq]
  rw [← htime, ← absDuration_eq]
  exact_mod_cast e.skew_le

theorem Op.run_validate_cases (own : ReplayCache) (c : Call) (s : SharedReplayCache × List Call)
    (keys : List ReplayKey) :
    (Op.validate own c).run P R pac s = s ∨
      ∃ key now validated shared, c.check P R pac = .ok (key, now, validated) ∧
        ((Op.validate own c).run P R pac s = (shared, s.2) ∧
            memory shared keys = (memory s.1 keys).present key now ∨
          (Op.validate own c).run P R pac s = (shared, c :: s.2) ∧
            memory shared (key :: keys) = (memory s.1 keys).present key now) := by
  cases hc : c.validator.checkApReq P R pac c.clock c.bytes with
  | error e => exact .inl (by simp [Op.run, ServiceValidator.validateApReq, hc, Except.isOk, Except.toBool])
  | ok r =>
    obtain ⟨key, now, validated⟩ := r
    obtain ⟨result, shared, hrec⟩ : ∃ result shared,
        recordReplay ⟨own, some s.1⟩ key now = (result, ⟨own, some shared⟩) := by
      rw [recordReplay_shared]
      split <;> exact ⟨_, _, rfl⟩
    have hrun : (Op.validate own c).run P R pac s =
        (shared, if (do result; return validated : Except Error (ValidatedApReq Pac)).isOk
          then c :: s.2 else s.2) := by
      simp only [Op.run, ServiceValidator.validateApReq, hc, hrec]
      rfl
    rcases recordReplay_cases hrec keys with ⟨e, rfl, rfl⟩ | ⟨⟨e, rfl⟩, hm⟩ | ⟨rfl, hm⟩
    · exact .inl hrun
    · exact .inr ⟨key, now, validated, shared, hc, .inl ⟨hrun, hm⟩⟩
    · exact .inr ⟨key, now, validated, shared, hc, .inr ⟨hrun, hm⟩⟩

theorem SharedReplayCache.clearOlderThanAt_cases (shared : SharedReplayCache) (maxAge : ℕ)
    (now : SystemTime) (keys : List ReplayKey) :
    (shared.clearOlderThanAt maxAge now).2 = shared ∨
      memory (shared.clearOlderThanAt maxAge now).2 keys =
        (memory shared keys).retain (ReplayCache.keeps maxAge now) := by
  rw [clearOlderThanAt, withCacheMut]
  split
  · exact .inl rfl
  · exact .inr (memory_clearOlderThanAt shared keys maxAge now)

theorem pruned_run (hw : ∀ bytes a, R.authenticator.decode bytes = .ok a → a.ctime.IsWhole) {S : ℕ}
    {last : ℤ} {s : SharedReplayCache × List Call} {op : Op} (hs : Pruned P R pac S last s)
    (hop : op.Respects S) (hlast : last ≤ op.now.nanos) :
    Pruned P R pac S op.now.nanos (op.run P R pac s) := by
  obtain ⟨log, hlog, hy, hm⟩ := hs
  cases op with
  | validate own c =>
    rcases Op.run_validate_cases own c s (log.map Prod.snd) with
      hrun | ⟨key, now, validated, shared, hc, hrun⟩
    · rw [hrun]
      exact ⟨log, hlog, hy, hm.mono hlast⟩
    · obtain ⟨hnow, hskew⟩ := skew_of_check hw hc
      rw [show c.validator.maxClockSkew = S from hop] at hskew
      have hnow' : now = (Op.validate own c).now := hnow
      have hpresent := hm.present (hnow' ▸ hlast) hskew
      rw [← hnow']
      rcases hrun with ⟨hrun, hmem⟩ | ⟨hrun, hmem⟩
      · rw [hrun]
        exact ⟨log, hlog, hy, hmem ▸ hpresent⟩
      · rw [hrun]
        refine ⟨(c, key) :: log, by rw [hlog, List.map_cons], ?_, hmem ▸ hpresent⟩
        exact List.forall_mem_cons.mpr ⟨⟨now, validated, hc⟩, hy⟩
  | clearOlderThanAt maxAge now =>
    have hage : 2 * S ≤ maxAge := hop
    refine ⟨log, hlog, hy, ?_⟩
    rcases s.1.clearOlderThanAt_cases maxAge now (log.map Prod.snd) with hs | hs
    · simpa only [Op.run, hs] using hm.mono hlast
    · simp only [Op.run, hs]
      refine hm.retain hlast fun p hp ↦ ?_
      have hlt := lt_of_keeps_eq_false hp
      simp only [Op.now]
      omega

theorem pruned_foldl (hw : ∀ bytes a, R.authenticator.decode bytes = .ok a → a.ctime.IsWhole) {S : ℕ}
    {ops : List Op} (hops : ∀ op ∈ ops, op.Respects S)
    (hnow : ops.Pairwise fun op₁ op₂ ↦ op₁.now ≤ op₂.now) :
    ∀ {s : SharedReplayCache × List Call} {last : ℤ}, (∀ op ∈ ops, last ≤ op.now.nanos) →
      Pruned P R pac S last s → ∃ last', Pruned P R pac S last' (ops.foldl (Op.run P R pac) s) := by
  induction ops with
  | nil => exact fun _ hs ↦ ⟨_, hs⟩
  | cons op ops ih =>
    intro s last hlast hs
    obtain ⟨hle, hnow⟩ := List.pairwise_cons.mp hnow
    have hs' := pruned_run hw hs (hops op List.mem_cons_self) (hlast op List.mem_cons_self)
    exact ih (fun o ho ↦ hops o (List.mem_cons_of_mem _ ho)) hnow hle hs'

theorem Yields.unique {c : Call} {key key' : ReplayKey} (h : Yields P R pac c key)
    (h' : Yields P R pac c key') : key = key' := by
  obtain ⟨now, validated, h⟩ := h
  obtain ⟨now', validated', h'⟩ := h'
  exact congrArg Prod.fst (Except.ok.inj (h.symm.trans h'))

variable (P R pac)

/-- As long as the clock does not run backwards and prunes look back over both sides of the
skew window, the calls that return `Ok` yield different replay keys. -/
theorem ok_pairwise_of_pruned (S : ℕ) (ops : List Op)
    (hw : ∀ bytes a, R.authenticator.decode bytes = .ok a → a.ctime.IsWhole)
    (hops : ∀ op ∈ ops, op.Respects S) (hnow : ops.Pairwise fun op₁ op₂ ↦ op₁.now ≤ op₂.now) :
    (ops.foldl (Op.run P R pac) (.new, [])).2.Pairwise fun c₁ c₂ ↦
      ∀ key, Yields P R pac c₁ key → ¬ Yields P R pac c₂ key := by
  obtain ⟨_, log, hlog, hy, ⟨hn, -⟩, -⟩ :=
    pruned_foldl hw hops hnow (fun op _ ↦ op.now.lower) (pruned_new P R pac S _)
  rw [hlog, List.pairwise_map]
  have hne : log.Pairwise fun a₁ a₂ ↦ a₁.2 ≠ a₂.2 := List.pairwise_map.mp hn
  refine hne.imp_of_mem fun {a₁ a₂} hm₁ hm₂ hne key h₁ h₂ ↦ hne ?_
  rw [(hy a₁ hm₁).unique h₁, (hy a₂ hm₂).unique h₂]

end Runs

section Boundary

def windowOpens : SystemTime := ⟨(1767225660 - 300) * nanosPerSec, by decide, by decide⟩
def windowCloses : SystemTime := ⟨(1767225660 + 300) * nanosPerSec, by decide, by decide⟩

def aliceCallAt (now : SystemTime) : Call :=
  ⟨{ webValidator with now := some now }, ⟨now, now⟩, aliceApReqDer 1 aliceAuthenticatorCipher⟩

def pruneAndResend : List Op :=
  [.validate .new (aliceCallAt windowOpens), .clearOlderThanAt (2 * defaultMaxClockSkew) windowCloses,
    .validate .new (aliceCallAt windowCloses)]

theorem aliceCallAt_yields {now : SystemTime} (h : now = windowOpens ∨ now = windowCloses) :
    Yields exchangePrimitives exchangeRasn noPac (aliceCallAt now) (aliceReplayKey 1) := by
  have hmap : ((aliceCallAt now).check exchangePrimitives exchangeRasn noPac).map Prod.fst =
      .ok (aliceReplayKey 1) := by
    rcases h with rfl | rfl <;> decide +kernel
  cases hc : (aliceCallAt now).check exchangePrimitives exchangeRasn noPac with
  | error e => simp [hc, Except.map] at hmap
  | ok r =>
    simp only [hc, Except.map, Except.ok.injEq] at hmap
    exact ⟨r.2.1, r.2.2, by rw [hc, ← hmap]⟩

theorem pruneAndResend_pairwise :
    Yields exchangePrimitives exchangeRasn noPac (aliceCallAt windowOpens) (aliceReplayKey 1) ∧
    Yields exchangePrimitives exchangeRasn noPac (aliceCallAt windowCloses) (aliceReplayKey 1) ∧
    (pruneAndResend.foldl (Op.run exchangePrimitives exchangeRasn noPac) (.new, [])).2.Pairwise
      fun c₁ c₂ ↦ ∀ key, Yields exchangePrimitives exchangeRasn noPac c₁ key →
        ¬ Yields exchangePrimitives exchangeRasn noPac c₂ key := by
  refine ⟨aliceCallAt_yields (.inl rfl), aliceCallAt_yields (.inr rfl), ok_pairwise_of_pruned
    exchangePrimitives exchangeRasn noPac defaultMaxClockSkew pruneAndResend (fun bytes a h ↦ ?_) ?_ ?_⟩
  · have ha := Coder.mem_of_ofPairs_decode h
    simp only [List.map_cons, List.map_nil, List.mem_singleton] at ha
    rw [ha]
    rfl
  · simp [pruneAndResend, Op.Respects, aliceCallAt, webValidator]
  · simp [pruneAndResend, Op.now, aliceCallAt, SystemTime.le_def, windowOpens, windowCloses, nanosPerSec]

end Boundary

end Rskrb5.Service
