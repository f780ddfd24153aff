import Rskrb5.Lib.Once
import Rskrb5.Service

namespace Rskrb5.Service

open Lib.Results Lib.Once Crypto EncParts

section Caches

def memory (shared : SharedReplayCache) (accepted : List ReplayKey) : Memory ReplayKey SystemTime where
  stamp key := shared.cache.entries[key]?
  accepted := accepted

theorem recordReplay_shared (own : ReplayCache) (shared : SharedReplayCache) (replayKey : ReplayKey)
    (now : SystemTime) : recordReplay ⟨own, some shared⟩ replayKey now =
      if shared.poisoned then (.error .replayCachePoisoned, ⟨own, some shared⟩)
      else (ensure (shared.cache.entries[replayKey]?.isNone = true) .replay,
        ⟨own, some ⟨⟨shared.cache.entries.insert replayKey now⟩, false⟩⟩) := by
  cases hp : shared.poisoned <;>
    simp [recordReplay, SharedReplayCache.insert, SharedReplayCache.withCacheMut, ReplayCache.insert, hp]

/-- Recording a key presents it to the memory, and is `Ok` exactly for a key it accepts. -/
theorem memory_insert (shared : SharedReplayCache) (accepted : List ReplayKey) (replayKey : ReplayKey)
    (now : SystemTime) :
    memory ⟨⟨shared.cache.entries.insert replayKey now⟩, false⟩
        (if shared.cache.entries[replayKey]?.isNone then replayKey :: accepted else accepted) =
      (memory shared accepted).present replayKey now := by
  have hs : (fun key ↦ (shared.cache.entries.insert replayKey now)[key]?) =
      Function.update (fun key ↦ shared.cache.entries[key]?) replayKey (some now) := by
    funext key
    rw [Std.ExtHashMap.getElem?_insert]
    by_cases h : replayKey = key
    · subst h; simp
    · rw [Function.update_of_ne (Ne.symm h)]
      simp [h]
  simp only [memory, Memory.present, hs]
  rfl

theorem memory_clearOlderThanAt (shared : SharedReplayCache) (accepted : List ReplayKey) (maxAge : ℕ)
    (now : SystemTime) :
    memory ⟨(shared.cache.clearOlderThanAt maxAge now).2, false⟩ accepted =
      (memory shared accepted).retain (ReplayCache.keeps maxAge now) := by
  have hs : (fun key : ReplayKey ↦ (shared.cache.entries.filter
      fun _ presentedAt ↦ ReplayCache.keeps maxAge now presentedAt)[key]?) =
      fun key ↦ shared.cache.entries[key]?.filter (ReplayCache.keeps maxAge now) := by
    funext key
    exact Std.ExtHashMap.getElem?_filter'
  simp only [memory, Memory.retain, ReplayCache.clearOlderThanAt, hs]

theorem memory_new : memory .new [] = .empty := by
  have hs : (fun key : ReplayKey ↦ SharedReplayCache.new.cache.entries[key]?) = fun _ ↦ none := by
    funext key
    exact Std.ExtHashMap.getElem?_empty
  simp only [memory, Memory.empty, hs]

end Caches

structure Call where
  validator : ServiceValidator
  clock : Clock
  bytes : Bytes

/-- Validators that share a replay cache. Up to the recording a call reads nothing shared,
so calls overlap as calls in flight, each between its checks and its turn at the lock. -/
structure System where
  shared : SharedReplayCache
  begun : List Call
  pending : List (Call × ReplayKey × SystemTime)
  accepted : List (Call × ReplayKey)

def System.initial : System := ⟨.new, [], [], []⟩

section Runs

variable {Pac : Type} (P : Primitives) (R : Rasn) (pac : PacOps Pac)

def Call.check (c : Call) : Except Error (ReplayKey × SystemTime × ValidatedApReq Pac) :=
  c.validator.checkApReq P R pac c.clock c.bytes

inductive Step : System → System → Prop
  | reject {s : System} {c : Call} {e : Error} (h : c.check P R pac = .error e) :
      Step s { s with begun := c :: s.begun }
  | begin {s : System} {c : Call} {key : ReplayKey} {now : SystemTime} {validated : ValidatedApReq Pac}
      (h : c.check P R pac = .ok (key, now, validated)) :
      Step s { s with begun := c :: s.begun, pending := (c, key, now) :: s.pending }
  | accept {s : System} {c : Call} {key : ReplayKey} {now : SystemTime}
      (before after : List (Call × ReplayKey × SystemTime)) {own own' : ReplayCache}
      {shared' : SharedReplayCache} (hp : s.pending = before ++ (c, key, now) :: after)
      (h : recordReplay ⟨own, some s.shared⟩ key now = (.ok (), ⟨own', some shared'⟩)) :
      Step s { s with shared := shared', pending := before ++ after, accepted := (c, key) :: s.accepted }
  | refuse {s : System} {c : Call} {key : ReplayKey} {now : SystemTime} {e : Error}
      (before after : List (Call × ReplayKey × SystemTime)) {own own' : ReplayCache}
      {shared' : SharedReplayCache} (hp : s.pending = before ++ (c, key, now) :: after)
      (h : recordReplay ⟨own, some s.shared⟩ key now = (.error e, ⟨own', some shared'⟩)) :
      Step s { s with shared := shared', pending := before ++ after }
  | poison {s : System} : Step s { s with shared := { s.shared with poisoned := true } }

def Reachable (s : System) : Prop := Relation.ReflTransGen (Step P R pac) .initial s

theorem validateApReq_eq {P : Primitives} {R : Rasn} {pac : PacOps Pac} {v : ServiceValidator} {clock : Clock}
    {bytes : Bytes} {caches caches' : Caches} {validated : ValidatedApReq Pac} :
    v.validateApReq P R pac clock bytes caches = (.ok validated, caches') ↔
      ∃ replayKey now, v.checkApReq P R pac clock bytes = .ok (replayKey, now, validated) ∧
        recordReplay caches replayKey now = (.ok (), caches') := by
  rw [ServiceValidator.validateApReq]
  cases v.checkApReq P R pac clock bytes with
  | error e => simp
  | ok checked =>
    obtain ⟨replayKey, now, found⟩ := checked
    simp only [Prod.mk.injEq, bind_eq_ok, pure_eq_ok, Except.ok.injEq]
    constructor
    · rintro ⟨⟨_, hrecorded, rfl⟩, hcaches⟩
      exact ⟨replayKey, now, ⟨rfl, rfl, rfl⟩, Prod.ext hrecorded hcaches⟩
    · rintro ⟨_, _, ⟨rfl, rfl, rfl⟩, hrecorded⟩
      rw [hrecorded]
      exact ⟨⟨(), rfl, rfl⟩, rfl⟩

/-- A call that is not interrupted is two steps of the system. -/
theorem run_of_validateApReq {s : System} {c : Call} {own own' : ReplayCache}
    {shared' : SharedReplayCache} {validated : ValidatedApReq Pac}
    (h : c.validator.validateApReq P R pac c.clock c.bytes ⟨own, some s.shared⟩ =
      (.ok validated, ⟨own', some shared'⟩)) :
    ∃ key now, c.check P R pac = .ok (key, now, validated) ∧
      Relation.ReflTransGen (Step P R pac) s
        { s with shared := shared', begun := c :: s.begun, accepted := (c, key) :: s.accepted } := by
  simp only [ServiceValidator.validateApReq] at h
  cases hc : c.validator.checkApReq P R pac c.clock c.bytes with
  | error e => simp [hc] at h
  | ok r =>
    obtain ⟨key, now, v⟩ := r
    simp only [hc, Prod.mk.injEq, bind_eq_ok, pure_eq_ok, Except.ok.injEq] at h
    obtain ⟨⟨_, hr, rfl⟩, hs⟩ := h
    refine ⟨key, now, hc, .tail (.single (.begin hc)) ?_⟩
    exact .accept (s := { s with begun := c :: s.begun, pending := (c, key, now) :: s.pending }) []
      s.pending rfl (Prod.ext hr hs)

def Yields (c : Call) (key : ReplayKey) : Prop :=
  ∃ now validated, c.check P R pac = .ok (key, now, validated)

/-- The memory has accepted every key once, and every call in flight or accepted has begun
and yielded its key. -/
def Inv (s : System) : Prop :=
  (memory s.shared (s.accepted.map Prod.snd)).Guarded (fun _ ↦ False) ∧
    (∀ p ∈ s.pending, p.1 ∈ s.begun ∧ Yields P R pac p.1 p.2.1) ∧
    ∀ a ∈ s.accepted, a.1 ∈ s.begun ∧ Yields P R pac a.1 a.2

theorem inv_initial : Inv P R pac .initial := by
  refine ⟨?_, by simp [System.initial], by simp [System.initial]⟩
  exact memory_new ▸ Memory.guarded_empty _

theorem guarded_of_stamp_eq {closed : ReplayKey → Prop} {shared shared' : SharedReplayCache}
    {accepted : List ReplayKey} (h : (memory shared accepted).Guarded closed)
    (hs : shared'.cache = shared.cache) : (memory shared' accepted).Guarded closed := by
  simpa only [Memory.Guarded, memory, hs] using h

theorem recordReplay_cases {own own' : ReplayCache} {shared shared' : SharedReplayCache}
    {key : ReplayKey} {now : SystemTime} {result : Except Error Unit}
    (h : recordReplay ⟨own, some shared⟩ key now = (result, ⟨own', some shared'⟩))
    (accepted : List ReplayKey) :
    (∃ e, result = .error e ∧ shared' = shared) ∨
      ((∃ e, result = .error e) ∧ memory shared' accepted = (memory shared accepted).present key now) ∨
      (result = .ok () ∧ memory shared' (key :: accepted) = (memory shared accepted).present key now) := by
  rw [recordReplay_shared] at h
  split at h
  · obtain ⟨hr, h⟩ := Prod.mk.inj h
    exact .inl ⟨_, hr.symm, (Option.some.inj (Caches.mk.inj h).2).symm⟩
  · obtain ⟨hr, h⟩ := Prod.mk.inj h
    have hs := (Option.some.inj (Caches.mk.inj h).2).symm
    have hm := memory_insert shared accepted key now
    rw [← hs] at hm
    by_cases hn : shared.cache.entries[key]?.isNone = true
    · rw [if_pos hn] at hm
      rw [ensure_of hn] at hr
      exact .inr (.inr ⟨hr.symm, hm⟩)
    · rw [if_neg hn] at hm
      rw [ensure_of_not hn] at hr
      exact .inr (.inl ⟨⟨_, hr.symm⟩, hm⟩)

theorem inv_step {s s' : System} (hi : Inv P R pac s) (h : Step P R pac s s') : Inv P R pac s' := by
  obtain ⟨hg, hp, ha⟩ := hi
  have keep : ∀ {c c' : Call} {key : ReplayKey}, c' ∈ s.begun ∧ Yields P R pac c' key →
      c' ∈ c :: s.begun ∧ Yields P R pac c' key := fun h ↦ ⟨List.mem_cons_of_mem _ h.1, h.2⟩
  cases h with
  | reject h => exact ⟨hg, fun p hm ↦ keep (hp p hm), fun a hm ↦ keep (ha a hm)⟩
  | begin h =>
    refine ⟨hg, fun p hm ↦ ?_, fun a hm ↦ keep (ha a hm)⟩
    rcases List.mem_cons.mp hm with rfl | hm
    · exact ⟨List.mem_cons_self, _, _, h⟩
    · exact keep (hp p hm)
  | @accept c key now before after _ _ _ hpend h =>
    have hcall := hp (c, key, now) (hpend ▸ by simp)
    have hsub : ∀ p ∈ before ++ after, p ∈ s.pending := by
      intro p hm
      rw [hpend]
      simp only [List.mem_append, List.mem_cons] at hm ⊢
      tauto
    rcases recordReplay_cases h (s.accepted.map Prod.snd) with ⟨e, he, -⟩ | ⟨⟨e, he⟩, -⟩ | ⟨-, hm⟩
    · cases he
    · cases he
    · refine ⟨?_, fun p hm ↦ hp p (hsub p hm), fun a hm ↦ ?_⟩
      · rw [List.map_cons, hm]
        exact hg.present id now
      · rcases List.mem_cons.mp hm with rfl | hm
        · exact hcall
        · exact ha a hm
  | @refuse c key now e before after _ _ _ hpend h =>
    have hsub : ∀ p ∈ before ++ after, p ∈ s.pending := by
      intro p hm
      rw [hpend]
      simp only [List.mem_append, List.mem_cons] at hm ⊢
      tauto
    refine ⟨?_, fun p hm ↦ hp p (hsub p hm), ha⟩
    rcases recordReplay_cases h (s.accepted.map Prod.snd) with ⟨_, -, rfl⟩ | ⟨-, hm⟩ | ⟨he, -⟩
    · exact hg
    · rw [hm]
      exact hg.present id now
    · cases he
  | poison => exact ⟨guarded_of_stamp_eq hg rfl, hp, ha⟩

theorem inv_of_reachable {s : System} (h : Reachable P R pac s) : Inv P R pac s :=
  invariant_of_step (Inv P R pac) (fun _ _ ↦ inv_step P R pac) (inv_initial P R pac) h

/-- Two messages with the same encrypted ticket part and the same encrypted authenticator. -/
def SameSealed (c₁ c₂ : Call) : Prop :=
  ∃ r₁ r₂, decodeApReq R c₁.bytes = .ok r₁ ∧ decodeApReq R c₂.bytes = .ok r₂ ∧
    r₁.ticket.encPart = r₂.ticket.encPart ∧ r₁.authenticator = r₂.authenticator

/-- The clear-text ticket fields of two messages agree, and their validators look up the
same service key for them. -/
def SameClear (c₁ c₂ : Call) : Prop :=
  ∀ r₁ r₂, decodeApReq R c₁.bytes = .ok r₁ → decodeApReq R c₂.bytes = .ok r₂ →
    r₁.ticket.realm = r₂.ticket.realm ∧ r₁.ticket.sname = r₂.ticket.sname ∧
      ∀ service, principalFromParts r₁.ticket.realm r₁.ticket.sname = some service →
        (c₁.validator.serviceKey r₁ service).map Prod.fst = (c₂.validator.serviceKey r₂ service).map Prod.fst

theorem replayKey_eq {c₁ c₂ : Call} {key₁ key₂ : ReplayKey} (h₁ : Yields P R pac c₁ key₁)
    (h₂ : Yields P R pac c₂ key₂) (hs : SameSealed R c₁ c₂) (hc : SameClear R c₁ c₂) : key₁ = key₂ := by
  obtain ⟨now₁, validated₁, h₁⟩ := h₁
  obtain ⟨now₂, validated₂, h₂⟩ := h₂
  obtain ⟨e₁⟩ := c₁.validator.exists_evidence P R pac h₁
  obtain ⟨e₂⟩ := c₂.validator.exists_evidence P R pac h₂
  obtain ⟨r₁, r₂, hr₁, hr₂, henc, hauth⟩ := hs
  obtain rfl := Except.ok.inj (hr₁.symm.trans e₁.decode_eq)
  obtain rfl := Except.ok.inj (hr₂.symm.trans e₂.decode_eq)
  obtain ⟨hrealm, hsname, hkey⟩ := hc _ _ hr₁ hr₂
  have hserv : validated₁.service = validated₂.service := by
    have hs₂ := e₂.service_eq
    rw [← hrealm, ← hsname] at hs₂
    exact Option.some.inj (e₁.service_eq.symm.trans hs₂)
  have hk : e₁.key = e₂.key := by
    have hk := hkey _ e₁.service_eq
    rw [e₁.serviceKey_eq, hserv, e₂.serviceKey_eq] at hk
    exact Except.ok.inj hk
  have htkt : e₁.encTicket = e₂.encTicket := by
    have ht₁ := e₁.encTicket_eq
    rw [decryptTicketEncPart, henc, hk] at ht₁
    exact Except.ok.inj (ht₁.symm.trans e₂.encTicket_eq)
  have haut : e₁.authenticator = e₂.authenticator := by
    have ha₁ := e₁.authenticator_eq
    rw [decryptApReqAuthenticator, hauth, htkt, authenticatorUsageForTicket, hsname] at ha₁
    exact Except.ok.inj (ha₁.symm.trans e₂.authenticator_eq)
  have hclient : validated₁.client = validated₂.client := by
    have hc₁ := e₁.client_eq
    rw [haut] at hc₁
    exact Option.some.inj (hc₁.symm.trans e₂.client_eq)
  have hcusec : validated₁.authenticatorCusec = validated₂.authenticatorCusec := by
    have hu₁ := e₁.cusec_eq
    rw [haut] at hu₁
    exact Option.some.inj (hu₁.symm.trans e₂.cusec_eq)
  rw [e₁.replayKey_eq, e₂.replayKey_eq, hserv, hclient, haut, hcusec]

/-- When calls with the same sealed parts also agree in the clear, no run accepts two of them. -/
theorem accepted_pairwise_of_sameClear {s : System} (hs : Reachable P R pac s)
    (hc : ∀ c₁ ∈ s.begun, ∀ c₂ ∈ s.begun, SameSealed R c₁ c₂ → SameClear R c₁ c₂) :
    s.accepted.Pairwise fun a₁ a₂ ↦ ¬ SameSealed R a₁.1 a₂.1 := by
  obtain ⟨hg, -, ha⟩ := inv_of_reachable P R pac hs
  have hn : s.accepted.Pairwise fun a₁ a₂ ↦ a₁.2 ≠ a₂.2 := List.pairwise_map.mp hg.1
  refine hn.imp_of_mem fun {a₁ a₂} hm₁ hm₂ hne hsame ↦ hne ?_
  obtain ⟨hb₁, hy₁⟩ := ha a₁ hm₁
  obtain ⟨hb₂, hy₂⟩ := ha a₂ hm₂
  exact replayKey_eq P R pac hy₁ hy₂ hsame (hc _ hb₁ _ hb₂ hsame)

end Runs

section Exchange

/-- One exchange sealed with RC4-HMAC keys: `alice@A` at the service `web@A`, with a ticket for
ten hours from 2026-01-01 and an authenticator written one minute into it. -/
def webKey : EncryptionKey := ⟨23, List.replicate 16 0x11⟩
def aliceSessionKey : EncryptionKey := ⟨23, List.replicate 16 0x22⟩
def exchangeConfounder : Bytes := [0, 1, 2, 3, 4, 5, 6, 7]

def aliceEncTicket : EncTicketPart where
  flags := List.replicate 32 false
  key := aliceSessionKey
  crealm := asBytes "A"
  cname := ⟨1, [asBytes "alice"]⟩
  transited := ⟨0, []⟩
  authTime := ⟨1767225600, 0, by decide, by decide, by decide⟩
  startTime := none
  endTime := ⟨1767261600, 0, by decide, by decide, by decide⟩
  renewTill := none
  caddr := none
  authorizationData := none

def aliceEncTicketDer : Bytes :=
  [0x63, 0x74, 0x30, 0x72, 0xa0, 0x07, 0x03, 0x05, 0x00, 0x00, 0x00, 0x00, 0x00, 0xa1, 0x1b, 0x30,
   0x19, 0xa0, 0x03, 0x02, 0x01, 0x17, 0xa1, 0x12, 0x04, 0x10, 0x22, 0x22, 0x22, 0x22, 0x22, 0x22,
   0x22, 0x22, 0x22, 0x22, 0x22, 0x22, 0x22, 0x22, 0x22, 0x22, 0xa2, 0x03, 0x1b, 0x01, 0x41, 0xa3,
   0x12, 0x30, 0x10, 0xa0, 0x03, 0x02, 0x01, 0x01, 0xa1, 0x09, 0x30, 0x07, 0x1b, 0x05, 0x61, 0x6c,
   0x69, 0x63, 0x65, 0xa4, 0x0b, 0x30, 0x09, 0xa0, 0x03, 0x02, 0x01, 0x00, 0xa1, 0x02, 0x04, 0x00,
   0xa5, 0x11, 0x18, 0x0f, 0x32, 0x30, 0x32, 0x36, 0x30, 0x31, 0x30, 0x31, 0x30, 0x30, 0x30, 0x30,
   0x30, 0x30, 0x5a, 0xa7, 0x11, 0x18, 0x0f, 0x32, 0x30, 0x32, 0x36, 0x30, 0x31, 0x30, 0x31, 0x31,
   0x30, 0x30, 0x30, 0x30, 0x30, 0x5a]

def aliceTicketCipher : Bytes :=
  [0x2a, 0x72, 0x33, 0x25, 0xeb, 0x19, 0x1f, 0x63, 0x61, 0xf4, 0xb4, 0xa2, 0xac, 0x6a, 0x75, 0x75,
   0x04, 0x8b, 0x03, 0xfe, 0x06, 0x49, 0x53, 0x71, 0xcb, 0x0b, 0x9e, 0xe2, 0xb5, 0x12, 0xf3, 0x23,
   0x6c, 0x21, 0x6f, 0x5c, 0x98, 0xea, 0xf0, 0x3b, 0x24, 0x38, 0x7b, 0x36, 0x75, 0x81, 0x31, 0x3b,
   0xde, 0x1c, 0x31, 0xb5, 0x04, 0x64, 0xb3, 0x47, 0x8e, 0x2e, 0x11, 0xe7, 0xb8, 0x79, 0xf6, 0x5f,
   0x12, 0xd0, 0xac, 0x28, 0x75, 0xf2, 0x7a, 0xcd, 0x49, 0x81, 0x44, 0xd6, 0xbf, 0xf3, 0x75, 0x75,
   0xa4, 0x9c, 0xf7, 0x09, 0x39, 0x16, 0x70, 0x56, 0x78, 0xc6, 0x6b, 0x56, 0x7e, 0xba, 0xbf, 0x8c,
   0x1d, 0x9b, 0xfc, 0xd6, 0x5c, 0x77, 0xec, 0xd4, 0xcd, 0x47, 0xeb, 0x38, 0xc7, 0xbb, 0xb7, 0xeb,
   0xad, 0x0f, 0xaa, 0xcd, 0x58, 0x1b, 0xb0, 0xd2, 0xe0, 0xf5, 0xe6, 0x64, 0xc9, 0x48, 0x40, 0x40,
   0x76, 0xaf, 0x9d, 0x87, 0xc2, 0x01, 0x9a, 0x4b, 0xa3, 0xc8, 0x39, 0xb9, 0x8d, 0x92]

def aliceAuthenticator : Authenticator where
  authenticatorVno := 5
  crealm := asBytes "A"
  cname := ⟨1, [asBytes "alice"]⟩
  cksum := none
  cusec := 0
  ctime := ⟨1767225660, 0, by decide, by decide, by decide⟩
  subkey := none
  seqNumber := none
  authorizationData := none

def aliceAuthenticatorDer : Bytes :=
  [0x62, 0x38, 0x30, 0x36, 0xa0, 0x03, 0x02, 0x01, 0x05, 0xa1, 0x03, 0x1b, 0x01, 0x41, 0xa2, 0x12,
   0x30, 0x10, 0xa0, 0x03, 0x02, 0x01, 0x01, 0xa1, 0x09, 0x30, 0x07, 0x1b, 0x05, 0x61, 0x6c, 0x69,
   0x63, 0x65, 0xa4, 0x03, 0x02, 0x01, 0x00, 0xa5, 0x11, 0x18, 0x0f, 0x32, 0x30, 0x32, 0x36, 0x30,
   0x31, 0x30, 0x31, 0x30, 0x30, 0x30, 0x31, 0x30, 0x30, 0x5a]

def aliceAuthenticatorCipher : Bytes :=
  [0x20, 0x48, 0x11, 0xe2, 0x38, 0x01, 0x9c, 0x44, 0x9f, 0x61, 0x95, 0x38, 0xf6, 0xce, 0xda, 0x4f,
   0xa5, 0xbb, 0x3a, 0x00, 0x7a, 0xc1, 0xd8, 0xd3, 0x81, 0x9b, 0xe9, 0xa3, 0x28, 0x66, 0x48, 0xbd,
   0x6a, 0xe0, 0x1e, 0x6a, 0x24, 0xb9, 0xd8, 0xd3, 0x90, 0x6f, 0x42, 0x21, 0xf3, 0x54, 0xfd, 0x4e,
   0x24, 0x45, 0xd5, 0x2b, 0xeb, 0x4f, 0x4f, 0x06, 0xa6, 0xf8, 0x70, 0x36, 0xba, 0x32, 0x96, 0x6e,
   0xeb, 0xea, 0xc2, 0xa7, 0x59, 0x7f, 0xdc, 0x9e, 0x7f, 0x33, 0x0a, 0xcd, 0xd5, 0x72, 0xea, 0x70,
   0x8f, 0x51]

def aliceApReq (nameType : Int32) (authenticatorCipher : Bytes) : ApReq where
  pvno := 5
  msgType := 14
  apOptions := List.replicate 32 false
  ticket := ⟨5, asBytes "A", ⟨nameType, [asBytes "web"]⟩, ⟨23, some 2, aliceTicketCipher⟩⟩
  authenticator := ⟨23, none, authenticatorCipher⟩

def aliceApReqDer (nameType : UInt8) (authenticatorCipher : Bytes) : Bytes :=
  [0x6e, 0x82, 0x01, 0x3f, 0x30, 0x82, 0x01, 0x3b, 0xa0, 0x03, 0x02, 0x01, 0x05, 0xa1, 0x03, 0x02,
   0x01, 0x0e, 0xa2, 0x07, 0x03, 0x05, 0x00, 0x00, 0x00, 0x00, 0x00, 0xa3, 0x81, 0xc6, 0x61, 0x81,
   0xc3, 0x30, 0x81, 0xc0, 0xa0, 0x03, 0x02, 0x01, 0x05, 0xa1, 0x03, 0x1b, 0x01, 0x41, 0xa2, 0x10,
   0x30, 0x0e, 0xa0, 0x03, 0x02, 0x01] ++
  [nameType] ++
  [0xa1, 0x07, 0x30, 0x05, 0x1b, 0x03, 0x77, 0x65, 0x62, 0xa3, 0x81, 0xa1, 0x30, 0x81, 0x9e, 0xa0,
   0x03, 0x02, 0x01, 0x17, 0xa1, 0x03, 0x02, 0x01, 0x02, 0xa2, 0x81, 0x91, 0x04, 0x81, 0x8e] ++
  aliceTicketCipher ++
  [0xa4, 0x5d, 0x30, 0x5b, 0xa0, 0x03, 0x02, 0x01, 0x17, 0xa2, 0x54, 0x04, 0x52] ++ authenticatorCipher

def ticketSealed : Rc4Sealed where
  key := webKey.value
  usage := kdcRepTicketUsage
  confounder := exchangeConfounder
  message := aliceEncTicketDer
  usageKey := [0x85, 0xe7, 0x09, 0xe2, 0xa9, 0xa6, 0xf0, 0xab, 0xfd, 0x9d, 0x62, 0x55, 0x83, 0x19, 0xe7, 0x26]
  encryptionKey :=
    [0x9d, 0x9a, 0x53, 0xe9, 0x7b, 0xe6, 0x8a, 0x3d, 0x64, 0xaa, 0xd4, 0x82, 0xb4, 0x21, 0xf4, 0x78]
  cipher := aliceTicketCipher

def authenticatorUsageKey : Bytes :=
  [0x3b, 0xd9, 0xdd, 0xd4, 0x16, 0xa8, 0xa0, 0xb3, 0x1a, 0xcc, 0x0c, 0x5c, 0x24, 0xed, 0x89, 0xc2]

def authenticatorSealed : Rc4Sealed where
  key := aliceSessionKey.value
  usage := apReqAuthenticatorUsage
  confounder := exchangeConfounder
  message := aliceAuthenticatorDer
  usageKey := authenticatorUsageKey
  encryptionKey :=
    [0x2c, 0xbf, 0x13, 0xea, 0x69, 0x9b, 0x03, 0xb0, 0xe2, 0x59, 0x39, 0x65, 0x4f, 0x81, 0x12, 0xa7]
  cipher := aliceAuthenticatorCipher

def exchangePrimitives : Primitives := .ofKnownAnswers (.ofRc4Sealed [ticketSealed, authenticatorSealed])

def exchangeRasn : Rasn := .ofTable {
  apReq := [1, 2].map fun nameType ↦ (aliceApReq (Int32.ofNat nameType) aliceAuthenticatorCipher,
    aliceApReqDer (UInt8.ofNat nameType) aliceAuthenticatorCipher)
  authenticator := [(aliceAuthenticator, aliceAuthenticatorDer)]
  encTicketPart := [(aliceEncTicket, aliceEncTicketDer)] }

def noPac : PacOps Unit where
  findPacInAuthorizationData _ := .ok none
  verify _ _ := .ok ()

def webNow : SystemTime := ⟨1767225660 * nanosPerSec, by decide, by decide⟩

def webValidator : ServiceValidator where
  keytab := ⟨2, [⟨⟨"A", 1, ["web"]⟩, 0, 2, webKey, 2⟩]⟩
  maxClockSkew := defaultMaxClockSkew
  now := some webNow
  keytabPrincipal := none
  clientAddress := none
  requireClientAddress := false

def aliceCall (nameType : UInt8) : Call :=
  ⟨webValidator, ⟨webNow, webNow⟩, aliceApReqDer nameType aliceAuthenticatorCipher⟩

def aliceReplayKey (nameType : Int32) : ReplayKey :=
  ⟨⟨"A", nameType, ["web"]⟩, ⟨"A", 1, ["alice"]⟩, 1767225660, 0⟩

theorem aliceCall_yields {nameType : ℕ} (h : nameType = 1 ∨ nameType = 2) :
    ∃ validated, (aliceCall (UInt8.ofNat nameType)).check exchangePrimitives exchangeRasn noPac =
      .ok (aliceReplayKey (Int32.ofNat nameType), webNow, validated) := by
  have hmap : ((aliceCall (UInt8.ofNat nameType)).check exchangePrimitives exchangeRasn noPac).map
      (fun r ↦ (r.1, r.2.1)) = .ok (aliceReplayKey (Int32.ofNat nameType), webNow) := by
    rcases h with rfl | rfl <;> decide +kernel
  cases hc : (aliceCall (UInt8.ofNat nameType)).check exchangePrimitives exchangeRasn noPac with
  | error e => simp [hc, Except.map] at hmap
  | ok r =>
    simp only [hc, Except.map, Except.ok.injEq, Prod.mk.injEq] at hmap
    exact ⟨r.2.2, by rw [← hmap.1, ← hmap.2]⟩

theorem sameSealed_aliceCall : SameSealed exchangeRasn (aliceCall 2) (aliceCall 1) :=
  ⟨aliceApReq 2 aliceAuthenticatorCipher, aliceApReq 1 aliceAuthenticatorCipher, by decide +kernel,
    by decide +kernel, rfl, rfl⟩

theorem reachable_of_fresh {Pac : Type} {P : Primitives} {R : Rasn} {pac : PacOps Pac} {s : System}
    {c : Call} {key : ReplayKey} {now : SystemTime} {validated : ValidatedApReq Pac}
    (hs : Reachable P R pac s) (hc : c.check P R pac = .ok (key, now, validated))
    (hp : s.shared.poisoned = false) (hn : s.shared.cache.entries[key]? = none) :
    Reachable P R pac { s with
      shared := ⟨⟨s.shared.cache.entries.insert key now⟩, false⟩
      begun := c :: s.begun, accepted := (c, key) :: s.accepted } := by
  have hrec : recordReplay ⟨.new, some s.shared⟩ key now =
      (.ok (), ⟨.new, some ⟨⟨s.shared.cache.entries.insert key now⟩, false⟩⟩) := by
    rw [recordReplay_shared, hp, if_neg (by simp), hn]
    rfl
  refine .tail (.tail hs (.begin hc)) ?_
  exact .accept (s := { s with begun := c :: s.begun, pending := (c, key, now) :: s.pending }) []
    s.pending rfl hrec

/-- A resent request with an edited name type is accepted as well. -/
theorem not_accepted_pairwise : ∃ s, Reachable exchangePrimitives exchangeRasn noPac s ∧
    s.accepted.map Prod.fst = [aliceCall 2, aliceCall 1] ∧
    ¬ s.accepted.Pairwise fun a₁ a₂ ↦ ¬ SameSealed exchangeRasn a₁.1 a₂.1 := by
  obtain ⟨_, h₁⟩ := aliceCall_yields (.inl rfl)
  obtain ⟨_, h₂⟩ := aliceCall_yields (.inr rfl)
  have hs₁ := reachable_of_fresh .refl h₁ rfl Std.ExtHashMap.getElem?_empty
  have hne : (aliceReplayKey (Int32.ofNat 1) == aliceReplayKey (Int32.ofNat 2)) = false := by decide
  have hfresh : ((∅ : Std.ExtHashMap ReplayKey SystemTime).insert (aliceReplayKey (Int32.ofNat 1))
      webNow)[aliceReplayKey (Int32.ofNat 2)]? = none := by
    rw [Std.ExtHashMap.getElem?_insert, hne]
    exact Std.ExtHashMap.getElem?_empty
  have hs₂ := reachable_of_fresh hs₁ h₂ rfl hfresh
  refine ⟨_, hs₂, rfl, fun hp ↦ ?_⟩
  exact (List.pairwise_cons.mp hp).1 _ List.mem_cons_self sameSealed_aliceCall

theorem accepted_pairwise_of_resent : ∃ s, Reachable exchangePrimitives exchangeRasn noPac s ∧
    s.begun = [aliceCall 1, aliceCall 1] ∧ s.pending ≠ [] ∧ s.accepted ≠ [] ∧
    s.accepted.Pairwise fun a₁ a₂ ↦ ¬ SameSealed exchangeRasn a₁.1 a₂.1 := by
  obtain ⟨_, h₁⟩ := aliceCall_yields (.inl rfl)
  have hs₁ := reachable_of_fresh .refl h₁ rfl Std.ExtHashMap.getElem?_empty
  have hs₂ := hs₁.tail (.begin h₁)
  refine ⟨_, hs₂, rfl, List.cons_ne_nil _ _, List.cons_ne_nil _ _, ?_⟩
  refine accepted_pairwise_of_sameClear exchangePrimitives exchangeRasn noPac hs₂ fun c₁ h₁ c₂ h₂ _ ↦ ?_
  have hc : c₁ = c₂ := by
    simp only [System.initial, List.mem_cons, List.not_mem_nil, or_false, or_self] at h₁ h₂
    rw [h₁, h₂]
  subst hc
  intro r₁ r₂ hr₁ hr₂
  obtain rfl := Except.ok.inj (hr₁.symm.trans hr₂)
  exact ⟨rfl, rfl, fun _ _ ↦ rfl⟩

end Exchange

end Rskrb5.Service
