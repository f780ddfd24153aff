import Rskrb5.Client.Holdings
import Rskrb5.Lib.Once

namespace Rskrb5.Client.TokioClient

open Lib.Results Lib.Programs Crypto

/-- What a client makes its requests under: who it is, the kind of all its sessions, the service that it asks
for, and the TGTs that it may take from referrals. -/
structure Scope where
  client : Principal
  kind : AsRepSession → Prop
  kind_issued : ∀ session, IssuedTo client session → kind session
  kind_inherited : ∀ tgt session, kind tgt → principalMatches session.client tgt.client = true → kind session
  target : Principal
  taken : AsRepSession → Prop

structure Scope.Covers (S : Scope) (c : TokioClient) : Prop extends HoldsOnly S.kind c, Held S.client c

/-- A client after a login that kept `primary`. -/
def loggedIn (c : TokioClient) (primary : AsRepSession) : TokioClient :=
  (withPrimary { c with tgtSessions := ∅ } primary).clearServiceTicketCache

variable {ω : Type} (W : World ω) (P : Primitives) (R : Rasn) (S : Scope)

section Acts

/-- A ticket for a service: the renewed one of those that are cached, or one that a KDC gave for it. -/
inductive Obtained (target : Principal) (s : TokioClient × ω) (ticket : TgsRepSession) : Prop
  | renewed (stored answer : TgsRepSession) (held : s.1.serviceTickets[serviceCacheKey target]? = some stored)
    (service : principalMatches answer.service stored.service = true) (given : GivenBy W P R s.2 answer)
    (ticket_eq : ticket = { answer with service := target })
  | given (service : principalMatches ticket.service target = true) (given : GivenBy W P R s.2 ticket)

/-- All that the requests of a client do, one thing at a time, and what each has to go by. -/
inductive Act (s : TokioClient × ω) : TokioClient × ω → Prop
  | wait {w : ω} (later : W.Later s.2 w) : Act s (s.1, w)
  | cacheServiceTicketAt (ticket : TgsRepSession) (now : SystemTime) (kind : S.kind ticket)
    (obtained : Obtained W P R S.target s ticket) : Act s (s.1.cacheServiceTicketAt ticket now, s.2)
  | cacheTgtSessionAt (tgt : AsRepSession) (now : SystemTime) (kind : S.kind tgt) (taken : S.taken tgt) :
    Act s ((s.1.cacheTgtSessionAt tgt now).2, s.2)
  | storeRenewed (renewed : AsRepSession) (realm : String) (kind : S.kind renewed)
    (issued : IssuedBy W P R realm s.2 renewed) : Act s (s.1.storeRenewed renewed realm, s.2)
  | clearServiceTicketCache (issued : ∃ tgt, IssuedBy W P R s.1.client.realm s.2 tgt) :
    Act s (s.1.clearServiceTicketCache, s.2)
  | loggedIn (session : AsRepSession) (now : SystemTime) (kind : S.kind session)
    (issued : IssuedBy W P R s.1.client.realm s.2 session) :
    Act s (s.1.loggedIn (preferredSessionAt s.1.tgt session now), s.2)

abbrev Acts : TokioClient × ω → TokioClient × ω → Prop := Relation.ReflTransGen (Act W P R S)

variable {W P R S} {s s' : TokioClient × ω}

theorem client_cacheTgtSessionAt (c : TokioClient) (tgt : AsRepSession) (now : SystemTime) :
    (c.cacheTgtSessionAt tgt now).2.client = c.client := by
  simp only [cacheTgtSessionAt]
  split
  · rfl
  · split <;> rfl

theorem client_storeRenewed (c : TokioClient) (renewed : AsRepSession) (realm : String) :
    (c.storeRenewed renewed realm).client = c.client := by
  simp only [storeRenewed]
  split <;> rfl

theorem coherent_loggedIn {c : TokioClient} {primary : AsRepSession} (h : tgtRealm primary = some c.client.realm) :
    (c.loggedIn primary).Coherent := by
  have hcleared : Keyed { c with tgtSessions := ∅ } := fun _ _ h ↦ by simp at h
  have hprimary := coherent_withPrimary hcleared h
  exact ⟨hprimary.primary, hprimary.keyed⟩

theorem HoldsOnly.loggedIn {kind : AsRepSession → Prop} {c : TokioClient} {primary : AsRepSession}
    (h : kind primary) :
    HoldsOnly kind (c.loggedIn primary) where
  tgt tgt ht := Option.some.inj ht ▸ h
  tgtSessions realm session hs := by
    simp only [TokioClient.loggedIn, withPrimary, TokioClient.clearServiceTicketCache, getElem?_insert,
      getElem?_erase, Std.ExtTreeMap.getElem?_empty, ite_self] at hs
    split at hs
    · exact Option.some.inj hs ▸ h
    · cases hs
  serviceTickets key ticket ht := by simp [TokioClient.loggedIn, TokioClient.clearServiceTicketCache] at ht

theorem Act.later (h : Act W P R S s s') : W.Later s.2 s'.2 := by
  cases h with
  | wait hlater => exact hlater
  | _ => exact .refl

theorem Act.client_eq (h : Act W P R S s s') : s'.1.client = s.1.client := by
  cases h with
  | cacheTgtSessionAt tgt now => exact client_cacheTgtSessionAt s.1 tgt now
  | storeRenewed renewed realm => exact client_storeRenewed s.1 renewed realm
  | _ => rfl

/-- A client that is within its scope acts within its scope. -/
theorem Act.covers (h : Act W P R S s s') (hs : S.Covers s.1) : S.Covers s'.1 := by
  have hclient := h.client_eq.trans hs.client_eq
  obtain ⟨hholds, hcoherent, -⟩ := hs
  cases h with
  | wait => exact ⟨hholds, hcoherent, hclient⟩
  | cacheServiceTicketAt ticket now hkind =>
    exact ⟨hholds.cacheServiceTicketAt hkind now, ⟨hcoherent.primary, hcoherent.keyed⟩, hclient⟩
  | cacheTgtSessionAt tgt now hkind =>
    exact ⟨hholds.cacheTgtSessionAt hkind now, (coherent_cacheTgtSessionAt hcoherent tgt now).1, hclient⟩
  | storeRenewed renewed realm hkind hissued =>
    exact ⟨hholds.storeRenewed hkind realm, coherent_storeRenewed hcoherent hissued.tgtRealm_eq, hclient⟩
  | clearServiceTicketCache =>
    exact ⟨hholds.clearServiceTicketCache, ⟨hcoherent.primary, hcoherent.keyed⟩, hclient⟩
  | loggedIn session now hkind hissued =>
    have hrealm := tgtRealm_preferredSessionAt hcoherent.tgtRealm_tgt hissued.tgtRealm_eq now
    exact ⟨.loggedIn (kind_preferredSessionAt hholds.tgt hkind now), coherent_loggedIn hrealm, hclient⟩

theorem Acts.later (h : Acts W P R S s s') : W.Later s.2 s'.2 := by
  induction h with
  | refl => exact .refl
  | tail _ hact ih => exact ih.trans hact.later

theorem Acts.covers (h : Acts W P R S s s') (hs : S.Covers s.1) : S.Covers s'.1 :=
  Lib.Once.invariant_of_step (fun s : TokioClient × ω ↦ S.Covers s.1) (fun _ _ hs hact ↦ hact.covers hs) hs h

end Acts

/-- A program that a client runs within its scope: it only acts and does not panic. -/
def Runs {α : Type} (pre : TokioClient × ω → Prop) (x : ClientProgram ω α)
    (post : α → TokioClient × ω → Prop) : Prop :=
  Goes (Acts W P R S) (fun s ↦ S.Covers s.1 ∧ pre s) x post fun e ↦ ∃ source, e = .error source

/-- What a client knows of its world for good. -/
def Stable (pre : TokioClient × ω → Prop) : Prop := ∀ c w w', W.Later w w' → pre (c, w) → pre (c, w')

namespace Runs

variable {W P R S} {α β : Type} {pre : TokioClient × ω → Prop} {x : ClientProgram ω α}
  {post : α → TokioClient × ω → Prop}

theorem weaken {pre' : TokioClient × ω → Prop} {post' : α → TokioClient × ω → Prop} (h : Runs W P R S pre x post)
    (hpre : ∀ s, S.Covers s.1 → pre' s → pre s) (hpost : ∀ a s, S.Covers s.1 → post a s → post' a s) :
    Runs W P R S pre' x post' := by
  have hcovers := Goes.frame (fun s : TokioClient × ω ↦ S.Covers s.1) (fun _ _ hs hacts ↦ hacts.covers hs) h
  exact hcovers.weaken (fun s hs ↦ ⟨⟨hs.1, hpre s hs.1 hs.2⟩, hs.1⟩) fun a s hs ↦ hpost a s hs.2 hs.1

/-- What is known of the world is still known in the end. -/
theorem frame {known : ω → Prop} (hknown : ∀ w w', W.Later w w' → known w → known w')
    (h : Runs W P R S pre x post) :
    Runs W P R S (fun s ↦ pre s ∧ known s.2) x fun a s ↦ post a s ∧ known s.2 :=
  (Goes.frame (fun s : TokioClient × ω ↦ known s.2) (fun _ _ hs hacts ↦ hknown _ _ hacts.later hs) h).weaken
    (fun _ hs ↦ ⟨⟨hs.1, hs.2.1⟩, hs.2.2⟩) fun _ _ h ↦ h

theorem bind {mid : α → TokioClient × ω → Prop} {post : β → TokioClient × ω → Prop} {f : α → ClientProgram ω β}
    (hx : Runs W P R S pre x mid) (hf : ∀ a, Runs W P R S (mid a) (f a) post) : Runs W P R S pre (x >>= f) post :=
  have hmid : Runs W P R S pre x fun a s ↦ S.Covers s.1 ∧ mid a s :=
    hx.weaken (fun _ _ h ↦ h) fun _ _ hs h ↦ ⟨hs, h⟩
  Goes.bind hmid hf

theorem pure {a : α} (h : ∀ s, S.Covers s.1 → pre s → post a s) :
    Runs W P R S pre (pure a : ClientProgram ω α) post :=
  Goes.pure fun s hs ↦ h s hs.1 hs.2

theorem fail (e : Error) : Runs W P R S pre (TokioClient.fail e : ClientProgram ω α) post := Goes.throw ⟨e, rfl⟩

theorem raise (y : Except Error α) : Runs W P R S pre (TokioClient.raise y) fun a s ↦ pre s ∧ y = .ok a := by
  refine Goes.lift (fun a ha s hs ↦ ⟨hs.2, mapError_eq_ok.mp ha⟩) fun e he ↦ ?_
  cases y with
  | ok a => simp [Except.mapError] at he
  | error source => exact ⟨source, (Except.error.inj he).symm⟩

/-- The client that is read, with the world as it is. -/
theorem look {f : TokioClient → ClientProgram ω α}
    (h : ∀ s₀, S.Covers s₀.1 → pre s₀ → Runs W P R S (fun s ↦ s = s₀) (f s₀.1) post) :
    Runs W P R S pre (.read >>= f) post :=
  Goes.read fun s₀ hs₀ ↦ Goes.weaken (h s₀ hs₀.1 hs₀.2) (fun _ hs ↦ ⟨hs ▸ hs₀.1, hs⟩) fun _ _ h ↦ h

theorem read {f : TokioClient → ClientProgram ω α}
    (h : ∀ s₀, S.Covers s₀.1 → pre s₀ → Runs W P R S (fun s ↦ s.1 = s₀.1) (f s₀.1) post) :
    Runs W P R S pre (.read >>= f) post :=
  look fun s₀ hs₀ hpre ↦ (h s₀ hs₀ hpre).weaken (fun _ _ hs ↦ hs ▸ rfl) fun _ _ _ h ↦ h

/-- What the state says besides may be used as it is. -/
theorem assuming {φ : Prop} (h : ∀ s, pre s → φ) (hx : φ → Runs W P R S pre x post) : Runs W P R S pre x post :=
  fun s hs ↦ hx (h s hs.2) s hs

theorem outside {y : Program ω Error α} {result : α → ω → Prop} (hpre : Stable W pre) (h : Asks W y result) :
    Runs W P R S pre (TokioClient.outside y) fun a s ↦ pre s ∧ result a s.2 :=
  Goes.weaken (Goes.onSnd (fun _ _ _ hlater ↦ .single (.wait hlater)) (fun c w w' hs hlater ↦ hpre c w w' hlater hs)
    (fun e _ ↦ ⟨e, rfl⟩) h) (fun _ hs ↦ hs.2) fun _ _ h ↦ h

theorem attempt (h : Runs W P R S pre x post) :
    Runs W P R S pre (.attempt x) fun r s ↦ ∀ a, r = .ok a → post a s :=
  Goes.attempt h

theorem ask {y : Program ω Error α} {result : α → ω → Prop} (hpre : Stable W pre) (h : Asks W y result) :
    Runs W P R S pre (TokioClient.outside y) fun _ ↦ pre :=
  (outside hpre h).weaken (fun _ _ h ↦ h) fun _ _ _ h ↦ h.1

theorem clock (s₀ : TokioClient × ω) : Runs W P R S (fun s ↦ s = s₀) (TokioClient.outside (now W)) fun time s ↦
    s.1 = s₀.1 ∧ time = (W.now s₀.2).1 := by
  intro s hs
  obtain rfl := hs.2
  exact ⟨.single (.wait (.single .now)), rfl, rfl⟩

theorem update {f : TokioClient → TokioClient} {post : Unit → TokioClient × ω → Prop}
    (h : ∀ s, S.Covers s.1 → pre s → Acts W P R S s (f s.1, s.2) ∧ post () (f s.1, s.2)) :
    Runs W P R S pre (.update f : ClientProgram ω Unit) post :=
  Goes.update fun s hs ↦ h s hs.1 hs.2

end Runs

end Rskrb5.Client.TokioClient
