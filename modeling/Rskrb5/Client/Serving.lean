import Rskrb5.Client.Ownership
import Rskrb5.Client.PrimaryTgt
import Rskrb5.Kdc.Requests

namespace Rskrb5.Client.TokioClient

open Lib.Results Lib.Programs Crypto

section Runs

variable {ω : Type} (W : World ω) (P : Primitives) (R : Rasn) (C : DelegationCoders)

/-- What a service does over its life: a client's operations, and the delegations of its users. -/
inductive ServiceOperation
  | own (op : Operation)
  | removeCachedServiceTicket (service : Principal)
  | delegate (delegation : Delegation)

namespace ServiceOperation

def run : ServiceOperation → ClientProgram ω Unit
  | own op => op.run W P R
  | removeCachedServiceTicket service => .update fun c ↦ (c.removeCachedServiceTicket service).2
  | delegate delegation => ignore (delegation.run W P R C)

/-- The sessions that the caller brings along are the client's own. -/
def BringsOwn (p : Principal) : ServiceOperation → Prop
  | own (.cacheTgtSession tgt) => IssuedTo p tgt
  | own (.cacheServiceTicket ticket) => IssuedTo p ticket
  | _ => True

end ServiceOperation

def ServiceStep (c c' : TokioClient) : Prop :=
  ∃ (op : ServiceOperation) (w : ω), op.BringsOwn c.client ∧ c' = ((op.run W P R C).exec (c, w)).2.1

def Serving (c : TokioClient) : Prop :=
  ∃ c₀, Constructed W c₀ ∧ Relation.ReflTransGen (ServiceStep W P R C) c₀ c

namespace ServiceOperation

/-- The service that an operation asks a ticket for, if any. -/
def target (c : TokioClient) : ServiceOperation → Principal
  | own op => op.target c
  | _ => c.client

end ServiceOperation

variable {W P R C} {p target : Principal} {c c' : TokioClient}

/-- What an operation does stays within the client's own scope, if the sessions that it is given are the client's. -/
theorem ServiceOperation.happens {op : ServiceOperation} (hs : (Scope.own p (op.target c)).Covers c)
    (hop : op.BringsOwn p) (w : ω) : Relation.ReflTransGen (Happens W P R (.own p (op.target c))) c
      ((op.run W P R C).exec (c, w)).2.1 := by
  cases op with
  | own op =>
    have hbrings : op.Brings (IssuedTo p) := by cases op <;> exact hop
    exact (op.events hs hbrings (fun _ ↦ trivial) rfl w).1.happens
  | removeCachedServiceTicket service =>
    exact .single ⟨w, w, .direct (s := (c, w)) (.removeCachedServiceTicket service)⟩
  | delegate delegation =>
    exact ((delegation.runs (W := W) (C := C)).ignore.events hs trivial (s := (c, w))).1.happens

theorem Constructed.covers (P : Primitives) (R : Rasn) (h : Constructed W c) :
    (Scope.own c.client target).Covers c := by
  obtain ⟨config, client, credentials, hhappens⟩ := h.happens (P := P) (R := R)
  have hcovers := ((Scope.own client target).covers_new config credentials).happens
    (hhappens (.own client target) rfl fun _ ↦ trivial)
  have hclient : c.client = client := hcovers.client_eq
  exact hclient ▸ hcovers

theorem Scope.Covers.run (h : (Scope.own p target).Covers c)
    (hrun : Relation.ReflTransGen (ServiceStep W P R C) c c') :
    (Scope.own p target).Covers c' := by
  refine Lib.Once.invariant_of_step (Scope.own p target).Covers (fun c c' hc hstep ↦ ?_) h hrun
  obtain ⟨op, w, hop, rfl⟩ := hstep
  have hcovers : (Scope.own p (op.target c)).Covers c := hc.holdsOwn.covers hc.coherent
  have hclient : c.client = p := hc.client_eq
  have hsteps := ServiceOperation.happens (W := W) (P := P) (R := R) (C := C) hcovers (hclient ▸ hop) w
  have hafter := hcovers.happens hsteps
  exact hafter.holdsOwn.covers hafter.coherent

theorem Serving.covers (h : Serving W P R C c) : (Scope.own c.client target).Covers c := by
  obtain ⟨c₀, hc₀, hrun⟩ := h
  have hcovers : (Scope.own c₀.client target).Covers c := (hc₀.covers P R).run hrun
  have hclient : c.client = c₀.client := hcovers.client_eq
  exact hclient ▸ hcovers

/-- Whatever the KDCs answer, a service holds sessions of its own only. A delegation that returns, returns a
ticket of the user for the service that was asked for; what is no evidence is not sent to a KDC; and what
the service got for itself in a user's name, it can decode and use as evidence of that user ever after. -/
theorem delegates_for_users (W : World ω) (P : Primitives) (R : Rasn) (C : DelegationCoders) (c : TokioClient)
    (h : Serving W P R C c) :
    HoldsOwn c.client c ∧
    (∀ (delegation : Delegation) (w : ω) (ticket : TgsRepSession),
      ((delegation.run W P R C).exec (c, w)).1 = .ok ticket →
        delegation.Admitted c.client ∧ IssuedTo delegation.user ticket ∧
          principalMatches ticket.service (delegation.service c.client) = true) ∧
    (∀ (delegation : Delegation) (w : ω) (log : List Exchange), ¬ delegation.Admitted c.client →
      ((delegation.run W.logged P R C).exec (c, w, log)).2.2.2 =
        ((delegation.prepare W.logged P R).exec (c, w, log)).2.2.2) ∧
    ∀ (user : Principal) (options : Option TgsReqOptions) (w : ω) (ticket : TgsRepSession) (s : TokioClient × ω),
      ((Delegation.s4u2self user options).run W P R C).exec (c, w) = (.ok ticket, s) →
      (R.Lawful → ∃ sealed, decodeTicket R ticket.ticket = .ok sealed) ∧
      ∀ c', Relation.ReflTransGen (ServiceStep W P R C) s.1 c' →
      ∀ (targetService : Principal) (options' : Option TgsReqOptions),
        (∀ (w' : ω) (serviceTgt : AsRepSession), ((ensureTgt W P R).exec (c', w')).1 = .ok serviceTgt →
          principalMatches ticket.service serviceTgt.client = true) ∧
        ∀ (w' : ω) (delegated : TgsRepSession),
          (((Delegation.s4u2proxy ticket targetService options').run W P R C).exec (c', w')).1 = .ok delegated →
          IssuedTo user delegated ∧ principalMatches delegated.service targetService = true := by
  have hcovers : (Scope.own c.client c.client).Covers c := h.covers
  refine ⟨hcovers.holdsOwn, fun delegation w ticket hticket ↦ ?_, fun delegation w log hrefused ↦ ?_, ?_⟩
  · exact Goes.ok delegation.runs ⟨hcovers, trivial⟩ hticket
  · exact log_of_not_admitted W P R C hrefused hcovers
  · intro user options w ticket s hself
    have hrun : Runs W P R (.own c.client c.client) (fun _ ↦ True) _ _ :=
      Delegation.runs_s4u2self (C := C) user options
    have hreturns := Goes.ok hrun ⟨hcovers, trivial⟩ (congrArg Prod.fst hself)
    have hafter := (hrun (c, w) ⟨hcovers, trivial⟩).1.covers hcovers
    rw [hself] at hafter
    refine ⟨hreturns.2.2, fun c' hsteps targetService options' ↦ ?_⟩
    have hcovers' := hafter.run hsteps
    refine ⟨fun w' serviceTgt htgt ↦ ?_, fun w' delegated hdelegated ↦ ?_⟩
    · have hensure : Runs W P R (.own c.client c.client) (fun _ ↦ True) (ensureTgt W P R) _ := runs_ensureTgt_own
      have hissued := Goes.ok hensure ⟨hcovers', trivial⟩ htgt
      exact principalMatches_trans hreturns.2.1 (principalMatches_symm hissued)
    · have hproxy := Goes.ok (Delegation.s4u2proxy ticket targetService options').runs ⟨hcovers', trivial⟩ hdelegated
      exact ⟨principalMatches_trans hproxy.2.1 hreturns.1, hproxy.2.2⟩

end Runs

section Delegating

open Kdc

def carolWorld : World Unit where
  now w := (minute, w)
  fill len w := (.ok (Vector.replicate len 0x42), w)
  sendToRealm _ request w := (.ok (derTgsRep (if request = selfBuilt.der then evidenceGrant.reply
    else delegatedGrant.reply)), w)
  sendToKpasswdRealm _ _ w := (.error "unreachable", w)

theorem exec_ensureTgt_of_fresh {ω : Type} {W : World ω} {P : Primitives} {R : Rasn} {c : TokioClient} {w : ω}
    {tgt : AsRepSession} (htgt : c.tgt = some tgt) (hvalid : sessionValidAt tgt (W.now w).1 = true)
    (hdue : sessionRefreshDueAt tgt (W.now w).1 = false) :
    (ensureTgt W P R).exec (c, w) = (.ok tgt, c, (W.now w).2) := by
  have hnow : (outside (now W)).exec (c, w) = (.ok (W.now w).1, c, (W.now w).2) := rfl
  rw [ensureTgt, Program.exec_read_bind]
  simp only [htgt]
  rw [Program.exec_bind_ok hnow, if_pos ⟨hvalid, by rw [hdue]; exact Bool.false_ne_true⟩]
  rfl

theorem exec_outside_ok {ω α : Type} {x : Program ω Error α} {w w' : ω} {a : α} (h : x.exec w = (.ok a, w'))
    (c : TokioClient) : (outside x).exec (c, w) = (.ok a, c, w') := by
  rw [outside, Program.onSnd, Program.exec_ofExec, h]
  rfl

/-- Alice asks her KDC for a ticket in Carol's name, and then with it for one for the host. -/
theorem carol_exchanges :
    (s4u2selfWithConfig carolPrimitives carolRasn carolCoders carolWorld (ownTgt hourLater) carol
      requestOptions).exec () = (.ok (evidenceGrant.session aliceService), ()) ∧
    (s4u2proxyWithConfig carolPrimitives carolRasn carolWorld (ownTgt hourLater)
      (evidenceGrant.session aliceService) hostService requestOptions).exec () =
        (.ok (delegatedGrant.session hostService), ()) := by
  decide +kernel

theorem exec_delegation {delegation : Delegation} {ticket : TgsRepSession}
    {exchange : AsRepSession → TgsReqOptions → Program Unit Error TgsRepSession}
    (hrun : delegation.run carolWorld carolPrimitives carolRasn carolCoders = (do
      let options ← tgsReqOptions carolWorld
      let serviceTgt ← ensureTgt carolWorld carolPrimitives carolRasn
      outside (exchange serviceTgt options)))
    (hexchange : (exchange (ownTgt hourLater) requestOptions).exec () = (.ok ticket, ())) :
    (delegation.run carolWorld carolPrimitives carolRasn carolCoders).exec (home hourLater, ()) =
      (.ok ticket, home hourLater, ()) := by
  have hoptions : (tgsReqOptions carolWorld).exec (home hourLater, ()) =
      (.ok requestOptions, home hourLater, ()) := rfl
  have htgt : (ensureTgt carolWorld carolPrimitives carolRasn).exec (home hourLater, ()) =
      (.ok (ownTgt hourLater), home hourLater, ()) :=
    exec_ensureTgt_of_fresh rfl (by decide) (by decide)
  rw [hrun, Program.exec_bind_ok hoptions, Program.exec_bind_ok htgt, exec_outside_ok hexchange]

theorem delegates_for_users_carol :
    Serving carolWorld carolPrimitives carolRasn carolCoders (home hourLater) ∧
    ∃ evidence delegated s, ((Delegation.s4u2self carol none).run carolWorld carolPrimitives carolRasn
        carolCoders).exec (home hourLater, ()) = (.ok evidence, s) ∧
      IssuedTo carol evidence ∧ principalMatches evidence.service (home hourLater).client = true ∧
      (∃ sealed, decodeTicket carolRasn evidence.ticket = .ok sealed) ∧
      (((Delegation.s4u2proxy evidence hostService none).run carolWorld carolPrimitives carolRasn
        carolCoders).exec s).1 = .ok delegated ∧
      IssuedTo carol delegated ∧ principalMatches delegated.service hostService = true := by
  obtain ⟨hself, hproxy⟩ := carol_exchanges
  have hself := exec_delegation (rfl : (Delegation.s4u2self carol none).run _ _ _ _ = _) hself
  have hproxy := exec_delegation
    (rfl : (Delegation.s4u2proxy (evidenceGrant.session aliceService) hostService none).run _ _ _ _ = _) hproxy
  have htgt : tgtRealm (ownTgt hourLater) = some (ownTgt hourLater).client.realm := by decide +kernel
  have hhome : (fromTgtSession carolWorld bareConfig (ownTgt hourLater) ()).1 = home hourLater :=
    fromTgtSession_own carolWorld bareConfig htgt ()
  have hstep : ServiceStep carolWorld carolPrimitives carolRasn carolCoders (home hourLater)
      (home hourLater) := by
    refine ⟨.delegate (.s4u2self carol none), (), trivial, ?_⟩
    rw [ServiceOperation.run, ignore, Program.exec_bind_ok hself]
    rfl
  have hserving : Serving carolWorld carolPrimitives carolRasn carolCoders (home hourLater) :=
    ⟨home hourLater, hhome ▸ .fromTgtSession bareConfig (ownTgt hourLater) (), .single hstep⟩
  obtain ⟨-, hreturns, -, hevidence⟩ := delegates_for_users _ _ _ _ _ hserving
  obtain ⟨-, huser, hservice⟩ := hreturns _ () _ (congrArg Prod.fst hself)
  obtain ⟨hdecodes, hdelegates⟩ := hevidence _ _ () _ _ hself
  obtain ⟨-, hdelegated⟩ := hdelegates _ .refl hostService none
  exact ⟨hserving, _, _, _, hself, huser, hservice, hdecodes carolRasn_lawful, congrArg Prod.fst hproxy,
    hdelegated () _ (congrArg Prod.fst hproxy)⟩

end Delegating

end Rskrb5.Client.TokioClient
