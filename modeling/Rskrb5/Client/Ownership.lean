import Rskrb5.Client.Delegation
import Rskrb5.Client.Sessions

namespace Rskrb5.Client

open Lib.Results Lib.Programs Crypto

section Exchanges

variable {ω : Type} (W : World ω) (P : Primitives) (R : Rasn) (C : DelegationCoders)

theorem decodeTicket_of_processTgsRep (hR : R.Lawful) {request : BuiltTgsReq} {bytes : Bytes} {key : EncryptionKey}
    {session : TgsRepSession} (h : processTgsRep P R request bytes key = .ok session) :
    ∃ ticket, decodeTicket R session.ticket = .ok ticket := by
  obtain ⟨tgsRep, encPart, hdecode, -, hsession⟩ := sessionOf_of_processTgsRepInner P R h
  have hticket := hR.ticket.decode_encode trivial (mapError_eq_ok.mp hsession.ticket_eq)
  simp only [decodeTgsRep, validateKdcRep, bind_eq_ok] at hdecode
  obtain ⟨_, -, _, ⟨_, -, _, -, hvalid⟩, hrep⟩ := hdecode
  rw [show _ = tgsRep from Except.ok.inj hrep] at hvalid
  refine ⟨tgsRep.ticket, ?_⟩
  rw [decodeTicket, EncParts.decode, hticket, Except.mapError, ok_bind, hvalid]
  rfl

theorem buildS4u2selfReqWithConfounder_eq_ok {serviceTgt : AsRepSession} {user : Principal}
    {options : TgsReqOptions} {timestamp : SystemTime} {cusec : UInt32} {confounder : Bytes} {request : BuiltTgsReq}
    (h : buildS4u2selfReqWithConfounder P R C serviceTgt user options timestamp cusec confounder = .ok request) :
    request.client = user ∧ request.service = serviceTgt.client := by
  simp only [buildS4u2selfReqWithConfounder, bind_eq_ok, pure_eq_ok, Except.ok.injEq] at h
  obtain ⟨forUser, -, built, hbuilt, rfl⟩ := h
  exact ⟨rfl, (buildTgsReqForRealm_eq_ok P R hbuilt).2.1⟩

theorem buildS4u2proxyReqWithConfounder_eq_ok {serviceTgt : AsRepSession} {evidenceTicket : TgsRepSession}
    {targetService : Principal} {options : TgsReqOptions} {timestamp : SystemTime} {cusec : UInt32}
    {confounder : Bytes} {request : BuiltTgsReq}
    (h : buildS4u2proxyReqWithConfounder P R serviceTgt evidenceTicket targetService options timestamp cusec
      confounder = .ok request) :
    principalMatches evidenceTicket.service serviceTgt.client = true ∧ request.client = evidenceTicket.client ∧
      request.service = targetService := by
  simp only [buildS4u2proxyReqWithConfounder, bind_eq_ok, ensure_eq_ok, pure_eq_ok, Except.ok.injEq] at h
  obtain ⟨_, hmatches, ticket, -, built, hbuilt, rfl⟩ := h
  exact ⟨hmatches, rfl, (buildTgsReqForRealm_eq_ok P R hbuilt).2.1⟩

/-- A ticket that a service gets for itself is the user's, and can be sent as evidence. -/
theorem asks_s4u2selfWithConfig (serviceTgt : AsRepSession) (user : Principal) (options : TgsReqOptions) :
    Asks W (s4u2selfWithConfig P R C W serviceTgt user options) fun ticket _ ↦
      IssuedTo user ticket ∧ principalMatches ticket.service serviceTgt.client = true ∧
        (R.Lawful → ∃ sealed, decodeTicket R ticket.ticket = .ok sealed) := by
  have hbuild : Asks W (buildS4u2selfReq P R C W serviceTgt user options) fun request _ ↦
      request.client = user ∧ request.service = serviceTgt.client :=
    asks_currentPreauthTime.seq fun _ ↦ (asks_confounderFor _).seq fun _ ↦
      .lift fun _ h _ ↦ buildS4u2selfReqWithConfounder_eq_ok P R C h
  refine hbuild.bind fun request hrequest ↦ ?_
  refine (asks_exchangeTgsReqWithConfig request serviceTgt.sessionKey).weaken (fun _ h ↦ h) fun ticket w h ↦ ?_
  obtain ⟨response, -, hticket⟩ := h
  obtain ⟨hclient, hservice⟩ := processTgsRep_eq_ok P R hticket
  exact ⟨hrequest.1 ▸ hclient, hrequest.2 ▸ hservice, fun hR ↦ decodeTicket_of_processTgsRep P R hR hticket⟩

theorem asks_s4u2proxyWithConfig (serviceTgt : AsRepSession) (evidenceTicket : TgsRepSession)
    (targetService : Principal) (options : TgsReqOptions) :
    Asks W (s4u2proxyWithConfig P R W serviceTgt evidenceTicket targetService options) fun ticket _ ↦
      principalMatches evidenceTicket.service serviceTgt.client = true ∧
        IssuedTo evidenceTicket.client ticket ∧ principalMatches ticket.service targetService = true := by
  have hbuild : Asks W (buildS4u2proxyReq P R W serviceTgt evidenceTicket targetService options) fun request _ ↦
      principalMatches evidenceTicket.service serviceTgt.client = true ∧
        request.client = evidenceTicket.client ∧ request.service = targetService :=
    asks_currentPreauthTime.seq fun _ ↦ (asks_confounderFor _).seq fun _ ↦
      .lift fun _ h _ ↦ buildS4u2proxyReqWithConfounder_eq_ok P R h
  refine hbuild.bind fun request hrequest ↦ ?_
  refine (asks_exchangeTgsReqWithConfig request serviceTgt.sessionKey).weaken (fun _ h ↦ h) fun ticket w h ↦ ?_
  obtain ⟨response, -, hticket⟩ := h
  obtain ⟨hclient, hservice⟩ := processTgsRep_eq_ok P R hticket
  exact ⟨hrequest.1, hrequest.2.1 ▸ hclient, hrequest.2.2 ▸ hservice⟩

end Exchanges

namespace TokioClient

/-- A client whose TGTs and tickets are all issued to its own principal. -/
structure HoldsOwn (p : Principal) (c : TokioClient) : Prop where
  client_eq : c.client = p
  tgt : ∀ tgt ∈ c.tgt, IssuedTo p tgt
  tgtSessions : ∀ (realm : String) (session : AsRepSession),
    c.tgtSessions[realm]? = some session → IssuedTo p session
  serviceTickets : ∀ (key : String) (ticket : TgsRepSession),
    c.serviceTickets[key]? = some ticket → IssuedTo p ticket

section Scope

/-- The scope of a client of which all sessions are issued to its own principal. -/
def Scope.own (p target : Principal) : Scope where
  client := p
  kind := IssuedTo p
  kind_issued _ h := h
  kind_inherited _ _ htgt hmatches := principalMatches_trans hmatches htgt
  target := target
  taken _ := True

variable {p target : Principal} {c : TokioClient}

theorem HoldsOwn.covers (h : HoldsOwn p c) (hcoherent : c.Coherent) : (Scope.own p target).Covers c :=
  ⟨⟨h.tgt, h.tgtSessions, h.serviceTickets⟩, hcoherent, h.client_eq⟩

theorem Scope.Covers.holdsOwn (h : (Scope.own p target).Covers c) : HoldsOwn p c :=
  ⟨h.client_eq, h.tgt, h.tgtSessions, h.serviceTickets⟩

end Scope

section Delegations

/-- What a service can ask its KDC for in the name of a user, with options of its own or the client's. -/
inductive Delegation
  | s4u2self (user : Principal) (options : Option TgsReqOptions)
  | s4u2proxy (evidenceTicket : TgsRepSession) (targetService : Principal) (options : Option TgsReqOptions)

namespace Delegation

variable {ω : Type} (W : World ω) (P : Primitives) (R : Rasn) (C : DelegationCoders)

def run : Delegation → ClientProgram ω TgsRepSession
  | s4u2self user none => TokioClient.s4u2self P R C W user
  | s4u2self user (some options) => TokioClient.s4u2selfWithOptions P R C W user options
  | s4u2proxy evidenceTicket targetService none => TokioClient.s4u2proxy P R W evidenceTicket targetService
  | s4u2proxy evidenceTicket targetService (some options) =>
    TokioClient.s4u2proxyWithOptions P R W evidenceTicket targetService options

def user : Delegation → Principal
  | s4u2self user _ => user
  | s4u2proxy evidenceTicket _ _ => evidenceTicket.client

/-- The service that the ticket is for: the client itself, or the one that it acts towards. -/
def service (p : Principal) : Delegation → Principal
  | s4u2self _ _ => p
  | s4u2proxy _ targetService _ => targetService

/-- A ticket is evidence for the service that it was issued for. -/
def Admitted (p : Principal) : Delegation → Prop
  | s4u2self _ _ => True
  | s4u2proxy evidenceTicket _ _ => principalMatches evidenceTicket.service p = true

end Delegation

variable {ω : Type} {W : World ω} {P : Primitives} {R : Rasn} {C : DelegationCoders} {p target : Principal}
  {pre : TokioClient × ω → Prop}

theorem runs_ensureTgt_own : Runs W P R (.own p target) pre (ensureTgt W P R) fun tgt _ ↦ IssuedTo p tgt :=
  runs_ensureTgt.weaken (fun _ _ h ↦ h) fun tgt _ hs h ↦ hs.tgt tgt h.1

theorem runs_s4u2selfWithOptions (user : Principal) (options : TgsReqOptions) :
    Runs W P R (.own p target) pre (s4u2selfWithOptions P R C W user options) fun ticket _ ↦
      IssuedTo user ticket ∧ principalMatches ticket.service p = true ∧
        (R.Lawful → ∃ sealed, decodeTicket R ticket.ticket = .ok sealed) := by
  refine .bind runs_ensureTgt_own fun serviceTgt ↦ ?_
  refine (Runs.outside (fun _ _ _ _ h ↦ h) (asks_s4u2selfWithConfig W P R C serviceTgt user options)).weaken
    (fun _ _ h ↦ h) fun ticket s _ h ↦ ?_
  exact ⟨h.2.1, principalMatches_trans h.2.2.1 h.1, h.2.2.2⟩

theorem runs_s4u2proxyWithOptions (evidenceTicket : TgsRepSession) (targetService : Principal)
    (options : TgsReqOptions) :
    Runs W P R (.own p target) pre (s4u2proxyWithOptions P R W evidenceTicket targetService options) fun ticket _ ↦
      principalMatches evidenceTicket.service p = true ∧ IssuedTo evidenceTicket.client ticket ∧
        principalMatches ticket.service targetService = true := by
  refine .bind runs_ensureTgt_own fun serviceTgt ↦ ?_
  refine (Runs.outside (fun _ _ _ _ h ↦ h)
    (asks_s4u2proxyWithConfig W P R serviceTgt evidenceTicket targetService options)).weaken
      (fun _ _ h ↦ h) fun ticket s _ h ↦ ?_
  exact ⟨principalMatches_trans h.2.1 h.1, h.2.2⟩

theorem Delegation.runs_s4u2self (user : Principal) (options : Option TgsReqOptions) :
    Runs W P R (.own p target) (fun _ ↦ True) ((Delegation.s4u2self user options).run W P R C) fun ticket _ ↦
      IssuedTo user ticket ∧ principalMatches ticket.service p = true ∧
        (R.Lawful → ∃ sealed, decodeTicket R ticket.ticket = .ok sealed) := by
  cases options with
  | none => exact .bind (runs_tgsReqOptions fun _ _ _ _ h ↦ h) fun options ↦ runs_s4u2selfWithOptions user options
  | some options => exact runs_s4u2selfWithOptions user options

/-- A delegation that returns was admitted, and its ticket is the user's, for the service. -/
theorem Delegation.runs (delegation : Delegation) :
    Runs W P R (.own p target) (fun _ ↦ True) (delegation.run W P R C) fun ticket _ ↦ delegation.Admitted p ∧
      IssuedTo delegation.user ticket ∧ principalMatches ticket.service (delegation.service p) = true := by
  cases delegation with
  | s4u2self user options =>
    exact (runs_s4u2self user options).weaken (fun _ _ h ↦ h) fun _ _ _ h ↦ ⟨trivial, h.1, h.2.1⟩
  | s4u2proxy evidenceTicket targetService options =>
    cases options with
    | none =>
      exact .bind (runs_tgsReqOptions fun _ _ _ _ h ↦ h) fun options ↦
        runs_s4u2proxyWithOptions evidenceTicket targetService options
    | some options => exact runs_s4u2proxyWithOptions evidenceTicket targetService options

end Delegations

section Refusals

variable {ω : Type} (W : World ω) (P : Primitives) (R : Rasn) (C : DelegationCoders) {p target : Principal}

/-- What a delegation does before it builds its request. -/
def Delegation.prepare (delegation : Delegation) : ClientProgram ω AsRepSession := do
  match delegation with
  | .s4u2self _ none | .s4u2proxy _ _ none =>
    let _ ← tgsReqOptions W
    ensureTgt W P R
  | .s4u2self _ (some _) | .s4u2proxy _ _ (some _) => ensureTgt W P R

theorem stops_s4u2proxyWithConfig {serviceTgt : AsRepSession} {evidenceTicket : TgsRepSession}
    (h : ¬ principalMatches evidenceTicket.service serviceTgt.client = true) (targetService : Principal)
    (options : TgsReqOptions) :
    Leaves Prod.snd (s4u2proxyWithConfig P R W.logged serviceTgt evidenceTicket targetService options) := by
  have hbuild : Leaves Prod.snd (buildS4u2proxyReq P R W.logged serviceTgt evidenceTicket targetService options) :=
    (leaves_currentPreauthTime W).bind fun _ ↦ (leaves_confounderFor W _).bind fun _ ↦ .lift _
  refine hbuild.bind_of_stops (.seq fun _ ↦ .seq fun _ ↦ .lift fun request hrequest ↦ h ?_)
  exact (buildS4u2proxyReqWithConfounder_eq_ok P R hrequest).1

theorem log_s4u2proxyWithOptions {evidenceTicket : TgsRepSession}
    (h : ¬ principalMatches evidenceTicket.service p = true) (targetService : Principal) (options : TgsReqOptions)
    {s : TokioClient × ω × List Exchange} (hs : (Scope.own p target).Covers s.1) :
    ((s4u2proxyWithOptions P R W.logged evidenceTicket targetService options).exec s).2.2.2 =
      ((ensureTgt W.logged P R).exec s).2.2.2 := by
  have hensure : Runs W.logged P R (.own p target) (fun _ ↦ True) (ensureTgt W.logged P R) _ := runs_ensureTgt_own
  rw [s4u2proxyWithOptions, Program.exec_bind]
  cases hexec : (ensureTgt W.logged P R).exec s with
  | mk result s' =>
    cases result with
    | error e => rfl
    | ok serviceTgt =>
      have hissued := Goes.ok hensure ⟨hs, trivial⟩ (congrArg Prod.fst hexec)
      have hevidence := fun hmatches ↦ h (principalMatches_trans hmatches hissued)
      exact stops_s4u2proxyWithConfig W P R hevidence targetService options s'.2

/-- A service that holds only its own sessions sends nothing to its KDC for what is no evidence. -/
theorem log_of_not_admitted {delegation : Delegation} (h : ¬ delegation.Admitted p)
    {s : TokioClient × ω × List Exchange} (hs : (Scope.own p target).Covers s.1) :
    ((delegation.run W.logged P R C).exec s).2.2.2 = ((delegation.prepare W.logged P R).exec s).2.2.2 := by
  cases delegation with
  | s4u2self user options => exact absurd trivial h
  | s4u2proxy evidenceTicket targetService options =>
    cases options with
    | none =>
      have hoptions : Runs W.logged P R (.own p target) (fun _ ↦ True) (tgsReqOptions W.logged) fun _ _ ↦ True :=
        runs_tgsReqOptions fun _ _ _ _ h ↦ h
      have hcovers := (hoptions s ⟨hs, trivial⟩).1.covers hs
      rw [Delegation.run, TokioClient.s4u2proxy, Delegation.prepare, Program.exec_bind, Program.exec_bind]
      revert hcovers
      rcases (tgsReqOptions W.logged).exec s with ⟨e | options, s'⟩
      · exact fun _ ↦ rfl
      · exact fun hcovers ↦ log_s4u2proxyWithOptions W P R h targetService options hcovers
    | some options => exact log_s4u2proxyWithOptions W P R h targetService options hs

end Refusals

end TokioClient

end Rskrb5.Client
