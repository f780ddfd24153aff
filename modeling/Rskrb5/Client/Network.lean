import Rskrb5.Client.Transport

namespace Rskrb5.Client

open Lib.Results Lib.Programs

inductive KdcProtocol
  | udp
  | tcp
  | auto
  deriving DecidableEq

/-- What a socket operation ends with instead of bytes. -/
inductive SocketError
  | io (message : String)
  | timedOut
  deriving DecidableEq

/-- What a peer sends over a connection, and how reading beyond it ends. -/
structure Stream where
  bytes : Bytes
  ending : SocketError
  deriving DecidableEq

/-- The errors of one exchange. -/
inductive SendError
  | io (message : String)
  | transportTimeout (timeout : ℕ)
  | udpRequestTooLarge (actual limit : ℕ)
  | tcpRequestTooLarge (actual : ℕ)
  | tcpResponseTooLarge (actual : UInt32) (limit : ℕ)
  | emptyKdcResponse
  deriving DecidableEq

def maxUdpDatagram : ℕ := 65507
def defaultKdcTimeout : ℕ := Duration.fromSecs 5
def defaultTcpResponseLimit : ℕ := 16 * 1024 * 1024
def krbErrResponseTooBig : Int32 := 52

structure TokioKdcTransport where
  timeout : ℕ
  udpResponseLimit : ℕ
  tcpResponseLimit : ℕ
  deriving DecidableEq

def TokioKdcTransport.new : TokioKdcTransport where
  timeout := defaultKdcTimeout
  udpResponseLimit := maxUdpDatagram + 1
  tcpResponseLimit := defaultTcpResponseLimit

section Texts

/-- The digits behind the point of a duration, without the zeros at their end. -/
def fractionDigits (fraction width : ℕ) : String :=
  let digits := (Nat.toDigits 10 fraction).leftpad width '0'
  .ofList (digits.reverse.dropWhile (· = '0')).reverse

def formatDecimal (whole fraction width : ℕ) (unit : String) : String :=
  if fraction = 0 then s!"{whole}{unit}" else s!"{whole}." ++ fractionDigits fraction width ++ unit

/-- The `Debug` text of a duration. -/
def debugDuration (duration : ℕ) : String :=
  let nanos := duration % nanosPerSec
  if nanosPerSec ≤ duration then formatDecimal (duration / nanosPerSec) nanos 9 "s"
  else if 1000000 ≤ nanos then formatDecimal (nanos / 1000000) (nanos % 1000000) 6 "ms"
  else if 1000 ≤ nanos then formatDecimal (nanos / 1000) (nanos % 1000) 3 "µs"
  else formatDecimal nanos 0 1 "ns"

def SendError.text : SendError → String
  | io message => s!"KDC transport I/O failed: {message}"
  | transportTimeout timeout => "KDC transport timed out after " ++ debugDuration timeout
  | udpRequestTooLarge actual limit => s!"KDC UDP request length {actual} exceeds datagram limit {limit}"
  | tcpRequestTooLarge actual => s!"KDC TCP request length {actual} exceeds u32::MAX"
  | tcpResponseTooLarge actual limit => s!"KDC TCP response length {actual} exceeds configured limit {limit}"
  | emptyKdcResponse => "KDC returned an empty response"

end Texts

section Exchanges

variable (T : TokioKdcTransport)

def socketError : SocketError → SendError
  | .io message => .io message
  | .timedOut => .transportTimeout T.timeout

def nonEmptyKdcResponse (response : Bytes) : Except SendError Bytes :=
  if response = [] then .error .emptyKdcResponse else .ok response

/-- What is made of the datagram that came back. A buffer that is too short cuts it off. -/
def udpResponse (datagram : Except SocketError Bytes) : Except SendError Bytes := do
  let datagram ← datagram.mapError (socketError T)
  nonEmptyKdcResponse (datagram.take T.udpResponseLimit)

def readExact (stream : Stream) (count : ℕ) : Except SendError (Bytes × Stream) :=
  if count ≤ stream.bytes.length then .ok (stream.bytes.take count, { stream with bytes := stream.bytes.drop count })
  else .error (socketError T stream.ending)

/-- What is made of the bytes that the peer sends. -/
def tcpResponse (stream : Except SocketError Stream) : Except SendError Bytes := do
  let stream ← stream.mapError (socketError T)
  let (header, stream) ← readExact T stream 4
  let responseLen := u32FromBeBytes header
  ensure (responseLen.toNat ≤ T.tcpResponseLimit) (.tcpResponseTooLarge responseLen T.tcpResponseLimit)
  let (response, _) ← readExact T stream responseLen.toNat
  nonEmptyKdcResponse response

/-- A request behind its length. -/
def tcpFrame (request : Bytes) : Bytes := u32ToBeBytes (UInt32.ofNat request.length) ++ request

end Exchanges

/-- What lies outside the client: the peers behind hosts and ports, and the state that they are in. A peer is given
the bytes that it is sent. -/
structure Network (ω : Type) where
  udp : String → UInt16 → Bytes → ω → Except SocketError Bytes × ω
  tcp : String → UInt16 → Bytes → ω → Except SocketError Stream × ω

section Sends

variable {ω : Type} (N : Network ω) (T : TokioKdcTransport) (R : Rasn)

def sendUdp (host : String) (port : UInt16) (request : Bytes) : Program ω SendError Bytes := do
  if request.length > maxUdpDatagram then throw (.udpRequestTooLarge request.length maxUdpDatagram)
  else .ofExec fun w ↦ (udpResponse T (N.udp host port request w).1, (N.udp host port request w).2)

def sendTcp (host : String) (port : UInt16) (request : Bytes) : Program ω SendError Bytes := do
  if 2 ^ 32 ≤ request.length then throw (.tcpRequestTooLarge request.length)
  else .ofExec fun w ↦
    (tcpResponse T (N.tcp host port (tcpFrame request) w).1, (N.tcp host port (tcpFrame request) w).2)

def kdcErrorCode (bytes : Bytes) : Option Int32 :=
  (KrbError.decodeKrbError R bytes).toOption.map (·.errorCode)

def isResponseTooBig (response : Bytes) : Bool := kdcErrorCode R response = some krbErrResponseTooBig

def send (protocol : KdcProtocol) (host : String) (port : UInt16) (request : Bytes) : Program ω SendError Bytes :=
  match protocol with
  | .udp => sendUdp N T host port request
  | .tcp => sendTcp N T host port request
  | .auto => do
    match ← .attempt (sendUdp N T host port request) with
    | .ok response => if isResponseTooBig R response then sendTcp N T host port request else return response
    | .error _ => sendTcp N T host port request

end Sends

section Frames

variable {T : TokioKdcTransport} {stream : Stream} {response : Bytes}

theorem readExact_eq_ok {count : ℕ} {bytes : Bytes} {rest : Stream} :
    readExact T stream count = .ok (bytes, rest) ↔
      bytes.length = count ∧ stream.bytes = bytes ++ rest.bytes ∧ rest.ending = stream.ending := by
  rw [readExact]
  split
  · next hle =>
    rw [Except.ok.injEq, Prod.mk.injEq]
    constructor
    · rintro ⟨rfl, rfl⟩
      exact ⟨List.length_take_of_le hle, (List.take_append_drop count _).symm, rfl⟩
    · rintro ⟨rfl, heq, hending⟩
      rw [heq, List.take_left, List.drop_left, ← hending]
      exact ⟨rfl, rfl⟩
  · next hlt =>
    simp only [reduceCtorEq, false_iff]
    rintro ⟨rfl, heq, -⟩
    rw [heq, List.length_append] at hlt
    omega

theorem toNat_u32FromBeBytes {bytes : Bytes} (h : bytes.length = 4) :
    (u32FromBeBytes bytes).toNat = beNat bytes := by
  have hlt := beNat_lt bytes
  rw [h] at hlt
  exact UInt32.toNat_ofNat_of_lt' hlt

theorem u32ToBeBytes_ofNat_beNat {bytes : Bytes} (h : bytes.length = 4) :
    u32ToBeBytes (UInt32.ofNat (beNat bytes)) = bytes := by
  have hlt := beNat_lt bytes
  rw [h] at hlt
  rw [u32ToBeBytes, UInt32.toNat_ofNat_of_lt' hlt]
  exact beBytes_beNat h

theorem toNat_u32FromBeBytes_length {bytes : Bytes} (h : bytes.length < 2 ^ 32) :
    (u32FromBeBytes (u32ToBeBytes (UInt32.ofNat bytes.length))).toNat = bytes.length := by
  rw [toNat_u32FromBeBytes (length_u32ToBeBytes _), u32ToBeBytes, UInt32.toNat_ofNat_of_lt' h, beNat_beBytes,
    Nat.mod_eq_of_lt (by norm_num at h ⊢; exact h)]

theorem nonEmptyKdcResponse_eq_ok {bytes : Bytes} :
    nonEmptyKdcResponse bytes = .ok response ↔ bytes = response ∧ response ≠ [] := by
  rw [nonEmptyKdcResponse]
  split
  · next h =>
    subst h
    simp only [reduceCtorEq, false_iff]
    rintro ⟨rfl, hne⟩
    exact hne rfl
  · next h =>
    rw [Except.ok.injEq]
    exact ⟨fun heq ↦ ⟨heq, heq ▸ h⟩, And.left⟩

/-- The steps of reading a response. -/
theorem tcpResponse_eq_ok : tcpResponse T (.ok stream) = .ok response ↔
    ∃ header rest, header.length = 4 ∧ stream.bytes = header ++ (response ++ rest) ∧
      beNat header = response.length ∧ response.length ≤ T.tcpResponseLimit ∧ response ≠ [] := by
  simp only [tcpResponse, Except.mapError, ok_bind, bind_eq_ok, ensure_eq_ok, Prod.exists, readExact_eq_ok,
    nonEmptyKdcResponse_eq_ok, exists_const]
  constructor
  · rintro ⟨header, rest, ⟨hheader, hstream, -⟩, hlimit, _, rest', ⟨hlength, hrest, -⟩, rfl, hne⟩
    rw [toNat_u32FromBeBytes hheader] at hlimit hlength
    exact ⟨header, rest'.bytes, hheader, by rw [hstream, hrest], hlength.symm, hlength ▸ hlimit, hne⟩
  · rintro ⟨header, rest, hheader, hstream, hlength, hlimit, hne⟩
    rw [← hlength, ← toNat_u32FromBeBytes hheader] at hlimit
    rw [← toNat_u32FromBeBytes hheader] at hlength
    exact ⟨header, { stream with bytes := response ++ rest }, ⟨hheader, hstream, rfl⟩, hlimit, response,
      { stream with bytes := rest }, ⟨hlength.symm, rfl, rfl⟩, rfl, hne⟩

/-- A response is read exactly when the peer sends it behind its length, whatever follows. -/
theorem tcpResponse_iff : tcpResponse T (.ok stream) = .ok response ↔ response ≠ [] ∧ response.length < 2 ^ 32 ∧
    response.length ≤ T.tcpResponseLimit ∧ tcpFrame response <+: stream.bytes := by
  rw [tcpResponse_eq_ok]
  constructor
  · rintro ⟨header, rest, hheader, hstream, hlength, hlimit, hne⟩
    have hlt := beNat_lt header
    rw [hheader, hlength] at hlt
    refine ⟨hne, hlt, hlimit, rest, ?_⟩
    rw [tcpFrame, ← hlength, u32ToBeBytes_ofNat_beNat hheader, hstream, List.append_assoc]
  · rintro ⟨hne, hlt, hlimit, rest, hstream⟩
    refine ⟨u32ToBeBytes (UInt32.ofNat response.length), rest, length_u32ToBeBytes _, ?_, ?_, hlimit, hne⟩
    · rw [← hstream, tcpFrame, List.append_assoc]
    · rw [← toNat_u32FromBeBytes (length_u32ToBeBytes _), toNat_u32FromBeBytes_length hlt]

/-- An exchange over TCP gives a response exactly when the request has a length that fits its prefix, the peer is
sent the request behind its length and nothing else, and what the peer sends starts with the response behind its
length. A response is never empty, and no longer than the limit of the transport. -/
theorem tcp_exchange_iff {ω : Type} (N : Network ω) (T : TokioKdcTransport) (host : String) (port : UInt16)
    (request response : Bytes) (w w' : ω) : (sendTcp N T host port request).exec w = (.ok response, w') ↔
      request.length < 2 ^ 32 ∧ ∃ stream, N.tcp host port (tcpFrame request) w = (.ok stream, w') ∧ response ≠ [] ∧
        response.length < 2 ^ 32 ∧ response.length ≤ T.tcpResponseLimit ∧ tcpFrame response <+: stream.bytes := by
  rw [sendTcp]
  split
  · next hlong =>
    simp only [Program.exec_throw, Prod.mk.injEq, reduceCtorEq, false_and, false_iff]
    exact fun h ↦ absurd h.1 (Nat.not_lt.mpr hlong)
  · next hshort =>
    rw [Program.exec_ofExec]
    simp only [Nat.lt_of_not_le hshort, true_and, ← tcpResponse_iff]
    rcases N.tcp host port (tcpFrame request) w with ⟨error | stream, w₁⟩
    · simp [tcpResponse, Except.mapError]
    · simp only [Prod.mk.injEq, Except.ok.injEq, exists_eq_left', and_assoc]
      exact and_comm

end Frames

end Rskrb5.Client
