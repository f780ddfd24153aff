import Rskrb5.Gss.Contexts
import Rskrb5.Http.Responses

namespace Rskrb5.Http

open Lib.Results Crypto EncParts Service Spnego Gss

section Values

/-- What the http crate makes of the values of headers. -/
structure HeaderValues (HeaderValue : Type) where
  toStr : HeaderValue → Except String (List Char)
  fromStr : String → Except String HeaderValue
  fromStatic : String → HeaderValue

def IsVisible (c : Char) : Prop := 32 ≤ c.toNat ∧ c.toNat < 127

instance : DecidablePred IsVisible := fun _ ↦ inferInstanceAs (Decidable (_ ∧ _))

/-- A text of visible ASCII characters makes a value, which is read as the same text. -/
structure HeaderValues.Lawful {HeaderValue : Type} (H : HeaderValues HeaderValue) : Prop where
  fromStr : ∀ text : String, (∀ c ∈ text.toList, IsVisible c) →
    ∃ value, H.fromStr text = .ok value ∧ H.toStr value = .ok text.toList
  fromStatic : ∀ text : String, (∀ c ∈ text.toList, IsVisible c) →
    H.toStr (H.fromStatic text) = .ok text.toList

/-- Values as their texts, which is what they are for visible characters. -/
def asciiValues : HeaderValues String where
  toStr value := .ok value.toList
  fromStr text := .ok text
  fromStatic text := text

theorem asciiValues_lawful : asciiValues.Lawful := ⟨fun text _ ↦ ⟨text, rfl, rfl⟩, fun _ _ ↦ rfl⟩

end Values

inductive Error
  | missingAuthorization
  | missingWwwAuthenticate
  | missingNegotiateChallenge
  | invalidHeader (message : String)
  | invalidHeaderValue (message : String)
  | spnego (source : ContextError)
  deriving DecidableEq

/-- A request is the values of its header `Authorization`, the context attached to it, and its content:
the method, the target, the other headers and extensions, and the body. -/
structure Request (HeaderValue Content Pac : Type) where
  authorization : List HeaderValue
  accepted : Option (AcceptedContext Pac)
  content : Content

/-- A response is its status, the values of its headers `WWW-Authenticate`, and its content. -/
structure Response (HeaderValue Content : Type) where
  status : UInt16
  wwwAuthenticate : List HeaderValue
  content : Content

def statusOk : UInt16 := 200

def statusUnauthorized : UInt16 := 401

variable {HeaderValue Content Pac : Type} (H : HeaderValues HeaderValue)

section Requests

def authorizationHeader (request : Request HeaderValue Content Pac) : Except Error String := do
  let value ← okOr request.authorization.head? .missingAuthorization
  let text ← (H.toStr value).mapError .invalidHeader
  return .ofList text

/-- The new value replaces all values of before. -/
def setAuthorizationHeader (request : Request HeaderValue Content Pac) (value : String) :
    Except Error (Request HeaderValue Content Pac) := do
  let value ← (H.fromStr value).mapError .invalidHeaderValue
  return { request with authorization := [value] }

variable (P : Primitives) (R : Rasn) (B : Base64) (pac : PacOps Pac)

/-- The request with its context attached comes with the context. -/
def acceptRequest (v : ServiceValidator) (clock : Clock) (request : Request HeaderValue Content Pac) (caches : Caches) :
    Except Error (AcceptedContext Pac × Request HeaderValue Content Pac) × Caches :=
  match authorizationHeader H request with
  | .error e => (.error e, caches)
  | .ok header =>
    let (accepted, caches) := acceptSecContextHeader P R B pac v clock header caches
    ((accepted.mapError .spnego).map fun accepted ↦ (accepted, { request with accepted := some accepted }), caches)

end Requests

section Responses

/-- `none` stands for a slice of a header that does not start or end at a character. -/
def findNegotiateHeader (sawWwwAuthenticate : Bool) : List HeaderValue → Option (Except Error (List Char))
  | [] => some (.error (if sawWwwAuthenticate then .missingNegotiateChallenge else .missingWwwAuthenticate))
  | value :: values =>
    match H.toStr value with
    | .error source => some (.error (.invalidHeader source))
    | .ok header => do
      match ← negotiateChallenge header with
      | some challenge => return .ok challenge
      | none => findNegotiateHeader true values

def wwwAuthenticateNegotiateHeader (response : Response HeaderValue Content) : Option (Except Error (List Char)) :=
  findNegotiateHeader H false response.wwwAuthenticate

def shouldRetryWithNegotiate (response : Response HeaderValue Content) : Option (Except Error Bool) :=
  if response.status ≠ statusUnauthorized then some (.ok false)
  else do
    match ← wwwAuthenticateNegotiateHeader H response with
    | .ok _ => return .ok true
    | .error .missingWwwAuthenticate => return .ok false
    | .error .missingNegotiateChallenge => return .ok false
    | .error error => return .error error

variable (B : Base64) (empty : Content)

/-- A response without a header, whose content is the default. -/
def Response.new : Response HeaderValue Content := ⟨statusOk, [], empty⟩

def challengeResponse : Response HeaderValue Content :=
  { (Response.new empty : Response HeaderValue Content) with
    status := statusUnauthorized, wwwAuthenticate := [H.fromStatic httpNegotiate] }

def responseWithWwwAuthenticate (status : UInt16) (header : String) : Except Error (Response HeaderValue Content) := do
  let value ← (H.fromStr header).mapError .invalidHeaderValue
  return { (Response.new empty : Response HeaderValue Content) with status, wwwAuthenticate := [value] }

def rejectResponse : Except Error (Response HeaderValue Content) := do
  let header ← (rejectHeader B).mapError fun e ↦ .spnego (.spnego e)
  responseWithWwwAuthenticate H empty statusUnauthorized header

end Responses

section Found

variable {H} {B : Base64}

/-- No header is sliced within a character. -/
theorem findNegotiateHeader_eq (values : List HeaderValue) (saw : Bool) : ∃ result,
    findNegotiateHeader H saw values = some result ∧
      ∀ challenge, result = .ok challenge ↔ firstChallenge H.toStr values = some challenge := by
  induction values generalizing saw with
  | nil => exact ⟨_, rfl, by simp [firstChallenge]⟩
  | cons value values ih =>
    rw [findNegotiateHeader, firstChallenge]
    cases H.toStr value with
    | error source => exact ⟨_, rfl, by simp⟩
    | ok header =>
      dsimp only
      rw [negotiateChallenge_eq]
      cases ((headerPieces header).map trim).find? (IsNegotiate ·) with
      | some challenge => exact ⟨_, rfl, by simp⟩
      | none => exact ih true

theorem shouldRetry_isSome (response : Response HeaderValue Content) :
    (shouldRetryWithNegotiate H response).isSome := by
  obtain ⟨result, hresult, -⟩ := findNegotiateHeader_eq (H := H) response.wwwAuthenticate false
  rw [shouldRetryWithNegotiate]
  split
  · rfl
  · rw [wwwAuthenticateNegotiateHeader, hresult]
    rcases result with e | challenge
    · cases e <;> rfl
    · rfl

theorem shouldRetry_iff (response : Response HeaderValue Content) :
    shouldRetryWithNegotiate H response = some (.ok true) ↔
      response.status = statusUnauthorized ∧
        ∃ challenge, firstChallenge H.toStr response.wwwAuthenticate = some challenge := by
  obtain ⟨result, hresult, hfirst⟩ := findNegotiateHeader_eq (H := H) response.wwwAuthenticate false
  rw [shouldRetryWithNegotiate]
  split
  · next hstatus => simp [hstatus]
  · next hstatus =>
    rw [wwwAuthenticateNegotiateHeader, hresult]
    rw [ne_eq, not_not] at hstatus
    simp only [hstatus, true_and, ← hfirst]
    rcases result with e | challenge
    · cases e <;> simp
    · simp

theorem isVisible_of_alphabet : ∀ c ∈ base64Alphabet, IsVisible c ∧ c ≠ ',' := by
  have h : base64Alphabet.all (fun c ↦ IsVisible c ∧ c ≠ ',') = true := by decide
  exact fun c hc ↦ of_decide_eq_true (List.all_eq_true.mp h c hc)

theorem toList_negotiateText (bytes : Bytes) :
    (negotiateText B bytes).toList = httpNegotiate.toList ++ ' ' :: (B.encode bytes).toList := by
  simp [negotiateText, String.toList_append]

theorem visible_httpNegotiate : ∀ c ∈ httpNegotiate.toList ++ [' '], IsVisible c ∧ c ≠ ',' := by
  have hall : (httpNegotiate.toList ++ [' ']).all (fun c ↦ decide (IsVisible c ∧ c ≠ ',')) = true := rfl
  intro c hc
  exact of_decide_eq_true (List.all_eq_true.mp hall c hc)

theorem visible_negotiateText (hB : ∀ bytes, B.Standard bytes) (bytes : Bytes) :
    ∀ c ∈ (negotiateText B bytes).toList, IsVisible c ∧ c ≠ ',' := by
  intro c hc
  rw [toList_negotiateText, List.append_cons, List.mem_append] at hc
  rcases hc with hc | hc
  · exact visible_httpNegotiate c hc
  · exact isVisible_of_alphabet c ((hB bytes).alphabet c hc)

theorem whole_of_commaless {text : List Char} (h : ',' ∉ text) : commas.Whole .outside text := by
  intro before c after heq
  refine commas_cuts_eq_false.mpr fun hcut ↦ h ?_
  rw [heq, ← hcut.2]
  exact List.mem_append_right _ List.mem_cons_self

/-- A header without a comma is one challenge. -/
theorem challenge_of_commaless {text : List Char} (h : ',' ∉ text) (hscheme : IsNegotiate (trim text)) :
    ((headerPieces text).map trim).find? (IsNegotiate ·) = some (trim text) := by
  have hpieces : headerPieces text = [text] := Lib.Scanners.Scanner.pieces_of_whole (whole_of_commaless h)
  rw [hpieces, List.map_singleton, List.find?_cons_of_pos (by simpa using hscheme)]

theorem trim_negotiateText (hB : ∀ bytes, B.Standard bytes) {bytes : Bytes} (hne : bytes ≠ []) :
    trim (negotiateText B bytes).toList = (negotiateText B bytes).toList := by
  have htext : ∀ c ∈ (B.encode bytes).toList.reverse, isWhitespace c = false :=
    fun c hc ↦ isWhitespace_of_alphabet c ((hB bytes).alphabet c (List.mem_reverse.mp hc))
  have htext_ne : (B.encode bytes).toList.reverse ≠ [] := by
    have hpos := List.length_pos_iff.mpr hne
    rw [ne_eq, List.reverse_eq_nil_iff, ← ne_eq, ← List.length_pos_iff, (hB bytes).length]
    omega
  have hdrop : ∀ text, (httpNegotiate.toList ++ ' ' :: text).dropWhile isWhitespace =
      httpNegotiate.toList ++ ' ' :: text := fun _ ↦ rfl
  obtain ⟨last, front, hreverse⟩ := List.exists_cons_of_ne_nil htext_ne
  have hlast : isWhitespace last = false := htext last (by rw [hreverse]; exact List.mem_cons_self)
  rw [toList_negotiateText, trim, hdrop, List.append_cons, List.reverse_append, hreverse, List.cons_append,
    List.dropWhile_cons, hlast, if_neg (by simp), ← List.cons_append, ← hreverse, List.reverse_append,
    List.reverse_reverse, List.reverse_reverse]

theorem firstChallenge_negotiateText (hB : ∀ bytes, B.Standard bytes) {bytes : Bytes} (hne : bytes ≠ [])
    {value : HeaderValue} {values : List HeaderValue} (hvalue : H.toStr value = .ok (negotiateText B bytes).toList) :
    firstChallenge H.toStr (value :: values) = some (negotiateText B bytes).toList := by
  have hcomma : ',' ∉ (negotiateText B bytes).toList := fun hc ↦ (visible_negotiateText hB bytes ',' hc).2 rfl
  have htrim := trim_negotiateText hB hne
  have hscheme : IsNegotiate (trim (negotiateText B bytes).toList) := by
    rw [htrim, toList_negotiateText]
    rfl
  have hfound := challenge_of_commaless hcomma hscheme
  rw [firstChallenge, hvalue]
  dsimp only
  rw [hfound, htrim]

theorem exists_value (hH : H.Lawful) (hB : ∀ bytes, B.Standard bytes) (bytes : Bytes) :
    ∃ value, H.fromStr (negotiateText B bytes) = .ok value ∧ H.toStr value = .ok (negotiateText B bytes).toList :=
  hH.fromStr _ fun c hc ↦ (visible_negotiateText hB bytes c hc).1

theorem firstChallenge_challengeResponse (hH : H.Lawful) (empty : Content) :
    firstChallenge H.toStr (challengeResponse H empty).wwwAuthenticate = some httpNegotiate.toList := by
  have hvisible : ∀ c ∈ httpNegotiate.toList, IsVisible c ∧ c ≠ ',' :=
    fun c hc ↦ visible_httpNegotiate c (List.mem_append_left _ hc)
  have hvalue : H.toStr (H.fromStatic httpNegotiate) = .ok httpNegotiate.toList :=
    hH.fromStatic _ fun c hc ↦ (hvisible c hc).1
  have hscheme : IsNegotiate (trim httpNegotiate.toList) := rfl
  have hfound := challenge_of_commaless (fun hc ↦ (hvisible ',' hc).2 rfl) hscheme
  change firstChallenge H.toStr [H.fromStatic httpNegotiate] = _
  rw [firstChallenge, hvalue]
  dsimp only
  rw [hfound]
  rfl

end Found

end Rskrb5.Http
