import Rskrb5.Lib.Offsets
import Rskrb5.Lib.Scanners
import Rskrb5.Lib.Texts
import Rskrb5.Spnego

namespace Rskrb5.Http

open Lib.Offsets Lib.Scanners Lib.Texts Spnego

section Segments

def asciiWhitespace : List Char := ['\t', '\n', '\x0c', '\r', ' ']

/-- `u8::is_ascii_whitespace`. -/
def isAsciiWhitespace (byte : UInt8) : Bool := byte ∈ asciiWhitespace.map asciiByte

/-- The loop over the bytes: where the segment ends, and where the loop stops. -/
def scanSegment (length : ℕ) : ℕ → Bool → Bool → List UInt8 → ℕ × ℕ
  | index, _, _, [] => (length, index)
  | index, quoted, escaped, byte :: bytes =>
    if escaped then scanSegment length (index + 1) quoted false bytes
    else if byte = asciiByte '\\' ∧ quoted then scanSegment length (index + 1) quoted true bytes
    else if byte = asciiByte '"' then scanSegment length (index + 1) (!quoted) escaped bytes
    else if byte = asciiByte ',' ∧ ¬ quoted then (index, index + 1)
    else scanSegment length (index + 1) quoted escaped bytes

structure WwwAuthenticateSegments where
  value : List Char
  offset : ℕ

namespace WwwAuthenticateSegments

def new (value : List Char) : WwwAuthenticateSegments := ⟨value, 0⟩

/-- `none` stands for a slice that does not start or end at a character. -/
def next (s : WwwAuthenticateSegments) : Option (Option (List Char) × WwwAuthenticateSegments) :=
  let bytes := utf8 s.value
  if s.offset ≥ bytes.length then some (none, s)
  else
    let found := scanSegment bytes.length s.offset false false (bytes.drop s.offset)
    let offset := found.2 + ((bytes.drop found.2).takeWhile isAsciiWhitespace).length
    (slice? s.value s.offset found.1).map fun segment ↦ (some segment, { s with offset })

/-- The segments that the iterator gives until it ends. -/
inductive Yields : WwwAuthenticateSegments → List (List Char) → Prop
  | done {s s' : WwwAuthenticateSegments} : s.next = some (none, s') → Yields s []
  | more {s s' : WwwAuthenticateSegments} {segment : List Char} {segments : List (List Char)} :
    s.next = some (some segment, s') → Yields s' segments → Yields s (segment :: segments)

end WwwAuthenticateSegments

theorem le_scanSegment (length index : ℕ) (quoted escaped : Bool) (bytes : List UInt8) :
    index ≤ (scanSegment length index quoted escaped bytes).2 := by
  induction bytes generalizing index quoted escaped with
  | nil => exact Nat.le_refl index
  | cons byte bytes ih =>
    have hnext : ∀ quoted escaped, index ≤ (scanSegment length (index + 1) quoted escaped bytes).2 :=
      fun quoted escaped ↦ Nat.le_of_succ_le (ih (index + 1) quoted escaped)
    rw [scanSegment]
    split_ifs
    all_goals first | exact hnext _ _ | exact Nat.le_succ index

theorem lt_scanSegment (length index : ℕ) (quoted escaped : Bool) {bytes : List UInt8} (h : bytes ≠ []) :
    index < (scanSegment length index quoted escaped bytes).2 := by
  cases bytes with
  | nil => exact absurd rfl h
  | cons byte bytes =>
    rw [scanSegment]
    split_ifs
    all_goals first | exact le_scanSegment _ (index + 1) _ _ _ | exact Nat.lt_succ_self index

/-- Every segment takes the iterator further into its value. -/
theorem WwwAuthenticateSegments.next_progress {s s' : WwwAuthenticateSegments} {segment : List Char}
    (h : s.next = some (some segment, s')) :
    byteLen s'.value - s'.offset < byteLen s.value - s.offset := by
  simp only [next] at h
  split at h
  · cases h
  · next hlt =>
    obtain ⟨found, -, heq⟩ := Option.map_eq_some_iff.mp h
    obtain ⟨-, rfl⟩ := Prod.mk.inj heq
    rw [length_utf8, ge_iff_le, Nat.not_le] at hlt
    have hne : (utf8 s.value).drop s.offset ≠ [] := by
      rwa [ne_eq, List.drop_eq_nil_iff, length_utf8, Nat.not_le]
    have hindex := lt_scanSegment (utf8 s.value).length s.offset false false hne
    dsimp only
    omega

/-- What the loop over the segments of a header does with one of them. -/
def negotiateSegment (segment : List Char) : Option (List Char) :=
  let challenge := trim segment
  match splitAt? challenge (byteLen httpNegotiate.toList) with
  | some (rest, suffix) =>
    if eqIgnoreAsciiCase (.ofList rest) httpNegotiate ∧ (suffix = [] ∨ suffix.head?.any isWhitespace) then
      some challenge
    else none
  | none => none

def negotiateLoop (segments : WwwAuthenticateSegments) : Option (Option (List Char)) :=
  match _h : segments.next with
  | none => none
  | some (none, _) => some none
  | some (some segment, segments) =>
    match negotiateSegment segment with
    | some challenge => some (some challenge)
    | none => negotiateLoop segments
  termination_by byteLen segments.value - segments.offset
  decreasing_by exact WwwAuthenticateSegments.next_progress _h

def negotiateChallenge (header : List Char) : Option (Option (List Char)) :=
  negotiateLoop (WwwAuthenticateSegments.new header)

end Segments

section Quoting

/-- Where a scan over a header stands. -/
inductive Quoting
  | outside
  | quoted
  | escaped
  deriving DecidableEq

namespace Quoting

def step : Quoting → Char → Quoting
  | outside, c => if c = '"' then quoted else outside
  | quoted, c => if c = '\\' then escaped else if c = '"' then outside else quoted
  | escaped, _ => quoted

def isQuoted (q : Quoting) : Bool := q ≠ outside

def isEscaped (q : Quoting) : Bool := q = escaped

end Quoting

/-- A header is cut at the commas outside of its quoted strings. -/
def commas : Scanner Quoting Char where
  start := .outside
  step := .step
  cuts q c := q = .outside ∧ c = ','
  step_of_cuts h := by
    obtain ⟨rfl, rfl⟩ := of_decide_eq_true h
    rfl

/-- Where one scan from the start of a header stands behind a text. -/
def quoting (text : List Char) : Quoting := commas.run .outside text

theorem commas_cuts {q : Quoting} {c : Char} : commas.cuts q c = true ↔ q = .outside ∧ c = ',' := decide_eq_true_iff

theorem commas_cuts_eq_false {q : Quoting} {c : Char} : commas.cuts q c = false ↔ ¬ (q = .outside ∧ c = ',') :=
  decide_eq_false_iff_not

variable {q : Quoting} {c : Char} {bytes : List UInt8}

theorem scanSegment_of_plain {plain : List UInt8}
    (h : ∀ byte ∈ plain, byte ≠ asciiByte '\\' ∧ byte ≠ asciiByte '"' ∧ byte ≠ asciiByte ',')
    (length index : ℕ) (quoted : Bool) (bytes : List UInt8) :
    scanSegment length index quoted false (plain ++ bytes) =
      scanSegment length (index + plain.length) quoted false bytes := by
  induction plain generalizing index with
  | nil => rfl
  | cons byte plain ih =>
    obtain ⟨⟨hbackslash, hquote, hcomma⟩, hplain⟩ := List.forall_mem_cons.mp h
    rw [List.cons_append, scanSegment, if_neg (by simp), if_neg (by simp [hbackslash]), if_neg hquote,
      if_neg (by simp [hcomma]), ih hplain, List.length_cons, Nat.add_right_comm, Nat.add_assoc]

theorem scanSegment_ascii (hc : c.utf8Size = 1) (hcuts : commas.cuts q c = false) (length index : ℕ)
    (bytes : List UInt8) :
    scanSegment length index q.isQuoted q.isEscaped (asciiByte c :: bytes) =
      scanSegment length (index + 1) (q.step c).isQuoted (q.step c).isEscaped bytes := by
  have hbackslash : asciiByte c = asciiByte '\\' ↔ c = '\\' := asciiByte_inj hc rfl
  have hquote : asciiByte c = asciiByte '"' ↔ c = '"' := asciiByte_inj hc rfl
  have hcomma : asciiByte c = asciiByte ',' ↔ c = ',' := asciiByte_inj hc rfl
  rw [commas_cuts_eq_false] at hcuts
  simp only [scanSegment, hbackslash, hquote, hcomma]
  cases q with
  | outside =>
    have hne : c ≠ ',' := fun heq ↦ hcuts ⟨rfl, heq⟩
    by_cases hc : c = '"' <;> simp [Quoting.step, Quoting.isQuoted, Quoting.isEscaped, hc, hne]
  | quoted =>
    by_cases hc : c = '\\'
    · simp [Quoting.step, Quoting.isQuoted, Quoting.isEscaped, hc]
    · by_cases hc' : c = '"' <;> simp [Quoting.step, Quoting.isQuoted, Quoting.isEscaped, hc, hc']
  | escaped => simp [Quoting.step, Quoting.isQuoted, Quoting.isEscaped]

theorem scanSegment_char (hcuts : commas.cuts q c = false) (length index : ℕ) (bytes : List UInt8) :
    scanSegment length index q.isQuoted q.isEscaped (String.utf8EncodeChar c ++ bytes) =
      scanSegment length (index + c.utf8Size) (q.step c).isQuoted (q.step c).isEscaped bytes := by
  by_cases hc : c.utf8Size = 1
  · rw [utf8EncodeChar_of_ascii hc, hc]
    exact scanSegment_ascii hc hcuts length index bytes
  · have hplain : ∀ byte ∈ String.utf8EncodeChar c,
        byte ≠ asciiByte '\\' ∧ byte ≠ asciiByte '"' ∧ byte ≠ asciiByte ',' :=
      fun byte hm ↦ ⟨ne_asciiByte_of_mem hc hm rfl, ne_asciiByte_of_mem hc hm rfl, ne_asciiByte_of_mem hc hm rfl⟩
    have hbackslash : c ≠ '\\' := by rintro rfl; exact hc rfl
    have hquote : c ≠ '"' := by rintro rfl; exact hc rfl
    cases q with
    | outside =>
      rw [Quoting.step, if_neg hquote, ← String.length_utf8EncodeChar]
      exact scanSegment_of_plain hplain length index false bytes
    | quoted =>
      rw [Quoting.step, if_neg hbackslash, if_neg hquote, ← String.length_utf8EncodeChar]
      exact scanSegment_of_plain hplain length index true bytes
    | escaped =>
      -- The escape takes in the first byte only, and the others are plain.
      obtain ⟨byte, more, hmore⟩ := List.exists_cons_of_ne_nil (String.utf8EncodeChar_ne_nil (c := c))
      have hlength : c.utf8Size = 1 + more.length := by
        rw [← String.length_utf8EncodeChar, hmore, List.length_cons, Nat.add_comm]
      have hescaped : Quoting.escaped.isEscaped = true := rfl
      rw [hmore] at hplain ⊢
      rw [List.cons_append, scanSegment, if_pos hescaped, hlength, ← Nat.add_assoc]
      exact scanSegment_of_plain (fun byte hm ↦ hplain byte (List.mem_cons_of_mem _ hm)) length (index + 1) true bytes

theorem scanSegment_append {text : List Char} (h : commas.Whole q text) (length index : ℕ) (bytes : List UInt8) :
    scanSegment length index q.isQuoted q.isEscaped (utf8 text ++ bytes) =
      scanSegment length (index + byteLen text) (commas.run q text).isQuoted (commas.run q text).isEscaped bytes := by
  induction text generalizing q index with
  | nil => rfl
  | cons c text ih =>
    obtain ⟨hcuts, h⟩ := Scanner.whole_cons.mp h
    rw [utf8_cons, List.append_assoc, scanSegment_char hcuts, byteLen_cons, ← Nat.add_assoc]
    exact ih h (index + c.utf8Size)

theorem scanSegment_whole {text : List Char} (h : commas.Whole .outside text) (length index : ℕ) :
    scanSegment length index false false (utf8 text) = (length, index + byteLen text) := by
  have happend := scanSegment_append h length index []
  rwa [List.append_nil] at happend

theorem scanSegment_comma {text : List Char} (h : commas.Whole .outside text)
    (hend : commas.run .outside text = .outside) (length index : ℕ) (bytes : List UInt8) :
    scanSegment length index false false (utf8 text ++ asciiByte ',' :: bytes) =
      (index + byteLen text, index + byteLen text + 1) := by
  refine (scanSegment_append h length index _).trans ?_
  rw [hend]
  rfl

theorem utf8Size_of_mem (h : c ∈ asciiWhitespace) : c.utf8Size = 1 := by
  have hall : asciiWhitespace.all (fun c ↦ c.utf8Size = 1) = true := by decide
  exact of_decide_eq_true (List.all_eq_true.mp hall c h)

theorem isAsciiWhitespace_iff (hc : c.utf8Size = 1) :
    isAsciiWhitespace (asciiByte c) = decide (c ∈ asciiWhitespace) := by
  refine decide_eq_decide.mpr ?_
  rw [List.mem_map]
  constructor
  · intro h
    obtain ⟨d, hd, heq⟩ := h
    exact (asciiByte_inj (utf8Size_of_mem hd) hc).mp heq ▸ hd
  · exact fun hm ↦ ⟨c, hm, rfl⟩

theorem takeWhile_isAsciiWhitespace (text : List Char) :
    (utf8 text).takeWhile isAsciiWhitespace = utf8 (text.takeWhile (· ∈ asciiWhitespace)) := by
  induction text with
  | nil => rfl
  | cons c text ih =>
    by_cases hc : c.utf8Size = 1
    · have hhead := isAsciiWhitespace_iff hc
      rw [utf8_cons, utf8EncodeChar_of_ascii hc, List.singleton_append, List.takeWhile_cons, List.takeWhile_cons, hhead,
        ih]
      split
      · rw [utf8_cons, utf8EncodeChar_of_ascii hc, List.singleton_append]
      · rfl
    · obtain ⟨byte, more, hmore⟩ := List.exists_cons_of_ne_nil (String.utf8EncodeChar_ne_nil (c := c))
      have hbyte : isAsciiWhitespace byte = false := by
        refine decide_eq_false fun hm ↦ ?_
        obtain ⟨d, hd, heq⟩ := List.mem_map.mp hm
        exact ne_asciiByte_of_mem hc (hmore ▸ List.mem_cons_self) (utf8Size_of_mem hd) heq.symm
      rw [utf8_cons, hmore, List.cons_append, List.takeWhile_cons_of_neg (by simp [hbyte]),
        List.takeWhile_cons_of_neg (by simpa using mt utf8Size_of_mem hc)]
      rfl

end Quoting

section Next

variable {front before after text : List Char}

namespace WwwAuthenticateSegments

theorem next_done (front : List Char) : next ⟨front, byteLen front⟩ = some (none, ⟨front, byteLen front⟩) := by
  simp only [next, length_utf8]
  exact if_pos (Nat.le_refl _)

theorem next_whole (hne : text ≠ []) (h : commas.Whole .outside text) :
    next ⟨front ++ text, byteLen front⟩ = some (some text, ⟨front ++ text, byteLen (front ++ text)⟩) := by
  have hlt := byteLen_pos hne
  have hend : (utf8 (front ++ text)).drop (byteLen front + byteLen text) = [] := by
    rw [List.drop_eq_nil_iff, length_utf8, byteLen_append]
  have hslice : slice? (front ++ text) (byteLen front) (byteLen front + byteLen text) = some text := by
    have hmiddle := slice?_append front text []
    rwa [List.append_nil] at hmiddle
  simp only [next, length_utf8, drop_utf8, scanSegment_whole h, hend, byteLen_append]
  rw [if_neg (by omega), hslice]
  rfl

theorem next_comma (h : commas.Whole .outside before) (hend : commas.run .outside before = .outside) :
    next ⟨front ++ (before ++ ',' :: after), byteLen front⟩ =
      some (some before, ⟨front ++ (before ++ ',' :: after),
        byteLen (front ++ (before ++ ',' :: after.takeWhile (· ∈ asciiWhitespace)))⟩) := by
  have hbytes : utf8 (before ++ ',' :: after) = utf8 before ++ asciiByte ',' :: utf8 after := by
    rw [utf8_append, utf8_cons]
    rfl
  have hdrop : (utf8 (front ++ (before ++ ',' :: after))).drop (byteLen front + byteLen before + 1) = utf8 after := by
    have hbehind := drop_utf8 (front ++ (before ++ [','])) after
    have hlength : byteLen (front ++ (before ++ [','])) = byteLen front + byteLen before + 1 := by
      rw [byteLen_append, byteLen_append, Nat.add_assoc]
      rfl
    rwa [hlength, List.append_assoc, List.append_assoc] at hbehind
  have hcomma : byteLen (front ++ (before ++ ',' :: after.takeWhile (· ∈ asciiWhitespace))) =
      byteLen front + byteLen before + 1 + byteLen (after.takeWhile (· ∈ asciiWhitespace)) := by
    have hone : ','.utf8Size = 1 := rfl
    rw [byteLen_append, byteLen_append, byteLen_cons, hone]
    omega
  have hlt : byteLen front < byteLen (front ++ (before ++ ',' :: after)) := by
    have hpos : 0 < byteLen (before ++ ',' :: after) := byteLen_pos (by simp)
    rw [byteLen_append]
    omega
  simp only [next, length_utf8, drop_utf8, hbytes, scanSegment_comma h hend, hdrop, takeWhile_isAsciiWhitespace, hcomma]
  rw [if_neg (by omega), slice?_append]
  rfl

end WwwAuthenticateSegments

end Next

section Pieces

variable {front text header : List Char} {pieces : List (List Char)}

/-- The pieces of a header between the commas outside of its quoted strings. -/
def headerPieces (header : List Char) : List (List Char) := commas.pieces .outside header

def skipWhitespace (text : List Char) : List Char := text.dropWhile (· ∈ asciiWhitespace)

def dropEmptyLast (pieces : List (List Char)) : List (List Char) :=
  if pieces.getLast? = some [] then pieces.dropLast else pieces

/-- The pieces as they are given, all but the first one without the whitespace before them. -/
def yielded : List (List Char) → List (List Char)
  | [] => []
  | piece :: pieces => dropEmptyLast (piece :: pieces.map skipWhitespace)

theorem dropEmptyLast_cons {piece : List Char} (h : pieces ≠ []) :
    dropEmptyLast (piece :: pieces) = piece :: dropEmptyLast pieces := by
  unfold dropEmptyLast
  rw [List.getLast?_cons_of_ne_nil h, List.dropLast_cons_of_ne_nil h]
  split <;> rfl

theorem yielded_modifyHead (pieces : List (List Char)) :
    yielded (pieces.modifyHead skipWhitespace) = dropEmptyLast (pieces.map skipWhitespace) := by
  cases pieces with
  | nil => rfl
  | cons piece pieces => rfl

theorem commas_of_whitespace {c : Char} (hc : isWhitespace c = true) :
    commas.cuts .outside c = false ∧ commas.step .outside c = .outside := by
  rw [commas_cuts_eq_false]
  refine ⟨?_, if_neg ?_⟩
  · intro h
    obtain ⟨-, rfl⟩ := h
    cases hc
  · intro heq
    subst heq
    cases hc

theorem isWhitespace_of_mem {c : Char} (h : c ∈ asciiWhitespace) : isWhitespace c = true := by
  have hall : asciiWhitespace.all isWhitespace = true := by decide
  exact List.all_eq_true.mp hall c h

theorem headerPieces_skipWhitespace (text : List Char) :
    headerPieces (skipWhitespace text) = (headerPieces text).modifyHead skipWhitespace :=
  (Scanner.modifyHead_dropWhile_pieces
    (fun _ hc ↦ commas_of_whitespace (isWhitespace_of_mem (of_decide_eq_true hc))) text).symm

open WwwAuthenticateSegments

/-- From any place in its value the iterator gives the pieces of the rest, and ends. -/
theorem yields_headerPieces (front text : List Char) :
    Yields ⟨front ++ text, byteLen front⟩ (yielded (headerPieces text)) := by
  induction hlength : text.length using Nat.strongRecOn generalizing front text with
  | _ n ih =>
    by_cases hne : text = []
    · subst hne
      rw [List.append_nil]
      exact .done (next_done front)
    rcases Scanner.whole_or_exists_cut (S := commas) .outside text with h | ⟨before, c, after, rfl, h, hcut⟩
    · have hpieces : yielded (headerPieces text) = [text] := by
        rw [headerPieces, Scanner.pieces_of_whole h]
        exact if_neg fun heq ↦ hne (Option.some.inj heq)
      rw [hpieces]
      exact .more (next_whole hne h) (.done (next_done _))
    · obtain ⟨hend, rfl⟩ := commas_cuts.mp hcut
      have hpieces : yielded (headerPieces (before ++ ',' :: after)) =
          before :: yielded (headerPieces (skipWhitespace after)) := by
        have hcons : headerPieces (before ++ ',' :: after) = before :: headerPieces after :=
          Scanner.pieces_append_cons h hcut after
        have hafter : (headerPieces after).map skipWhitespace ≠ [] :=
          mt List.map_eq_nil_iff.mp (Scanner.pieces_ne_nil _ _)
        rw [hcons, yielded, dropEmptyLast_cons hafter, headerPieces_skipWhitespace, yielded_modifyHead]
      have hvalue : front ++ (before ++ ',' :: after) =
          front ++ (before ++ ',' :: after.takeWhile (· ∈ asciiWhitespace)) ++ skipWhitespace after := by
        rw [List.append_assoc, List.append_assoc, List.cons_append, skipWhitespace, List.takeWhile_append_dropWhile]
      have hshorter : (skipWhitespace after).length < n := by
        have hle : (skipWhitespace after).length ≤ after.length := (List.dropWhile_suffix _).length_le
        rw [List.length_append, List.length_cons] at hlength
        omega
      rw [hpieces]
      refine .more (next_comma h hend) ?_
      rw [hvalue]
      exact ih _ hshorter _ _ rfl

/-- The pieces make up the header, a scan from its start is outside of quotes before each of them, and
within them it is so at no comma. -/
structure Splits (header : List Char) (pieces : List (List Char)) : Prop where
  rejoin : [','].intercalate pieces = header
  cut : ∀ front piece back, pieces = front ++ piece :: back → quoting (front.flatMap (· ++ [','])) = .outside
  whole : ∀ front piece back before after, pieces = front ++ piece :: back → piece = before ++ ',' :: after →
    quoting (front.flatMap (· ++ [',']) ++ before) ≠ .outside

theorem eq_comma_of_cuts {q : Quoting} {c : Char} (h : commas.cuts q c = true) : c = ',' := (commas_cuts.mp h).2

theorem splits_headerPieces (header : List Char) : Splits header (headerPieces header) where
  rejoin := Scanner.intercalate_pieces eq_comma_of_cuts header
  cut _ _ _ h := (Scanner.run_front_pieces eq_comma_of_cuts h).1
  whole front piece back before after h hpiece := by
    obtain ⟨hstart, hwhole⟩ := Scanner.run_front_pieces eq_comma_of_cuts h
    intro hquoting
    rw [quoting, Scanner.run_append] at hquoting
    have hcomma := hwhole before ',' after hpiece
    rw [commas_cuts_eq_false] at hcomma
    have hfront : commas.run .outside (front.flatMap (· ++ [','])) = .outside := hstart
    rw [hfront] at hquoting
    exact hcomma ⟨hquoting, rfl⟩

end Pieces

section Negotiate

variable {segment challenge header text : List Char} {pieces : List (List Char)}

/-- The scheme of a challenge is its first word. -/
def schemeToken (challenge : List Char) : List Char := challenge.takeWhile (!isWhitespace ·)

def IsNegotiate (challenge : List Char) : Prop :=
  toAsciiLowercase (schemeToken challenge) = toAsciiLowercase httpNegotiate.toList

instance : DecidablePred IsNegotiate := fun _ ↦ inferInstanceAs (Decidable (_ = _))

theorem eqIgnoreAsciiCase_ofList (text : List Char) :
    eqIgnoreAsciiCase (.ofList text) httpNegotiate = true ↔
      toAsciiLowercase text = toAsciiLowercase httpNegotiate.toList := by
  have hlower : ∀ s : String, s.toLower.toList = toAsciiLowercase s.toList := fun _ ↦ String.toList_map
  rw [eqIgnoreAsciiCase, decide_eq_true_iff, ← String.toList_inj, hlower, hlower, String.toList_ofList]

theorem plain_of_toLower {c : Char} (h : c.toLower ∈ toAsciiLowercase httpNegotiate.toList) :
    isWhitespace c = false ∧ c.utf8Size = 1 := by
  by_cases hupper : c.val ≥ 'A'.val ∧ c.val ≤ 'Z'.val
  · have hlow : 65 ≤ c.val.toNat := UInt32.le_iff_toNat_le.mp hupper.1
    have hhigh : c.val.toNat ≤ 90 := UInt32.le_iff_toNat_le.mp hupper.2
    constructor
    · have hne : ∀ n, n < 65 ∨ 90 < n → c.toNat ≠ n := by
        intro n hn heq
        subst heq
        change c.val.toNat < 65 ∨ 90 < c.val.toNat at hn
        omega
      change 65 ≤ c.toNat at hlow
      change c.toNat ≤ 90 at hhigh
      simp only [isWhitespace, Bool.or_eq_false_iff, decide_eq_false_iff_not]
      omega
    · rw [Char.utf8Size_eq_one_iff, UInt32.le_iff_toNat_le]
      exact Nat.le_trans hhigh (by decide)
  · rw [toLower_of_not_upper hupper] at h
    have hall : (toAsciiLowercase httpNegotiate.toList).all (fun c ↦ isWhitespace c = false ∧ c.utf8Size = 1) =
        true := by
      decide
    exact of_decide_eq_true (List.all_eq_true.mp hall c h)

theorem plain_of_mem {c : Char} (h : toAsciiLowercase text = toAsciiLowercase httpNegotiate.toList) (hc : c ∈ text) :
    isWhitespace c = false ∧ c.utf8Size = 1 :=
  plain_of_toLower (h ▸ List.mem_map_of_mem hc)

theorem isNegotiate_iff (challenge : List Char) :
    IsNegotiate challenge ↔ ∃ rest suffix, splitAt? challenge (byteLen httpNegotiate.toList) = some (rest, suffix) ∧
      eqIgnoreAsciiCase (.ofList rest) httpNegotiate = true ∧ (suffix = [] ∨ suffix.head?.any isWhitespace = true) := by
  simp only [eqIgnoreAsciiCase_ofList]
  constructor
  · intro h
    have hlength : byteLen (schemeToken challenge) = byteLen httpNegotiate.toList := by
      have hmap := congrArg List.length h
      rw [toAsciiLowercase, toAsciiLowercase, List.length_map, List.length_map] at hmap
      rw [byteLen_of_ascii fun c hc ↦ (plain_of_mem h hc).2, hmap]
      rfl
    refine ⟨schemeToken challenge, challenge.dropWhile (!isWhitespace ·), ?_, h, ?_⟩
    · have hsplit := splitAt?_append (schemeToken challenge) (challenge.dropWhile (!isWhitespace ·))
      rwa [schemeToken, List.takeWhile_append_dropWhile, ← schemeToken, hlength] at hsplit
    · cases hrest : challenge.dropWhile (!isWhitespace ·) with
      | nil => exact .inl rfl
      | cons c rest =>
        have hhead := List.head?_dropWhile_not (!isWhitespace ·) challenge
        rw [hrest] at hhead
        exact .inr (by simpa using hhead)
  · intro h
    obtain ⟨rest, suffix, hsplit, h, hsuffix⟩ := h
    have hscheme : schemeToken challenge = rest := by
      have hrest : ∀ c ∈ rest, (!isWhitespace c) = true := fun c hc ↦ by rw [(plain_of_mem h hc).1]; rfl
      rw [append_of_splitAt? hsplit, schemeToken, List.takeWhile_append_of_pos hrest]
      rcases hsuffix with rfl | hsuffix
      · exact List.append_nil rest
      · cases suffix with
        | nil => cases hsuffix
        | cons c suffix =>
          have hc : isWhitespace c = true := hsuffix
          rw [List.takeWhile_cons_of_neg (by simp [hc]), List.append_nil]
    rw [IsNegotiate, hscheme, h]

theorem negotiateSegment_eq (segment : List Char) :
    negotiateSegment segment = if IsNegotiate (trim segment) then some (trim segment) else none := by
  have hnegotiate := isNegotiate_iff (trim segment)
  simp only [negotiateSegment]
  cases hsplit : splitAt? (trim segment) (byteLen httpNegotiate.toList) with
  | none =>
    have hnot : ¬ IsNegotiate (trim segment) := by simp [hnegotiate, hsplit]
    exact (if_neg hnot).symm
  | some parts =>
    obtain ⟨rest, suffix⟩ := parts
    have hparts : (eqIgnoreAsciiCase (.ofList rest) httpNegotiate = true ∧
        (suffix = [] ∨ suffix.head?.any isWhitespace = true)) ↔ IsNegotiate (trim segment) := by
      simp [hnegotiate, hsplit]
    exact if_congr hparts rfl rfl

theorem trim_skipWhitespace (text : List Char) : trim (skipWhitespace text) = trim text := by
  have hdrop : (skipWhitespace text).dropWhile isWhitespace = text.dropWhile isWhitespace := by
    induction text with
    | nil => rfl
    | cons c text ih =>
      by_cases hc : c ∈ asciiWhitespace
      · rw [skipWhitespace, List.dropWhile_cons_of_pos (by simpa using hc),
          List.dropWhile_cons_of_pos (isWhitespace_of_mem hc)]
        exact ih
      · rw [skipWhitespace, List.dropWhile_cons_of_neg (by simpa using hc)]
  rw [trim, hdrop, ← trim]

theorem findSome?_dropEmptyLast (pieces : List (List Char)) :
    (dropEmptyLast pieces).findSome? negotiateSegment = pieces.findSome? negotiateSegment := by
  unfold dropEmptyLast
  split
  · next h =>
    obtain ⟨front, rfl⟩ := List.getLast?_eq_some_iff.mp h
    have hempty : negotiateSegment [] = none := by
      rw [negotiateSegment_eq, if_neg (by decide)]
    rw [List.dropLast_concat, List.findSome?_append, List.findSome?_singleton, hempty, Option.or_none]
  · rfl

theorem findSome?_yielded (pieces : List (List Char)) :
    (yielded pieces).findSome? negotiateSegment = (pieces.map trim).find? (IsNegotiate ·) := by
  have hskip : ∀ pieces : List (List Char), (pieces.map skipWhitespace).findSome? negotiateSegment =
      pieces.findSome? negotiateSegment := by
    intro pieces
    rw [List.findSome?_map]
    congr 1
    funext piece
    rw [Function.comp_apply, negotiateSegment_eq, negotiateSegment_eq, trim_skipWhitespace]
  have hfind : ∀ pieces : List (List Char), pieces.findSome? negotiateSegment =
      (pieces.map trim).find? (IsNegotiate ·) := by
    intro pieces
    induction pieces with
    | nil => rfl
    | cons piece pieces ih =>
      rw [List.findSome?_cons, negotiateSegment_eq, ih, List.map_cons, List.find?_cons]
      by_cases h : IsNegotiate (trim piece) <;> simp [h]
  cases pieces with
  | nil => rfl
  | cons piece pieces =>
    rw [yielded, findSome?_dropEmptyLast, ← hfind, List.findSome?_cons, List.findSome?_cons, hskip]

theorem negotiateLoop_of_yields {s : WwwAuthenticateSegments} {segments : List (List Char)} (h : s.Yields segments) :
    negotiateLoop s = some (segments.findSome? negotiateSegment) := by
  induction h with
  | done hnext =>
    unfold negotiateLoop
    split
    · next heq =>
      rw [hnext] at heq
      cases heq
    · rfl
    · next heq =>
      rw [hnext] at heq
      cases heq
  | more hnext _ ih =>
    unfold negotiateLoop
    split
    · next heq =>
      rw [hnext] at heq
      cases heq
    · next heq =>
      rw [hnext] at heq
      cases heq
    · next heq =>
      rw [hnext] at heq
      cases heq
      rw [List.findSome?_cons]
      split
      · next hsegment => rw [hsegment]
      · next hsegment => rw [hsegment, ih]

theorem intercalate_append_cons (front back : List (List Char)) (piece : List Char) :
    ∃ rest, [','].intercalate (front ++ piece :: back) = front.flatMap (· ++ [',']) ++ piece ++ rest := by
  induction front with
  | nil =>
    cases back with
    | nil => exact ⟨[], by simp⟩
    | cons next back => exact ⟨',' :: [','].intercalate (next :: back), by simp⟩
  | cons first front ih =>
    obtain ⟨rest, hrest⟩ := ih
    refine ⟨rest, ?_⟩
    rw [List.cons_append, List.intercalate_cons_of_ne_nil (by simp), hrest, List.flatMap_cons]
    simp

/-- What is trimmed off before a piece leaves the scan outside of quotes. -/
theorem exists_trim (text : List Char) :
    ∃ before after, text = before ++ trim text ++ after ∧ commas.run .outside before = .outside := by
  have hrun : ∀ front : List Char, (∀ c ∈ front, isWhitespace c = true) → commas.run .outside front = .outside := by
    intro front hfront
    induction front with
    | nil => rfl
    | cons c front ih =>
      obtain ⟨hc, hfront⟩ := List.forall_mem_cons.mp hfront
      rw [Scanner.run_cons, (commas_of_whitespace hc).2, ih hfront]
  obtain ⟨after, hafter⟩ := trimEndMatches_start isWhitespace (text.dropWhile isWhitespace)
  refine ⟨text.takeWhile isWhitespace, after, ?_, hrun _ fun c hc ↦ List.mem_takeWhile_imp hc⟩
  have htrim : trim text ++ after = text.dropWhile isWhitespace := hafter
  rw [List.append_assoc, htrim, List.takeWhile_append_dropWhile]

theorem negotiateChallenge_eq (header : List Char) :
    negotiateChallenge header = some (((headerPieces header).map trim).find? (IsNegotiate ·)) := by
  rw [negotiateChallenge, ← findSome?_yielded]
  exact negotiateLoop_of_yields (yields_headerPieces [] header)

/-- A header is split by the commas outside of its quoted strings, and the challenge is the first piece
whose scheme is Negotiate. It does not start within a quoted string. -/
theorem negotiateChallenge_splits (header : List Char) :
    Splits header (headerPieces header) ∧
    (WwwAuthenticateSegments.new header).Yields (yielded (headerPieces header)) ∧
    negotiateChallenge header = some (((headerPieces header).map trim).find? (IsNegotiate ·)) ∧
    ∀ challenge, negotiateChallenge header = some (some challenge) →
      ∃ before after, header = before ++ challenge ++ after ∧ quoting before = .outside := by
  have hsplits := splits_headerPieces header
  refine ⟨hsplits, yields_headerPieces [] header, negotiateChallenge_eq header, fun challenge hfound ↦ ?_⟩
  rw [negotiateChallenge_eq, Option.some.injEq] at hfound
  obtain ⟨piece, hpiece, rfl⟩ := List.mem_map.mp (List.mem_of_find?_eq_some hfound)
  obtain ⟨front, back, hpieces⟩ := List.append_of_mem hpiece
  obtain ⟨rest, hrest⟩ := intercalate_append_cons front back piece
  obtain ⟨before, after, htrim, hrun⟩ := exists_trim piece
  refine ⟨front.flatMap (· ++ [',']) ++ before, after ++ rest, ?_, ?_⟩
  · have hrejoin := hsplits.rejoin
    rw [hpieces, hrest, htrim] at hrejoin
    rw [← hrejoin]
    simp only [List.append_assoc]
  · have hfront : commas.run .outside (front.flatMap (· ++ [','])) = .outside := hsplits.cut front piece back hpieces
    rw [quoting, Scanner.run_append, hfront, hrun]

end Negotiate

end Rskrb5.Http
