import Rskrb5.Spnego

namespace Rskrb5.Spnego

open Lib.Results Lib.Readers

section Octets

/-- The octets of each number: they end at an octet with a clear high bit. What stands behind the
last such octet counts as one more number. -/
def subidentifiers : Bytes → List Bytes
  | [] => []
  | byte :: rest =>
    if byte < 128 then [byte] :: subidentifiers rest
    else
      match subidentifiers rest with
      | [] => [[byte]]
      | group :: groups => (byte :: group) :: groups

def base128 (group : Bytes) : ℕ := group.foldl (fun value byte ↦ value * 128 + byte.toNat % 128) 0

/-- The octets do not end inside a number. -/
def endsOnNumber (octets : Bytes) : Prop := ∀ last ∈ octets.getLast?, last < 128

structure IsGroup (group : Bytes) : Prop where
  split : ∃ init last, group = init ++ [last] ∧ (∀ byte ∈ init, 128 ≤ byte) ∧ last < 128

theorem subidentifiers_append {group : Bytes} (h : IsGroup group) (rest : Bytes) :
    subidentifiers (group ++ rest) = group :: subidentifiers rest := by
  obtain ⟨init, last, rfl, hinit, hlast⟩ := h
  induction init with
  | nil => rw [List.nil_append, List.singleton_append, subidentifiers, if_pos hlast]
  | cons byte init ih =>
    have hbyte : ¬ byte < 128 := UInt8.not_lt.mpr (hinit byte List.mem_cons_self)
    rw [List.cons_append, List.cons_append, subidentifiers, if_neg hbyte,
      ih fun b hb ↦ hinit b (List.mem_cons_of_mem byte hb)]

theorem subidentifiers_flatten {groups : List Bytes} (h : ∀ group ∈ groups, IsGroup group) (rest : Bytes) :
    subidentifiers (groups.flatten ++ rest) = groups ++ subidentifiers rest := by
  induction groups with
  | nil => rfl
  | cons group groups ih =>
    rw [List.flatten_cons, List.append_assoc, subidentifiers_append (h group List.mem_cons_self),
      ih fun g hg ↦ h g (List.mem_cons_of_mem group hg), List.cons_append]

/-- Octets are numbers and what is left of one. -/
theorem exists_groups (octets : Bytes) : ∃ groups tail, octets = List.flatten groups ++ tail ∧
    (∀ group ∈ groups, IsGroup group) ∧ ∀ byte ∈ tail, 128 ≤ byte := by
  induction octets with
  | nil => exact ⟨[], [], rfl, by simp, by simp⟩
  | cons byte octets ih =>
    obtain ⟨groups, tail, rfl, hgroups, htail⟩ := ih
    by_cases hbyte : byte < 128
    · have hsingle : IsGroup [byte] := ⟨[], byte, rfl, by simp, hbyte⟩
      exact ⟨[byte] :: groups, tail, rfl, List.forall_mem_cons.mpr ⟨hsingle, hgroups⟩, htail⟩
    · have hhigh : 128 ≤ byte := UInt8.not_lt.mp hbyte
      cases groups with
      | nil => exact ⟨[], byte :: tail, rfl, by simp, List.forall_mem_cons.mpr ⟨hhigh, htail⟩⟩
      | cons group groups =>
        obtain ⟨⟨init, last, rfl, hinit, hlast⟩, hothers⟩ := List.forall_mem_cons.mp hgroups
        have hgroup : IsGroup (byte :: (init ++ [last])) :=
          ⟨byte :: init, last, rfl, List.forall_mem_cons.mpr ⟨hhigh, hinit⟩, hlast⟩
        exact ⟨_ :: groups, tail, rfl, List.forall_mem_cons.mpr ⟨hgroup, hothers⟩, htail⟩

theorem endsOnNumber_iff {groups : List Bytes} {tail : Bytes} (hgroups : ∀ group ∈ groups, IsGroup group)
    (htail : ∀ byte ∈ tail, 128 ≤ byte) : endsOnNumber (groups.flatten ++ tail) ↔ tail = [] := by
  constructor
  · intro h
    by_contra hne
    have hlast : (groups.flatten ++ tail).getLast? = some (tail.getLast hne) := by
      rw [List.getLast?_append_of_ne_nil _ hne, List.getLast?_eq_some_getLast hne]
    exact UInt8.not_lt.mpr (htail _ (List.getLast_mem hne)) (h _ hlast)
  · intro heq last hlast
    subst heq
    rw [List.append_nil] at hlast
    rcases List.eq_nil_or_concat groups with rfl | ⟨init, group, rfl⟩
    · cases hlast
    obtain ⟨octets, byte, rfl, -, hbyte⟩ := hgroups group (by simp)
    rw [List.concat_eq_append, List.flatten_append, List.flatten_singleton, ← List.append_assoc,
      List.getLast?_concat] at hlast
    exact Option.some.inj hlast ▸ hbyte

end Octets

section Accumulators

/-- The number that the source's accumulator comes to hold. -/
def arcOf (group : Bytes) : UInt32 := UInt32.ofNat (base128 group)

/-- A shift by `k` bits and a digit below them, but for the bits that leave the 32. -/
theorem mul_or_digit {k value digit : ℕ} (hk : k ≤ 32) (hdigit : digit < 2 ^ k) :
    value * 2 ^ k % 2 ^ 32 ||| digit = (value * 2 ^ k + digit) % 2 ^ 32 := by
  obtain ⟨m, hm⟩ := Nat.exists_eq_add_of_le hk
  have hpow : 2 ^ 32 = 2 ^ m * 2 ^ k := by rw [hm, Nat.pow_add, Nat.mul_comm]
  have hhigh : value * 2 ^ k % 2 ^ 32 = value % 2 ^ m * 2 ^ k := by rw [hpow, Nat.mul_mod_mul_right]
  have hlt : value % 2 ^ m * 2 ^ k + digit < 2 ^ 32 := by
    have hmod : value % 2 ^ m + 1 ≤ 2 ^ m := Nat.mod_lt _ (Nat.two_pow_pos m)
    calc value % 2 ^ m * 2 ^ k + digit < (value % 2 ^ m + 1) * 2 ^ k := by rw [Nat.succ_mul]; omega
      _ ≤ 2 ^ 32 := by rw [hpow]; exact Nat.mul_le_mul_right _ hmod
  have hsum : (value * 2 ^ k + digit) % 2 ^ 32 = value % 2 ^ m * 2 ^ k + digit := by
    rw [Nat.add_mod, hhigh, Nat.mod_eq_of_lt (a := digit) (by omega), Nat.mod_eq_of_lt hlt]
  rw [hhigh, hsum, ← Nat.shiftLeft_eq, ← Nat.shiftLeft_add_eq_or_of_lt hdigit]

theorem shift7_or (value : ℕ) (byte : UInt8) :
    (UInt32.ofNat value <<< 7) ||| (byte &&& 0x7f).toUInt32 = UInt32.ofNat (value * 128 + byte.toNat % 128) := by
  have hlow : (byte &&& 0x7f).toUInt32.toNat = byte.toNat % 128 := by
    rw [UInt8.toNat_toUInt32, UInt8.toNat_and]
    exact Nat.and_two_pow_sub_one_eq_mod byte.toNat 7
  apply UInt32.toNat_inj.mp
  rw [UInt32.toNat_or, hlow, UInt32.toNat_shiftLeft, UInt32.toNat_ofNat', UInt32.toNat_ofNat']
  change (value % 2 ^ 32) <<< 7 % 2 ^ 32 ||| _ = _
  rw [Nat.shiftLeft_eq, Nat.mod_mul_mod]
  exact mul_or_digit (k := 7) (by decide) (Nat.mod_lt _ (by decide))

theorem shift8_or (value : ℕ) (byte : UInt8) :
    (UInt32.ofNat value <<< 8) ||| byte.toUInt32 = UInt32.ofNat (value * 256 + byte.toNat) := by
  apply UInt32.toNat_inj.mp
  rw [UInt32.toNat_or, UInt8.toNat_toUInt32, UInt32.toNat_shiftLeft, UInt32.toNat_ofNat', UInt32.toNat_ofNat']
  change (value % 2 ^ 32) <<< 8 % 2 ^ 32 ||| _ = _
  rw [Nat.shiftLeft_eq, Nat.mod_mul_mod]
  exact mul_or_digit (k := 8) (by decide) byte.toNat_lt

end Accumulators

section Reading

theorem and_high_eq_zero_iff (byte : UInt8) : byte &&& 0x80 = 0 ↔ byte < 128 := by
  constructor
  · intro h
    exact UInt8.lt_iff_toNat_lt.mpr (lt_of_and_high h)
  · intro h
    have hlow := low_and_high byte.toNat (UInt8.lt_iff_toNat_lt.mp h)
    rwa [UInt8.ofNat_toNat] at hlow

theorem reads_readArcTurn (value : ℕ) (byte : UInt8) :
    Reads (readArcTurn (UInt32.ofNat value)) [byte]
      (if byte < 128 then .done (UInt32.ofNat (value * 128 + byte.toNat % 128))
      else .yield (UInt32.ofNat (value * 128 + byte.toNat % 128))) := by
  refine (reads_readByte _ byte).last ?_
  simp only [shift7_or, and_high_eq_zero_iff]
  exact .pure _

/-- An octet that does not end a number moves the loop on. -/
theorem run_readArc_high (value : ℕ) {byte : UInt8} (h : 128 ≤ byte) (offset : ℕ) (rest : Bytes) :
    (loop (fun _ ↦ true) readArcTurn (UInt32.ofNat value)).run ⟨offset, byte :: rest⟩ =
      (loop (fun _ ↦ true) readArcTurn (UInt32.ofNat (value * 128 + byte.toNat % 128))).run
        ⟨offset + 1, rest⟩ := by
  have hturn := reads_readArcTurn value byte offset rest
  rw [if_neg (UInt8.not_lt.mpr h), List.singleton_append] at hturn
  rw [run_loop ne_nil_of_readArcTurn, if_pos rfl, run_bind_of_ok hturn]
  rfl

theorem reads_group {group : Bytes} (h : IsGroup group) : Reads readArc group (arcOf group) := by
  obtain ⟨init, last, rfl, hinit, hlast⟩ := h
  have hloop : ∀ value, Reads (loop (fun _ ↦ true) readArcTurn (UInt32.ofNat value)) (init ++ [last])
      (UInt32.ofNat ((init ++ [last]).foldl (fun value byte ↦ value * 128 + byte.toNat % 128) value)) := by
    induction init with
    | nil =>
      intro value
      have hturn := reads_readArcTurn value last
      rw [if_pos hlast] at hturn
      exact .loop_turn ne_nil_of_readArcTurn (fun _ ↦ rfl) (hturn.last (.pure _))
    | cons byte init ih =>
      intro value offset rest
      rw [List.cons_append, List.cons_append, run_readArc_high value (hinit byte List.mem_cons_self),
        ih (fun b hb ↦ hinit b (List.mem_cons_of_mem byte hb)), List.length_cons, Nat.add_assoc, Nat.add_comm 1]
      rfl
  exact hloop 0

theorem run_readArc_tail {tail : Bytes} (h : ∀ byte ∈ tail, 128 ≤ byte) (value offset : ℕ) :
    (loop (fun _ ↦ true) readArcTurn (UInt32.ofNat value)).run ⟨offset, tail⟩ = .error .invalidOidEncoding := by
  induction tail generalizing value offset with
  | nil =>
    rw [run_loop ne_nil_of_readArcTurn]
    rfl
  | cons byte tail ih =>
    rw [run_readArc_high value (h byte List.mem_cons_self)]
    exact ih (fun b hb ↦ h b (List.mem_cons_of_mem byte hb)) _ _

theorem ne_nil_of_arcsTurn (arcs : List UInt32) :
    Parses (do return .yield (arcs ++ [← readArc]) : DerReader (ForInStep (List UInt32))) fun _ used ↦ used ≠ [] :=
  parses_readArc.bind fun arc used h ↦ .pure (by simpa using h.1)

/-- The arcs behind the first two, when the octets do not end inside a number. -/
theorem run_arcs {groups : List Bytes} {tail : Bytes} (hgroups : ∀ group ∈ groups, IsGroup group)
    (htail : ∀ byte ∈ tail, 128 ≤ byte) (arcs : List UInt32) (offset : ℕ) :
    ((loop hasRest (fun arcs ↦ do return .yield (arcs ++ [← readArc])) arcs : DerReader (List UInt32)).run
      ⟨offset, groups.flatten ++ tail⟩).map Prod.fst =
        if tail = [] then .ok (arcs ++ groups.map arcOf) else .error .invalidOidEncoding := by
  induction groups generalizing arcs offset with
  | nil =>
    rw [run_loop ne_nil_of_arcsTurn, List.flatten_nil, List.nil_append]
    cases tail with
    | nil => simp [hasRest, Except.map]
    | cons byte tail =>
      have hfails : readArc.run ⟨offset, byte :: tail⟩ = .error .invalidOidEncoding :=
        run_readArc_tail htail 0 offset
      have hmore : hasRest ⟨offset, byte :: tail⟩ = true := rfl
      rw [if_pos hmore, if_neg (by simp), bind_assoc, StateT.run_bind, hfails]
      rfl
  | cons group groups ih =>
    obtain ⟨hgroup, hothers⟩ := List.forall_mem_cons.mp hgroups
    have hread : Reads (do return .yield (arcs ++ [← readArc]) : DerReader (ForInStep (List UInt32))) group
        (.yield (arcs ++ [arcOf group])) := (reads_group hgroup).last (.pure _)
    have hne : group ≠ [] := ne_nil_of_reads (parses_readArc.mono fun _ _ h ↦ h.1) (reads_group hgroup)
    have hmore : hasRest ⟨offset, group ++ (groups.flatten ++ tail)⟩ = true := by simp [hasRest, hne]
    rw [List.flatten_cons, List.append_assoc, run_loop ne_nil_of_arcsTurn, if_pos hmore,
      run_bind_of_ok (hread offset _)]
    rw [List.map_cons, List.append_cons arcs (arcOf group) (groups.map arcOf)]
    exact ih hothers _ _

/-- The decoder takes its first octet for the first two arcs, and each number behind it modulo `2 ^ 32`. -/
theorem decodeOidValue_cons (first : UInt8) (rest : Bytes) [Decidable (endsOnNumber rest)] :
    decodeOidValue (first :: rest) =
      if endsOnNumber rest then
        fromArcs ((first / 40).toUInt32 :: (first % 40).toUInt32 :: (subidentifiers rest).map arcOf)
      else .error .invalidOidEncoding := by
  obtain ⟨groups, tail, rfl, hgroups, htail⟩ := exists_groups rest
  have harcs := run_arcs hgroups htail [] 0
  have hread : ((readInput (untilEnd readArc) (groups.flatten ++ tail)).map Prod.fst) =
      if tail = [] then .ok (groups.map arcOf) else .error .invalidOidEncoding := harcs
  have hends := endsOnNumber_iff hgroups htail
  have hdecode : decodeOidValue (first :: (groups.flatten ++ tail)) =
      ((readInput (untilEnd readArc) (groups.flatten ++ tail)).map Prod.fst >>= fun arcs ↦
        fromArcs ((first / 40).toUInt32 :: (first % 40).toUInt32 :: arcs)) := by
    rw [decodeOidValue]
    cases readInput (untilEnd readArc) (groups.flatten ++ tail) <;> rfl
  rw [hdecode, hread]
  by_cases htail : tail = []
  · rw [if_pos htail, if_pos (hends.mpr htail), htail, subidentifiers_flatten hgroups, subidentifiers,
      List.append_nil]
    rfl
  · rw [if_neg htail, if_neg fun h ↦ htail (hends.mp h)]
    rfl

theorem toNat_div_40 (first : UInt8) : (first / 40).toUInt32.toNat = first.toNat / 40 := by
  rw [UInt8.toNat_toUInt32, UInt8.toNat_div]
  rfl

theorem toNat_mod_40 (first : UInt8) : (first % 40).toUInt32.toNat = first.toNat % 40 := by
  rw [UInt8.toNat_toUInt32, UInt8.toNat_mod]
  rfl

theorem decodeOidValue_of_le {first : UInt8} (h : 120 ≤ first) (rest : Bytes) :
    ∃ e, decodeOidValue (first :: rest) = .error e := by
  classical
  rw [decodeOidValue_cons]
  split
  · have hfirst : 120 ≤ first.toNat := UInt8.le_iff_toNat_le.mp h
    have hbig : ¬ (first / 40).toUInt32 ≤ 2 := by
      rw [UInt32.le_iff_toNat_le, toNat_div_40]
      change ¬ first.toNat / 40 ≤ 2
      omega
    exact ⟨.invalidOid, dif_neg fun hvalid ↦ hbig (of_decide_eq_true hvalid).1⟩
  · exact ⟨_, rfl⟩

theorem decodeOidValue_of_lt {first : UInt8} (h : first < 120) {rest : Bytes} (hends : endsOnNumber rest) :
    ∃ oid, decodeOidValue (first :: rest) = .ok oid ∧
      oid.arcs = (first / 40).toUInt32 :: (first % 40).toUInt32 :: (subidentifiers rest).map arcOf := by
  classical
  have hfirst : first.toNat < 120 := UInt8.lt_iff_toNat_lt.mp h
  have hdiv : (first / 40).toUInt32 ≤ 2 := by
    rw [UInt32.le_iff_toNat_le, toNat_div_40]
    change first.toNat / 40 ≤ 2
    omega
  have hmod : (first % 40).toUInt32 < 40 := by
    rw [UInt32.lt_iff_toNat_lt, toNat_mod_40]
    exact Nat.mod_lt _ (by decide)
  have hvalid : validArcs ((first / 40).toUInt32 :: (first % 40).toUInt32 :: (subidentifiers rest).map arcOf) =
      true := decide_eq_true ⟨hdiv, fun _ ↦ hmod⟩
  exact ⟨⟨_, hvalid⟩, by rw [decodeOidValue_cons, if_pos hends, fromArcs, dif_pos hvalid], rfl⟩

end Reading

section Oversized

/-- The numbers that the octets of an object identifier stand for. -/
def numbers (value : Bytes) : List ℕ := (subidentifiers value).map base128

/-- The first number holds two arcs. -/
def exactArcs : List ℕ → List ℕ
  | [] => []
  | leading :: numbers =>
    if leading < 80 then leading / 40 :: leading % 40 :: numbers else 2 :: (leading - 80) :: numbers

def InRange (value : Bytes) : Prop := ∀ number ∈ numbers value, number < 2 ^ 32

structure WellFormedOid (value : Bytes) : Prop where
  ne_nil : value ≠ []
  ends : endsOnNumber value
  minimal : ∀ group ∈ subidentifiers value, group.head? ≠ some 0x80

def DecodesExactly (value : Bytes) : Prop :=
  ∃ oid, decodeOidValue value = .ok oid ∧ oid.arcs.map UInt32.toNat = exactArcs (numbers value)

structure OidNeverWraps (value : Bytes) : Prop where
  oversized : ¬ InRange value → ∃ e, decodeOidValue value = .error e
  faithful : ∀ oid, decodeOidValue value = .ok oid → oid.arcs.map UInt32.toNat = exactArcs (numbers value)

theorem numbers_cons {first : UInt8} (h : first < 120) (rest : Bytes) :
    numbers (first :: rest) = first.toNat :: numbers rest := by
  have hlt : first.toNat < 120 := UInt8.lt_iff_toNat_lt.mp h
  have hsmall : first < 128 := UInt8.lt_iff_toNat_lt.mpr (Nat.lt_trans hlt (by decide))
  rw [numbers, subidentifiers, if_pos hsmall, List.map_cons, base128, List.foldl_cons, List.foldl_nil,
    Nat.zero_mul, Nat.zero_add, Nat.mod_eq_of_lt (by omega)]
  rfl

theorem endsOnNumber_cons {first : UInt8} (h : first < 120) {rest : Bytes} :
    endsOnNumber (first :: rest) ↔ endsOnNumber rest := by
  cases rest with
  | nil =>
    have hsmall : first < 128 := UInt8.lt_trans h (by decide)
    simp [endsOnNumber, hsmall]
  | cons byte rest => rw [endsOnNumber, endsOnNumber, List.getLast?_cons_cons]

theorem inRange_cons {first : UInt8} (h : first < 120) {rest : Bytes} :
    InRange (first :: rest) ↔ InRange rest := by
  have hfirst : first.toNat < 2 ^ 32 := Nat.lt_trans first.toNat_lt (by decide)
  rw [InRange, numbers_cons h, List.forall_mem_cons]
  exact and_iff_right hfirst

theorem toNat_arcOf_iff (group : Bytes) : (arcOf group).toNat = base128 group ↔ base128 group < 2 ^ 32 := by
  rw [arcOf, UInt32.toNat_ofNat', Nat.mod_eq_iff_lt (by decide)]

/-- What is decoded is exact as long as the numbers are in range. -/
theorem map_toNat_arcs_iff {first : UInt8} (h : first < 120) (rest : Bytes) :
    ((first / 40).toUInt32 :: (first % 40).toUInt32 :: (subidentifiers rest).map arcOf).map UInt32.toNat =
      exactArcs (numbers (first :: rest)) ↔ InRange rest := by
  have hfirst : first.toNat < 120 := UInt8.lt_iff_toNat_lt.mp h
  have hleading : exactArcs (numbers (first :: rest)) =
      first.toNat / 40 :: first.toNat % 40 :: (subidentifiers rest).map base128 := by
    rw [numbers_cons h, exactArcs]
    split
    · rfl
    · have hdiv : first.toNat / 40 = 2 := by omega
      have hmod : first.toNat % 40 = first.toNat - 80 := by omega
      rw [hdiv, hmod]
      rfl
  rw [hleading, List.map_cons, List.map_cons, toNat_div_40, toNat_mod_40, List.map_map, List.cons_inj_right,
    List.cons_inj_right, List.map_inj_left, InRange, numbers, List.forall_mem_map]
  exact forall₂_congr fun group _ ↦ toNat_arcOf_iff group

theorem oidNeverWraps_iff (value : Bytes) :
    OidNeverWraps value ↔ (value.headD 0 < 120 → endsOnNumber value → InRange value) := by
  classical
  cases value with
  | nil =>
    have hrange : InRange [] := List.forall_mem_nil _
    exact ⟨fun _ _ _ ↦ hrange, fun _ ↦ ⟨fun h ↦ absurd hrange h, fun oid h ↦ absurd h (by simp [decodeOidValue])⟩⟩
  | cons first rest =>
    by_cases hfirst : first < 120
    · have hcons := map_toNat_arcs_iff hfirst rest
      rw [List.headD_cons, endsOnNumber_cons hfirst, inRange_cons hfirst]
      by_cases hends : endsOnNumber rest
      · obtain ⟨oid, hdecode, harcs⟩ := decodeOidValue_of_lt hfirst hends
        rw [← harcs] at hcons
        constructor
        · intro h _ _
          exact hcons.mp (h.faithful oid hdecode)
        · intro h
          have hrange := h hfirst hends
          refine ⟨fun hnot ↦ absurd ((inRange_cons hfirst).mpr hrange) hnot, fun oid' h' ↦ ?_⟩
          obtain rfl := Except.ok.inj (hdecode.symm.trans h')
          exact hcons.mpr hrange
      · have herror : decodeOidValue (first :: rest) = .error .invalidOidEncoding := by
          rw [decodeOidValue_cons, if_neg hends]
        refine ⟨fun _ _ h ↦ absurd h hends, fun _ ↦ ⟨fun _ ↦ ⟨_, herror⟩, fun oid h ↦ ?_⟩⟩
        rw [herror] at h
        cases h
    · obtain ⟨e, herror⟩ := decodeOidValue_of_le (UInt8.not_lt.mp hfirst) rest
      refine ⟨fun _ h ↦ absurd h hfirst, fun _ ↦ ⟨fun _ ↦ ⟨e, herror⟩, fun oid h ↦ ?_⟩⟩
      rw [herror] at h
      cases h

/-- The decoder takes one octet for the number of the first two arcs. -/
theorem decodesExactly_iff {value : Bytes} (hvalue : WellFormedOid value) (hrange : InRange value) :
    DecodesExactly value ↔ value.headD 0 < 120 := by
  obtain ⟨first, rest, rfl⟩ := List.exists_cons_of_ne_nil hvalue.ne_nil
  rw [List.headD_cons]
  constructor
  · intro h
    obtain ⟨oid, hdecode, -⟩ := h
    by_contra hfirst
    obtain ⟨e, herror⟩ := decodeOidValue_of_le (UInt8.not_lt.mp hfirst) rest
    rw [herror] at hdecode
    cases hdecode
  · intro hfirst
    obtain ⟨oid, hdecode, harcs⟩ := decodeOidValue_of_lt hfirst ((endsOnNumber_cons hfirst).mp hvalue.ends)
    refine ⟨oid, hdecode, ?_⟩
    rw [harcs]
    exact (map_toNat_arcs_iff hfirst rest).mpr ((inRange_cons hfirst).mp hrange)

/-- The two's complement number in the octets. -/
def enumeratedValue (bytes : Bytes) : ℤ :=
  if bytes.headD 0 < 128 then beNat bytes else beNat bytes - 256 ^ bytes.length

/-- No octet more than the sign needs. -/
structure WellFormedEnumerated (bytes : Bytes) : Prop where
  ne_nil : bytes ≠ []
  minimal : ∀ first second rest, bytes = first :: second :: rest →
    ¬ (first = 0 ∧ second < 128) ∧ ¬ (first = 0xff ∧ 128 ≤ second)

structure EnumeratedNeverWraps (bytes : Bytes) : Prop where
  oversized : 2 ^ 32 ≤ enumeratedValue bytes → ∃ e, decodeU32 bytes = .error e
  faithful : ∀ n, decodeU32 bytes = .ok n → (n.toNat : ℤ) = enumeratedValue bytes
  exact : WellFormedEnumerated bytes → 0 ≤ enumeratedValue bytes → enumeratedValue bytes < 2 ^ 32 →
    ∃ n, decodeU32 bytes = .ok n ∧ (n.toNat : ℤ) = enumeratedValue bytes

theorem foldl_shift8 (bytes : Bytes) (value : ℕ) :
    bytes.foldl (fun (value : UInt32) byte ↦ (value <<< 8) ||| byte.toUInt32) (UInt32.ofNat value) =
      UInt32.ofNat (bytes.foldl (fun value byte ↦ value * 256 + byte.toNat) value) := by
  induction bytes generalizing value with
  | nil => rfl
  | cons byte bytes ih => rw [List.foldl_cons, List.foldl_cons, shift8_or, ih]

theorem decodeU32_cons (first : UInt8) (rest : Bytes) :
    decodeU32 (first :: rest) =
      if rest.length ≤ 4 ∧ first < 128 then .ok (UInt32.ofNat (beNat (first :: rest))) else .error .invalidInteger := by
  have hfold := foldl_shift8 (first :: rest) 0
  have hhigh : (first :: rest).getD 0 0 &&& 0x80 = 0 ↔ first < 128 := and_high_eq_zero_iff first
  have hcons : (first :: rest).length ≤ 5 ↔ rest.length ≤ 4 := by
    rw [List.length_cons]
    omega
  rw [decodeU32]
  by_cases hlength : rest.length ≤ 4
  · by_cases hfirst : first < 128
    · rw [if_pos ⟨hlength, hfirst⟩, ensure_of ⟨by simp, hcons.mpr hlength⟩,
        ok_bind, ensure_of (hhigh.mpr hfirst)]
      exact congrArg Except.ok hfold
    · rw [if_neg fun h ↦ hfirst h.2, ensure_of ⟨by simp, hcons.mpr hlength⟩,
        ok_bind,
        ensure_of_not fun h ↦ hfirst (hhigh.mp h)]
      rfl
  · rw [if_neg fun h ↦ hlength h.1, ensure_of_not fun h ↦ hlength (hcons.mp h.2)]
    rfl

theorem enumeratedValue_of_lt {first : UInt8} (h : first < 128) (rest : Bytes) :
    enumeratedValue (first :: rest) = beNat (first :: rest) := if_pos h

theorem enumeratedValue_neg {first : UInt8} (h : 128 ≤ first) (rest : Bytes) :
    enumeratedValue (first :: rest) < 0 := by
  have hlt := beNat_lt (first :: rest)
  rw [enumeratedValue, List.headD_cons, if_neg (UInt8.not_lt.mpr h)]
  have hcast : (beNat (first :: rest) : ℤ) < (256 ^ (first :: rest).length : ℕ) := Int.ofNat_lt.mpr hlt
  push_cast at hcast
  omega

/-- A number of 32 bits that is written with no octet too many takes five octets at most. -/
theorem length_le_of_minimal {first : UInt8} {rest : Bytes} (h : WellFormedEnumerated (first :: rest))
    (hlt : beNat (first :: rest) < 2 ^ 32) : rest.length ≤ 4 := by
  by_contra hlength
  obtain ⟨second, tail, rfl⟩ := List.exists_cons_of_ne_nil (l := rest) (by rintro rfl; simp at hlength)
  rw [List.length_cons] at hlength
  have hpow : 256 ^ 4 ≤ 256 ^ tail.length := Nat.pow_le_pow_right (by decide) (by omega)
  rw [beNat_cons, beNat_cons, List.length_cons, pow_succ] at hlt
  have hfirst : first.toNat = 0 := by
    by_contra hne
    have hmul := Nat.le_mul_of_pos_left (256 ^ tail.length * 256) (Nat.pos_of_ne_zero hne)
    omega
  have hsecond : second.toNat = 0 := by
    by_contra hne
    have hmul := Nat.le_mul_of_pos_left (256 ^ tail.length) (Nat.pos_of_ne_zero hne)
    omega
  have hzero : first = 0 ∧ second < 128 := by
    refine ⟨UInt8.toNat_inj.mp hfirst, UInt8.lt_iff_toNat_lt.mpr ?_⟩
    rw [hsecond]
    decide
  exact (h.minimal first second tail rfl).1 hzero

theorem enumeratedNeverWraps_iff (bytes : Bytes) :
    EnumeratedNeverWraps bytes ↔ ¬ (bytes.length = 5 ∧ 0 < bytes.headD 0 ∧ bytes.headD 0 < 128) := by
  cases bytes with
  | nil =>
    have herror : decodeU32 [] = .error .invalidInteger := rfl
    refine ⟨fun _ h ↦ absurd h.1 (by decide), fun _ ↦ ⟨fun _ ↦ ⟨_, herror⟩, fun n h ↦ ?_, fun h ↦ absurd rfl h.ne_nil⟩⟩
    rw [herror] at h
    cases h
  | cons first rest =>
    rw [List.headD_cons, List.length_cons, Nat.succ_inj]
    have hdecode := decodeU32_cons first rest
    by_cases hfirst : first < 128
    · have hvalue := enumeratedValue_of_lt hfirst rest
      by_cases hlength : rest.length ≤ 4
      · rw [if_pos ⟨hlength, hfirst⟩] at hdecode
        have hnat : ((UInt32.ofNat (beNat (first :: rest))).toNat : ℤ) = enumeratedValue (first :: rest) ↔
            beNat (first :: rest) < 2 ^ 32 := by
          rw [hvalue, UInt32.toNat_ofNat', Int.ofNat_inj, Nat.mod_eq_iff_lt (by decide)]
        have hrange : beNat (first :: rest) < 2 ^ 32 ↔ ¬ (rest.length = 4 ∧ 0 < first ∧ first < 128) := by
          have hrest := beNat_lt rest
          rw [beNat_cons, UInt8.lt_iff_toNat_lt (a := 0), UInt8.toNat_zero]
          by_cases hfour : rest.length = 4
          · rw [hfour] at hrest ⊢
            simp only [hfirst, and_true, true_and]
            omega
          · have hpow : 256 ^ rest.length ≤ 256 ^ 3 := Nat.pow_le_pow_right (by decide) (by omega)
            have hbyte := first.toNat_lt
            have hmul : first.toNat * 256 ^ rest.length ≤ 255 * 256 ^ 3 :=
              Nat.mul_le_mul (by omega) hpow
            exact ⟨fun _ h ↦ hfour h.1, fun _ ↦ by omega⟩
        rw [← hrange, ← hnat]
        constructor
        · intro h
          exact h.faithful _ hdecode
        · intro h
          refine ⟨fun hbig ↦ ?_, fun n hn ↦ ?_, fun _ _ _ ↦ ⟨_, hdecode, h⟩⟩
          · rw [hvalue] at hbig
            have hlt := hnat.mp h
            omega
          · obtain rfl := Except.ok.inj (hdecode.symm.trans hn)
            exact h
      · rw [if_neg fun h ↦ hlength h.1] at hdecode
        refine ⟨fun _ h ↦ absurd h.1 (by omega), fun _ ↦ ⟨fun _ ↦ ⟨_, hdecode⟩, fun n hn ↦ ?_, fun hformed _ hlt ↦ ?_⟩⟩
        · rw [hdecode] at hn
          cases hn
        · rw [hvalue] at hlt
          exact absurd (length_le_of_minimal hformed (by omega)) hlength
    · have hneg := enumeratedValue_neg (UInt8.not_lt.mp hfirst) rest
      rw [if_neg fun h ↦ hfirst h.2] at hdecode
      refine ⟨fun _ h ↦ absurd h.2.2 hfirst, fun _ ↦ ⟨fun _ ↦ ⟨_, hdecode⟩, fun n hn ↦ ?_, fun _ h ↦ ?_⟩⟩
      · rw [hdecode] at hn
        cases hn
      · omega

/-- Numbers that do not fit are refused only where a check made for another reason refuses them. -/
theorem numbers_exact (value bytes : Bytes) :
    (OidNeverWraps value ↔ (value.headD 0 < 120 → endsOnNumber value → InRange value)) ∧
    (WellFormedOid value → InRange value → (DecodesExactly value ↔ value.headD 0 < 120)) ∧
    (EnumeratedNeverWraps bytes ↔ ¬ (bytes.length = 5 ∧ 0 < bytes.headD 0 ∧ bytes.headD 0 < 128)) :=
  ⟨oidNeverWraps_iff value, decodesExactly_iff, enumeratedNeverWraps_iff bytes⟩

/-- The contents octets of 1.2.840.113554.1.2.2. -/
def krb5Octets : Bytes := [0x2a, 0x86, 0x48, 0x86, 0xf7, 0x12, 0x01, 0x02, 0x02]

theorem numbers_exact_krb5 : DecodesExactly krb5Octets := by
  have hgroups : subidentifiers krb5Octets =
      [[0x2a], [0x86, 0x48], [0x86, 0xf7, 0x12], [0x01], [0x02], [0x02]] := by decide
  have hvalue : WellFormedOid krb5Octets := by
    refine ⟨by decide, fun last hlast ↦ ?_, ?_⟩
    · obtain rfl := Option.some.inj hlast
      decide
    · rw [hgroups]
      decide
  have hrange : InRange krb5Octets := by
    rw [InRange, numbers, hgroups]
    decide
  exact ((numbers_exact krb5Octets []).2.1 hvalue hrange).mpr (by decide)

/-- The contents octets of 1.2.4294968136.113554.1.2.2, whose third arc is `840 + 2 ^ 32`. -/
def aliasOctets : Bytes := [0x2a, 0x90, 0x80, 0x80, 0x86, 0x48, 0x86, 0xf7, 0x12, 0x01, 0x02, 0x02]

def oversizedResp : Bytes := [0x30, 0x09, 0xa0, 0x07, 0x0a, 0x05, 0x01, 0x00, 0x00, 0x00, 0x00]

theorem oversized_accepted :
    (decodeOidValue aliasOctets = .ok .krb5 ∧ numbers aliasOctets = [42, 4294968136, 113554, 1, 2, 2] ∧
      ¬ OidNeverWraps aliasOctets) ∧
    decodeNegTokenResp oversizedResp = .ok ⟨some .acceptCompleted, none, none, none⟩ ∧
    ¬ EnumeratedNeverWraps [1, 0, 0, 0, 0] := by
  have halias : decodeOidValue aliasOctets = .ok .krb5 := by decide
  have hnumbers : numbers aliasOctets = [42, 4294968136, 113554, 1, 2, 2] := by decide
  have hzero : decodeU32 [1, 0, 0, 0, 0] = .ok 0 := rfl
  refine ⟨⟨halias, hnumbers, fun h ↦ ?_⟩, by decide, fun h ↦ ?_⟩
  · have harcs := h.faithful _ halias
    rw [hnumbers] at harcs
    exact absurd harcs (by decide)
  · have hvalue := h.faithful _ hzero
    exact absurd hvalue (by decide)

end Oversized

section RoundTrip

theorem le_of_mem_highGroups {n : ℕ} {value : UInt32} {byte : UInt8} (h : byte ∈ highGroups n value) :
    128 ≤ byte := by
  have hbits : ∀ n < 256, 128 ≤ UInt8.ofNat n ||| 0x80 := by decide +kernel
  induction n generalizing value with
  | zero => cases h
  | succ n ih =>
    rw [highGroups] at h
    split at h
    · cases h
    · obtain h | h := List.mem_append.mp h
      · exact ih h
      · rw [List.mem_singleton.mp h, ← UInt8.ofNat_toNat (x := (value &&& 0x7f).toUInt8)]
        exact hbits _ (UInt8.toNat_lt _)

/-- From 120 on, the first octet of the first number is not one that the decoder takes. -/
theorem encodeBase128_of_le {value : UInt32} (h : 120 ≤ value.toNat) :
    ∃ first rest, encodeBase128 value = first :: rest ∧ 120 ≤ first := by
  by_cases hsmall : value.toNat < 128
  · refine ⟨UInt8.ofNat value.toNat, [], ?_, ?_⟩
    · rw [← encodeBase128_of_lt hsmall, UInt32.ofNat_toNat]
    · rw [UInt8.le_iff_toNat_le, UInt8.toNat_ofNat', Nat.mod_eq_of_lt (by omega)]
      exact h
  · have hne : highGroups 4 (value >>> 7) ≠ [] := by
      rw [highGroups, if_neg]
      · exact List.append_ne_nil_of_right_ne_nil _ (List.cons_ne_nil _ _)
      · intro hzero
        have hdiv : (value >>> 7).toNat = value.toNat / 128 := by
          rw [UInt32.toNat_shiftRight]
          exact Nat.shiftRight_eq_div_pow value.toNat 7
        rw [hzero, UInt32.toNat_zero] at hdiv
        omega
    obtain ⟨first, rest, hgroups⟩ := List.exists_cons_of_ne_nil hne
    have hfirst : 128 ≤ first := le_of_mem_highGroups (hgroups ▸ List.mem_cons_self)
    refine ⟨first, rest ++ [(value &&& 0x7f).toUInt8], ?_, UInt8.le_trans (by decide) hfirst⟩
    rw [encodeBase128, hgroups, List.cons_append]

/-- An identifier comes back when its first two arcs share a number below 120: the first arc is 0 or
1, or the second one is below 40. -/
theorem readOid_encodeOid {oid : ObjectIdentifier} {bytes : Bytes} (h : encodeOid oid = .ok bytes)
    (hlength : bytes.length < 2 ^ 64) :
    readInput readOid bytes = .ok (oid, ⟨bytes.length, []⟩) ↔ oid.leading < 120 := by
  constructor
  · intro hread
    by_contra hleading
    obtain ⟨first, second, rest, harcs, -, -, hshared⟩ := exists_arcs oid
    rw [encodeOid, harcs] at h
    obtain ⟨_, hfits, hbytes⟩ := bind_eq_ok.mp h
    obtain rfl := Except.ok.inj hbytes
    have hnumber : (UInt32.ofNat (first.toNat * 40 + second.toNat)).toNat = oid.leading := by
      rw [hshared, UInt32.toNat_ofNat', Nat.mod_eq_of_lt (ensure_eq_ok.mp hfits)]
    obtain ⟨octet, octets, hoctets, hle⟩ := encodeBase128_of_le (hnumber.symm ▸ Nat.le_of_not_lt hleading)
    obtain ⟨e, herror⟩ := decodeOidValue_of_le hle (octets ++ rest.flatMap encodeBase128)
    have htag : tagObjectIdentifier &&& 0x1f ≠ 0x1f := by decide
    have htlv := (reads_readTlv htag (lt_of_encodeTlv hlength)).readInput_eq
    have hfails : readInput readOid (encodeTlv tagObjectIdentifier
        (oidValue (UInt32.ofNat (first.toNat * 40 + second.toNat)) rest)) = .error e := by
      rw [readInput, readOid, run_bind_of_ok htlv, decodeOidTlv, expectTag, ensure_of rfl, ok_bind, oidValue,
        hoctets, List.cons_append, herror]
      rfl
    rw [hfails] at hread
    cases hread
  · intro hleading
    have hbytes : written encodeOid oid = bytes := written_eq h
    have hreads := reads_readOid hleading (hbytes.symm ▸ hlength)
    rw [hbytes] at hreads
    exact hreads.readInput_eq

theorem readOid_encodeOid_krb5 :
    readInput readOid (0x06 :: 0x09 :: krb5Octets) = .ok (.krb5, ⟨11, []⟩) := by
  have hencode : encodeOid .krb5 = .ok (0x06 :: 0x09 :: krb5Octets) := by decide
  exact (readOid_encodeOid hencode (by decide)).mpr (by decide)

/-- An identifier whose first two arcs share the number 1079. -/
def jointOid : ObjectIdentifier := ⟨[2, 999], by decide⟩

theorem readOid_jointOid :
    encodeOid jointOid = .ok [0x06, 0x02, 0x88, 0x37] ∧
    readInput readOid [0x06, 0x02, 0x88, 0x37] = .error .invalidOid := by
  constructor <;> decide

end RoundTrip

end Rskrb5.Spnego
