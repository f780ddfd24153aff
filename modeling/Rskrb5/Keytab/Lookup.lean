import Rskrb5.Keytab
import Rskrb5.Lib.Best

namespace Rskrb5.Keytab

open Lib.Results Lib.Best

/-- What a key is looked up by. A key version of zero stands for any. -/
structure Entry.Matches (entry : Entry) (principalComponents : List String) (realm : String)
    (kvno : UInt32) (etype : Int32) : Prop where
  realm : entry.principal.realm = realm
  components : entry.principal.components = principalComponents
  etype : entry.key.etype = etype
  kvno : kvno = 0 ∨ entry.kvno = kvno

def age (entry : Entry) : ℕ := entry.timestamp.toNat

variable {components : List String} {realm : String} {kvno : UInt32} {etype : Int32}

theorem zip_all_iff {as bs : List String} :
    as.length = bs.length ∧ (as.zip bs).all (fun pair ↦ pair.1 == pair.2) = true ↔ as = bs := by
  induction as generalizing bs with
  | nil => cases bs <;> simp
  | cons a as ih =>
    cases bs with
    | nil => simp
    | cons b bs =>
      rw [List.cons.injEq, ← ih]
      simp only [List.length_cons, List.zip_cons_cons, List.all_cons, Bool.and_eq_true, beq_iff_eq,
        Nat.add_right_cancel_iff]
      exact and_left_comm

theorem matches_iff {entry : Entry} :
    entry.matches components realm kvno etype = true ↔ entry.Matches components realm kvno etype := by
  simp only [Entry.matches, Bool.and_eq_true, Bool.or_eq_true, beq_iff_eq]
  constructor
  · intro h
    obtain ⟨⟨⟨⟨hrealm, hlength⟩, hall⟩, hetype⟩, hkvno⟩ := h
    exact ⟨hrealm, zip_all_iff.mp ⟨hlength, hall⟩, hetype, hkvno⟩
  · intro h
    obtain ⟨hlength, hall⟩ := zip_all_iff.mpr h.components
    exact ⟨⟨⟨⟨h.realm, hlength⟩, hall⟩, h.etype⟩, h.kvno⟩

theorem select_eq_better (selected : Option Entry) (entry : Entry) :
    select selected entry = some (better age selected entry) := by
  cases selected with
  | none => rfl
  | some current =>
    by_cases h : age current < age entry
    · rw [select, better, if_pos h, if_neg (by simpa [age, UInt32.le_iff_toNat_le] using h)]
    · rw [select, better, if_neg h, if_pos (by simpa [age, UInt32.le_iff_toNat_le] using h)]

theorem findKey_eq (keytab : Keytab) : keytab.findKey components realm kvno etype =
    okOr ((best age (keytab.entries.filter fun entry ↦ entry.matches components realm kvno etype)).map
      fun entry ↦ (entry.key, entry.kvno)) (.noMatchingKey ("/".intercalate components) realm kvno etype) := by
  rw [findKey, ← foldl_better, List.foldl_filter]
  simp only [select_eq_better]

theorem findKey_eq_error_iff (keytab : Keytab) :
    (∃ e, keytab.findKey components realm kvno etype = .error e) ↔
      ∀ entry ∈ keytab.entries, ¬ entry.Matches components realm kvno etype := by
  have hnone : (best age (keytab.entries.filter fun entry ↦ entry.matches components realm kvno etype)) =
      none ↔ ∀ entry ∈ keytab.entries, ¬ entry.Matches components realm kvno etype := by
    rw [best_eq_none, List.filter_eq_nil_iff]
    simp only [matches_iff]
  rw [← hnone, findKey_eq]
  cases best age (keytab.entries.filter fun entry ↦ entry.matches components realm kvno etype) <;> simp [okOr]

/-- The first of the newest matching entries: newer than the matching ones before it, and at least as
new as those behind it. -/
structure Newest (components : List String) (realm : String) (kvno : UInt32) (etype : Int32)
    (before : List Entry) (entry : Entry) (after : List Entry) : Prop where
  found : entry.Matches components realm kvno etype
  before : ∀ e ∈ before, e.Matches components realm kvno etype → e.timestamp < entry.timestamp
  after : ∀ e ∈ after, e.Matches components realm kvno etype → e.timestamp ≤ entry.timestamp

theorem findKey_eq_ok_iff (keytab : Keytab) (key : EncryptionKey) (found : UInt32) :
    keytab.findKey components realm kvno etype = .ok (key, found) ↔
      ∃ before entry after, keytab.entries = before ++ entry :: after ∧
        Newest components realm kvno etype before entry after ∧ entry.key = key ∧ entry.kvno = found := by
  have hbest : ∀ entry,
      entry ∈ best age (keytab.entries.filter fun entry ↦ entry.matches components realm kvno etype) ↔
        ∃ before after, keytab.entries = before ++ entry :: after ∧
          Newest components realm kvno etype before entry after := by
    intro entry
    simp only [mem_best_filter_iff, matches_iff, age, ← UInt32.lt_iff_toNat_lt, ← UInt32.le_iff_toNat_le]
    constructor
    · intro h
      obtain ⟨before, after, heq, hmatches, hbefore, hafter⟩ := h
      exact ⟨before, after, heq, hmatches, hbefore, hafter⟩
    · intro h
      obtain ⟨before, after, heq, h⟩ := h
      exact ⟨before, after, heq, h.found, h.before, h.after⟩
  rw [findKey_eq, okOr_eq_ok, Option.map_eq_some_iff]
  constructor
  · intro h
    obtain ⟨entry, hentry, heq⟩ := h
    obtain ⟨before, after, hsplit, hnewest⟩ := (hbest entry).mp hentry
    exact ⟨before, entry, after, hsplit, hnewest, Prod.mk.inj heq⟩
  · intro h
    obtain ⟨before, entry, after, hsplit, hnewest, rfl, rfl⟩ := h
    exact ⟨entry, (hbest entry).mpr ⟨before, after, hsplit, hnewest⟩, rfl⟩

theorem findKey_append (version : UInt8) {entries added : List Entry}
    (h : ∀ new ∈ added, new.Matches components realm kvno etype →
      ∃ entry ∈ entries, entry.Matches components realm kvno etype ∧ new.timestamp ≤ entry.timestamp) :
    (Keytab.mk version (entries ++ added)).findKey components realm kvno etype =
      (Keytab.mk version entries).findKey components realm kvno etype := by
  rw [findKey_eq, findKey_eq]
  dsimp only
  rw [List.filter_append, best_append_of_le fun new hnew ↦ ?_]
  obtain ⟨hnew, hmatches⟩ := List.mem_filter.mp hnew
  obtain ⟨entry, hentry, hm, hle⟩ := h new hnew (matches_iff.mp hmatches)
  exact ⟨entry, List.mem_filter.mpr ⟨hentry, matches_iff.mpr hm⟩, UInt32.le_iff_toNat_le.mp hle⟩

/-- A lookup fails exactly when nothing matches, finds the first of the newest entries that match, and
is not changed by further entries that do not match or are not newer. -/
theorem findKey_newest (keytab : Keytab) (components : List String) (realm : String) (kvno : UInt32)
    (etype : Int32) :
    ((∃ e, keytab.findKey components realm kvno etype = .error e) ↔
      ∀ entry ∈ keytab.entries, ¬ entry.Matches components realm kvno etype) ∧
    (∀ key found, keytab.findKey components realm kvno etype = .ok (key, found) ↔
      ∃ before entry after, keytab.entries = before ++ entry :: after ∧
        Newest components realm kvno etype before entry after ∧ entry.key = key ∧ entry.kvno = found) ∧
    ∀ added, (∀ new ∈ added, new.Matches components realm kvno etype →
        ∃ entry ∈ keytab.entries, entry.Matches components realm kvno etype ∧ new.timestamp ≤ entry.timestamp) →
      (Keytab.mk keytab.version (keytab.entries ++ added)).findKey components realm kvno etype =
        keytab.findKey components realm kvno etype :=
  ⟨findKey_eq_error_iff keytab, findKey_eq_ok_iff keytab, fun _ h ↦ findKey_append keytab.version h⟩

end Rskrb5.Keytab
