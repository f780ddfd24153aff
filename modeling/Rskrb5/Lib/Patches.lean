import Mathlib.Data.List.Basic

namespace Rskrb5.Lib.Patches

variable {β : Type}

/-- Write a patch over the items from `offset` on. -/
def overwrite (bs : List β) (offset : ℕ) (patch : List β) : List β :=
  bs.take offset ++ patch ++ bs.drop (offset + patch.length)

def slice (bs : List β) (offset len : ℕ) : List β := (bs.drop offset).take len

/-- `out` is `bs` with `value` at all the places of a region. -/
structure IsFilled (value : β) (bs out : List β) (region : ℕ → Prop) : Prop where
  length_eq : out.length = bs.length
  inside : ∀ i < bs.length, region i → out[i]? = some value
  outside : ∀ i, ¬ region i → out[i]? = bs[i]?

variable {bs out patch : List β} {offset len : ℕ}

theorem length_overwrite (h : offset + patch.length ≤ bs.length) :
    (overwrite bs offset patch).length = bs.length := by
  simp only [overwrite, List.length_append, List.length_take, List.length_drop]
  omega

theorem getElem?_overwrite_inside {i : ℕ} (h : offset + patch.length ≤ bs.length) (hge : offset ≤ i)
    (hlt : i < offset + patch.length) : (overwrite bs offset patch)[i]? = patch[i - offset]? := by
  have htake : (bs.take offset).length = offset := List.length_take_of_le (by omega)
  rw [overwrite, List.append_assoc, List.getElem?_append_right (by omega), htake,
    List.getElem?_append_left (by omega)]

theorem getElem?_overwrite_outside {i : ℕ} (h : offset + patch.length ≤ bs.length)
    (hout : i < offset ∨ offset + patch.length ≤ i) : (overwrite bs offset patch)[i]? = bs[i]? := by
  have htake : (bs.take offset).length = offset := List.length_take_of_le (by omega)
  rw [overwrite, List.append_assoc]
  rcases hout with hlt | hge
  · rw [List.getElem?_append_left (by omega), List.getElem?_take_of_lt hlt]
  · rw [List.getElem?_append_right (by omega), htake, List.getElem?_append_right (by omega),
      List.getElem?_drop]
    congr 1
    omega

theorem length_slice (h : offset + len ≤ bs.length) : (slice bs offset len).length = len := by
  rw [slice, List.length_take, List.length_drop]
  omega

theorem getElem?_slice {i : ℕ} (h : i < len) : (slice bs offset len)[i]? = bs[offset + i]? := by
  rw [slice, List.getElem?_take_of_lt h, List.getElem?_drop]

theorem slice_congr {bs' : List β} (h : ∀ i < len, bs[offset + i]? = bs'[offset + i]?) :
    slice bs offset len = slice bs' offset len := by
  refine List.ext_getElem? fun i ↦ ?_
  by_cases hi : i < len
  · rw [getElem?_slice hi, getElem?_slice hi]
    exact h i hi
  · rw [List.getElem?_eq_none (by rw [slice, List.length_take]; omega),
      List.getElem?_eq_none (by rw [slice, List.length_take]; omega)]

namespace IsFilled

variable {value : β} {region region' : ℕ → Prop}

theorem refl (value : β) (bs : List β) : IsFilled value bs bs fun _ ↦ False := ⟨rfl, nofun, fun _ _ ↦ rfl⟩

theorem congr (h : IsFilled value bs out region) (hregion : ∀ i, region i ↔ region' i) :
    IsFilled value bs out region' := by
  obtain rfl : region = region' := funext fun i ↦ propext (hregion i)
  exact h

theorem fill (h : offset + len ≤ bs.length) :
    IsFilled value bs (overwrite bs offset (List.replicate len value))
      fun i ↦ offset ≤ i ∧ i < offset + len := by
  have hlen : (List.replicate len value).length = len := List.length_replicate
  refine ⟨length_overwrite (by omega), fun i hi hin ↦ ?_, fun i hout ↦ ?_⟩
  · rw [getElem?_overwrite_inside (by omega) hin.1 (by omega), List.getElem?_replicate_of_lt (by omega)]
  · exact getElem?_overwrite_outside (by omega) (by omega)

/-- A filled slice of the original, put back in its place, fills its region too when it does not
undo what is filled already. -/
theorem overwrite_slice (h : IsFilled value bs out region) (hfit : offset + len ≤ bs.length)
    (hpatch : IsFilled value (slice bs offset len) patch region')
    (hapart : ∀ i, region i → i < offset ∨ offset + len ≤ i) (hin : ∀ i, region' i → i < len) :
    IsFilled value bs (overwrite out offset patch) fun i ↦ region i ∨ offset ≤ i ∧ region' (i - offset) := by
  have hlen : patch.length = len := hpatch.length_eq.trans (length_slice hfit)
  have hfit' : offset + patch.length ≤ out.length := by
    rw [hlen, h.length_eq]
    exact hfit
  refine ⟨(length_overwrite hfit').trans h.length_eq, fun i hi hregion ↦ ?_, fun i hregion ↦ ?_⟩
  · rcases hregion with hregion | ⟨hge, hregion⟩
    · rw [getElem?_overwrite_outside hfit' (hlen ▸ hapart i hregion)]
      exact h.inside i hi hregion
    · have hlt := hin _ hregion
      rw [getElem?_overwrite_inside hfit' hge (by omega)]
      exact hpatch.inside _ (by rw [length_slice hfit]; exact hlt) hregion
  · obtain ⟨hold, hnew⟩ := not_or.mp hregion
    by_cases hrange : offset ≤ i ∧ i < offset + len
    · have hkept := hpatch.outside (i - offset) fun hr ↦ hnew ⟨hrange.1, hr⟩
      rw [getElem?_overwrite_inside hfit' hrange.1 (by omega), hkept, getElem?_slice (by omega),
        Nat.add_sub_cancel' hrange.1]
    · rw [getElem?_overwrite_outside hfit' (by omega)]
      exact h.outside i hold

/-- At a place where two lists agree, and which is filled in both or in none, the results agree. -/
theorem getElem?_congr {bs' out' : List β} (h : IsFilled value bs out region)
    (h' : IsFilled value bs' out' region') {i : ℕ} (hregion : region i ↔ region' i) (hi : bs[i]? = bs'[i]?) :
    out[i]? = out'[i]? := by
  by_cases hr : region i
  · by_cases hlt : i < bs.length
    · have hlt' : i < bs'.length := by
        rw [List.getElem?_eq_getElem hlt] at hi
        exact (List.getElem?_eq_some_iff.mp hi.symm).1
      rw [h.inside i hlt hr, h'.inside i hlt' (hregion.mp hr)]
    · have hge' : bs'.length ≤ i := by
        rw [List.getElem?_eq_none (Nat.le_of_not_lt hlt)] at hi
        exact List.getElem?_eq_none_iff.mp hi.symm
      rw [List.getElem?_eq_none (by rw [h.length_eq]; omega),
        List.getElem?_eq_none (by rw [h'.length_eq]; exact hge')]
  · rw [h.outside i hr, h'.outside i (mt hregion.mpr hr), hi]

/-- What is filled is determined by the region. -/
theorem unique {out' : List β} (h : IsFilled value bs out region) (h' : IsFilled value bs out' region) :
    out = out' :=
  List.ext_getElem? fun _ ↦ h.getElem?_congr h' Iff.rfl rfl

end IsFilled

end Rskrb5.Lib.Patches
