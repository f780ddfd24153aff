import Rskrb5.Krb5Conf

namespace Rskrb5.Krb5Conf

open Lib.Results Lib.Texts Spnego

inductive TimeUnit
  | hours
  | minutes
  | seconds
  deriving DecidableEq

def TimeUnit.letter : TimeUnit → Char
  | .hours => 'h'
  | .minutes => 'm'
  | .seconds => 's'

def TimeUnit.secs : TimeUnit → ℕ
  | .hours => 60 * 60
  | .minutes => 60
  | .seconds => 1

structure UnitTerm where
  digits : List Char
  unit : TimeUnit

def UnitTerm.text (term : UnitTerm) : List Char := term.digits ++ [term.unit.letter]

/-- The forms in which a duration can be written: seconds, days and other units, or as on a clock. -/
inductive DurationForm
  | plain (seconds : List Char)
  | units (days : Option (List Char)) (terms : List UnitTerm)
  | clock (hours minutes : List Char) (seconds : Option (List Char))

namespace DurationForm

def text : DurationForm → List Char
  | .plain seconds => seconds
  | .units none terms => terms.flatMap UnitTerm.text
  | .units (some days) terms => days ++ 'd' :: terms.flatMap UnitTerm.text
  | .clock hours minutes none => hours ++ ':' :: minutes
  | .clock hours minutes (some seconds) => hours ++ ':' :: (minutes ++ ':' :: seconds)

/-- The numbers of a duration, each with the seconds that one of it stands for. -/
def factors : DurationForm → List (List Char × ℕ)
  | .plain seconds => [(seconds, 1)]
  | .units days terms => days.toList.map (·, 24 * 60 * 60) ++ terms.map fun term ↦ (term.digits, term.unit.secs)
  | .clock hours minutes seconds => (hours, 60 * 60) :: (minutes, 60) :: seconds.toList.map (·, 1)

/-- There are seconds, or there is a term at least. -/
def NonEmpty : DurationForm → Prop
  | .plain seconds => 0 < digitsValue (unsigned seconds)
  | .units days terms => days ≠ none ∨ terms ≠ []
  | .clock _ _ _ => True

structure WellFormed (form : DurationForm) : Prop where
  digits : ∀ factor ∈ form.factors, IsDigits factor.1
  nonEmpty : form.NonEmpty

/-- The numbers other than those of hours, minutes and seconds with a unit may have a plus sign. -/
structure Signed (form : DurationForm) : Prop where
  digits : ∀ factor ∈ form.factors, IsDigits (unsigned factor.1)
  nonEmpty : form.NonEmpty

end DurationForm

def number (factor : List Char × ℕ) : ℕ := digitsValue (unsigned factor.1)

def product (factor : List Char × ℕ) : ℕ := number factor * factor.2

def totalOf (factors : List (List Char × ℕ)) : ℕ := (factors.map product).sum

def DurationForm.total (form : DurationForm) : ℕ := totalOf form.factors

/-- Every number, every product and the running total fit in 64 bits. -/
structure DurationForm.Fits (form : DurationForm) : Prop where
  numbers : ∀ factor ∈ form.factors, number factor < 2 ^ 64
  products : ∀ factor ∈ form.factors, product factor < 2 ^ 64
  running : ∀ first, first <+: form.factors → totalOf first < 2 ^ 64

section Totals

theorem totalOf_append (factors factors' : List (List Char × ℕ)) :
    totalOf (factors ++ factors') = totalOf factors + totalOf factors' := by
  simp [totalOf]

theorem totalOf_cons (factor : List Char × ℕ) (factors : List (List Char × ℕ)) :
    totalOf (factor :: factors) = product factor + totalOf factors := rfl

theorem product_le_totalOf {factor : List Char × ℕ} {factors : List (List Char × ℕ)} (h : factor ∈ factors) :
    product factor ≤ totalOf factors := by
  obtain ⟨before, after, rfl⟩ := List.append_of_mem h
  rw [totalOf_append, totalOf_cons]
  omega

theorem TimeUnit.secs_pos (unit : TimeUnit) : 0 < unit.secs := by
  cases unit <;> decide

theorem secs_pos (form : DurationForm) : ∀ factor ∈ form.factors, 0 < factor.2 := by
  cases form with
  | plain seconds => simp [DurationForm.factors]
  | units days terms =>
    simp only [DurationForm.factors, List.forall_mem_append, List.forall_mem_map]
    exact ⟨fun _ _ ↦ Nat.succ_pos _, fun term _ ↦ term.unit.secs_pos⟩
  | clock hours minutes seconds =>
    simp only [DurationForm.factors, List.forall_mem_cons, List.forall_mem_map]
    exact ⟨Nat.succ_pos _, Nat.succ_pos _, fun _ _ ↦ Nat.succ_pos _⟩

/-- Everything is at most the total. -/
theorem fits_iff (form : DurationForm) : form.Fits ↔ form.total < 2 ^ 64 := by
  constructor
  · exact fun h ↦ h.running form.factors (List.prefix_refl _)
  · intro h
    have hproduct : ∀ factor ∈ form.factors, product factor < 2 ^ 64 :=
      fun factor hm ↦ Nat.lt_of_le_of_lt (product_le_totalOf hm) h
    refine ⟨fun factor hm ↦ ?_, hproduct, ?_⟩
    · exact Nat.lt_of_le_of_lt (Nat.le_mul_of_pos_right _ (secs_pos form factor hm)) (hproduct factor hm)
    · intro first h
      obtain ⟨rest, heq⟩ := h
      rw [DurationForm.total, ← heq, totalOf_append] at h
      omega

end Totals

/-- The result is the total, or an error where the total does not fit in 64 bits. -/
def Exactly (result : Except Error ℕ) (total : ℕ) : Prop :=
  if total < 2 ^ 64 then result = .ok total else ∃ e, result = .error e

section Checks

variable {original : List Char} {total : ℕ} {f : ℕ → Except Error ℕ}

theorem exactly_ok (h : total < 2 ^ 64) : Exactly (.ok total) total := by
  rw [Exactly, if_pos h]

theorem exactly_of_error {e : Error} (h : 2 ^ 64 ≤ total) : Exactly (.error e) total := by
  rw [Exactly, if_neg (Nat.not_lt.mpr h)]
  exact ⟨e, rfl⟩

/-- A number that is computed on the way is at most the total. -/
theorem Exactly.bind {result : Except Error ℕ} {n : ℕ} (hn : Exactly result n) (hle : n ≤ total)
    (h : n < 2 ^ 64 → Exactly (f n) total) : Exactly (result >>= f) total := by
  rw [Exactly] at hn
  split at hn
  · next hlt =>
    rw [hn]
    exact h hlt
  · obtain ⟨e, rfl⟩ := hn
    exact exactly_of_error (by omega)

theorem exactly_okOr (n : ℕ) (e : Error) : Exactly (okOr (if n < 2 ^ 64 then some n else none) e) n := by
  by_cases h : n < 2 ^ 64
  · rw [if_pos h]
    exact exactly_ok h
  · rw [if_neg h]
    exact exactly_of_error (by omega)

theorem parseU64_eq_ok {text : List Char} {n : ℕ} : parseU64 original text = .ok n ↔
    IsDigits (unsigned text) ∧ digitsValue (unsigned text) = n ∧ n < 2 ^ 64 := by
  rw [parseU64, okOr_eq_ok, parseUnsigned_eq_some_iff]

theorem exactly_parseU64 {text : List Char} (hdigits : IsDigits (unsigned text)) :
    Exactly (parseU64 original text) (digitsValue (unsigned text)) := by
  by_cases h : digitsValue (unsigned text) < 2 ^ 64
  · rw [parseU64_eq_ok.mpr ⟨hdigits, rfl, h⟩]
    exact exactly_ok h
  · cases hparse : parseU64 original text with
    | error e => exact exactly_of_error (by omega)
    | ok n =>
      obtain ⟨-, rfl, hlt⟩ := parseU64_eq_ok.mp hparse
      exact absurd hlt h

end Checks

section Units

variable {original : List Char}

theorem isDigit_iff {c : Char} : c.isDigit = true ↔ 48 ≤ c.val.toNat ∧ c.val.toNat ≤ 57 := by
  simp only [Char.isDigit, Bool.and_eq_true, decide_eq_true_eq, ge_iff_le, UInt32.le_iff_toNat_le]
  exact Iff.rfl

theorem isAlphabetic_of_isDigit {c : Char} (h : c.isDigit = true) : isAlphabetic c = false := by
  obtain ⟨hlow, hhigh⟩ := isDigit_iff.mp h
  have hupper : ¬ 65 ≤ c.val.toNat := by omega
  have hlower : ¬ 97 ≤ c.val.toNat := by omega
  rw [isAlphabetic, Bool.or_eq_false_iff]
  constructor
  · exact decide_eq_false fun h ↦ hupper (UInt32.le_iff_toNat_le.mp h.1)
  · exact Bool.and_eq_false_iff.mpr (.inl (decide_eq_false fun h ↦ hlower (UInt32.le_iff_toNat_le.mp h)))

theorem TimeUnit.isAlphabetic_letter (unit : TimeUnit) : isAlphabetic unit.letter = true := by
  cases unit <;> decide

theorem TimeUnit.isDigit_letter (unit : TimeUnit) : unit.letter.isDigit = false := by
  cases unit <;> decide

theorem unitSeconds_letter {n : ℕ} (h : n < 2 ^ 64) (unit : TimeUnit) :
    unitSeconds original n [unit.letter] =
      okOr (checkedMul n unit.secs) (.durationOverflow (.ofList original)) := by
  cases unit with
  | hours => rfl
  | minutes => rfl
  | seconds =>
    change Except.ok n = okOr (checkedMul n 1) _
    rw [checkedMul, Nat.mul_one, if_pos h]
    rfl

theorem parseUnits_term {term : UnitTerm} (hdigits : IsDigits term.digits) {rest : List Char}
    (hrest : ∀ c ∈ rest.head?, isAlphabetic c = false) (fuel duration : ℕ) :
    parseUnits original (fuel + 1) duration (term.text ++ rest) = (do
      let number ← parseU64 original term.digits
      let seconds ← unitSeconds original number [term.unit.letter]
      let duration ← okOr (checkedAdd duration seconds) (.durationOverflow (.ofList original))
      parseUnits original fuel duration rest) := by
  have htext : term.text ++ rest = term.digits ++ term.unit.letter :: rest := by
    simp [UnitTerm.text]
  have hletter : ¬ term.unit.letter.isDigit = true := by
    rw [term.unit.isDigit_letter]
    decide
  have hdigit : (term.text ++ rest).takeWhile Char.isDigit = term.digits := by
    rw [htext, List.takeWhile_append_of_pos hdigits.2, List.takeWhile_cons_of_neg hletter, List.append_nil]
  have hbehind : (term.text ++ rest).dropWhile Char.isDigit = term.unit.letter :: rest := by
    rw [htext, List.dropWhile_append_of_pos hdigits.2, List.dropWhile_cons_of_neg hletter]
  have hunit : (term.unit.letter :: rest).takeWhile isAlphabetic = [term.unit.letter] := by
    rw [List.takeWhile_cons_of_pos term.unit.isAlphabetic_letter]
    cases rest with
    | nil => rfl
    | cons c rest => rw [List.takeWhile_cons_of_neg (by simp [hrest c rfl])]
  have hafter : (term.unit.letter :: rest).dropWhile isAlphabetic = rest := by
    rw [List.dropWhile_cons_of_pos term.unit.isAlphabetic_letter, dropWhile_of_head? hrest]
  have hne : term.text ++ rest ≠ [] := by simp [UnitTerm.text]
  rw [parseUnits]
  · rw [hdigit, hbehind, hunit, hafter, ensure_of hdigits.1]
    rfl
  · exact hne

def unitFactors (terms : List UnitTerm) : List (List Char × ℕ) :=
  terms.map fun term ↦ (term.digits, term.unit.secs)

theorem head?_terms {terms : List UnitTerm} (h : ∀ term ∈ terms, IsDigits term.digits) :
    ∀ c ∈ (terms.flatMap UnitTerm.text).head?, isAlphabetic c = false := by
  intro c hc
  cases terms with
  | nil => cases hc
  | cons term terms =>
    obtain ⟨hne, hdigits⟩ := h term List.mem_cons_self
    obtain ⟨first, digits, heq⟩ := List.exists_cons_of_ne_nil hne
    rw [List.flatMap_cons, UnitTerm.text, heq] at hc
    obtain rfl := Option.some.inj hc
    exact isAlphabetic_of_isDigit (hdigits first (by simp [heq]))

variable (original) in
/-- The terms are added up, or the sum does not fit. -/
theorem exactly_parseUnits {terms : List UnitTerm} (h : ∀ term ∈ terms, IsDigits term.digits) {fuel duration : ℕ}
    (hfuel : (terms.flatMap UnitTerm.text).length ≤ fuel) (hstart : duration < 2 ^ 64) :
    Exactly (parseUnits original fuel duration (terms.flatMap UnitTerm.text))
      (duration + totalOf (unitFactors terms)) := by
  induction terms generalizing fuel duration with
  | nil =>
    have hend : parseUnits original fuel duration [] = .ok duration := by
      cases fuel <;> rfl
    rw [List.flatMap_nil, hend]
    exact exactly_ok hstart
  | cons term terms ih =>
    have hdigits := h term List.mem_cons_self
    have hterms : ∀ term ∈ terms, IsDigits term.digits := fun term hm ↦ h term (List.mem_cons_of_mem _ hm)
    have htotal : totalOf (unitFactors (term :: terms)) =
        product (term.digits, term.unit.secs) + totalOf (unitFactors terms) := rfl
    have hunsigned : unsigned term.digits = term.digits := by
      refine unsigned_of_not_mem fun hplus ↦ ?_
      exact absurd (hdigits.2 _ hplus) (by decide)
    rw [List.flatMap_cons, List.length_append] at hfuel
    obtain ⟨fuel, rfl⟩ : ∃ n, fuel = n + 1 := by
      refine ⟨fuel - 1, ?_⟩
      simp only [UnitTerm.text, List.length_append, List.length_singleton] at hfuel
      omega
    rw [List.flatMap_cons, parseUnits_term hdigits (head?_terms hterms), htotal]
    have hle := Nat.le_mul_of_pos_right (number (term.digits, term.unit.secs)) term.unit.secs_pos
    refine (exactly_parseU64 (by rwa [hunsigned])).bind ?_ fun hn ↦ ?_
    · simp only [product, number] at hle ⊢
      omega
    · rw [unitSeconds_letter hn]
      refine (exactly_okOr _ _).bind (by simp only [product, number]; omega) fun _ ↦ ?_
      refine (exactly_okOr _ _).bind (by simp only [product, number]; omega) fun hsum ↦ ?_
      rw [← Nat.add_assoc]
      refine ih hterms ?_ hsum
      simp only [UnitTerm.text, List.length_append, List.length_singleton] at hfuel
      omega

theorem checkedMul_eq_some {a b n : ℕ} : checkedMul a b = some n ↔ a * b = n ∧ n < 2 ^ 64 := by
  rw [checkedMul]
  split <;> simp <;> omega

theorem checkedAdd_eq_some {a b n : ℕ} : checkedAdd a b = some n ↔ a + b = n ∧ n < 2 ^ 64 := by
  rw [checkedAdd]
  split <;> simp <;> omega

theorem unitSeconds_eq_ok {n seconds : ℕ} {unit : List Char} (h : unitSeconds original n unit = .ok seconds) :
    ∃ timeUnit : TimeUnit, unit = [timeUnit.letter] ∧ seconds = n * timeUnit.secs := by
  unfold unitSeconds at h
  split at h
  · exact ⟨.hours, rfl, (checkedMul_eq_some.mp (okOr_eq_ok.mp h)).1.symm⟩
  · exact ⟨.minutes, rfl, (checkedMul_eq_some.mp (okOr_eq_ok.mp h)).1.symm⟩
  · exact ⟨.seconds, rfl, by rw [← Except.ok.inj h, TimeUnit.secs, Nat.mul_one]⟩
  · cases h

theorem isDigit_ne_plus {digits : List Char} (h : ∀ c ∈ digits, c.isDigit = true) : unsigned digits = digits :=
  unsigned_of_not_mem fun hplus ↦ absurd (h _ hplus) (by decide)

/-- What is read as terms is made of terms, and nothing is left over or lost. -/
theorem terms_of_parseUnits {fuel duration seconds : ℕ} {text : List Char} (hfuel : text.length ≤ fuel)
    (h : parseUnits original fuel duration text = .ok seconds) :
    ∃ terms : List UnitTerm, (∀ term ∈ terms, IsDigits term.digits) ∧ text = terms.flatMap UnitTerm.text ∧
      seconds = duration + totalOf (unitFactors terms) := by
  induction fuel generalizing duration text with
  | zero =>
    obtain rfl := List.length_eq_zero_iff.mp (Nat.le_zero.mp hfuel)
    obtain rfl := Except.ok.inj h
    exact ⟨[], by simp, rfl, rfl⟩
  | succ fuel ih =>
    by_cases hne : text = []
    · subst hne
      obtain rfl := Except.ok.inj h
      exact ⟨[], by simp, rfl, rfl⟩
    · rw [parseUnits] at h
      · simp only [bind_eq_ok, ensure_eq_ok, okOr_eq_ok] at h
        obtain ⟨-, hdigitsNe, n, hn, secs, hsecs, sum, hsum, hrest⟩ := h
        obtain ⟨unit, hunit, rfl⟩ := unitSeconds_eq_ok hsecs
        obtain ⟨rfl, -⟩ := checkedAdd_eq_some.mp hsum
        obtain ⟨-, rfl, -⟩ := parseU64_eq_ok.mp hn
        have hdigits : ∀ c ∈ text.takeWhile Char.isDigit, c.isDigit = true := fun c hc ↦ List.mem_takeWhile_imp hc
        have hsplit : text = UnitTerm.text ⟨text.takeWhile Char.isDigit, unit⟩ ++
            (text.dropWhile Char.isDigit).dropWhile isAlphabetic := by
          rw [UnitTerm.text, ← hunit, List.append_assoc, List.takeWhile_append_dropWhile,
            List.takeWhile_append_dropWhile]
        have hlength := congrArg List.length hsplit
        rw [List.length_append, UnitTerm.text, List.length_append, List.length_singleton] at hlength
        obtain ⟨terms, hterms, htext, rfl⟩ := ih (by omega) hrest
        refine ⟨⟨text.takeWhile Char.isDigit, unit⟩ :: terms, ?_, ?_, ?_⟩
        · exact List.forall_mem_cons.mpr ⟨⟨hdigitsNe, hdigits⟩, hterms⟩
        · rw [List.flatMap_cons, ← htext]
          exact hsplit
        · rw [Nat.add_assoc]
          rfl
      · exact hne

variable (original) in
theorem exactly_parseUnitDuration {terms : List UnitTerm} (h : ∀ term ∈ terms, IsDigits term.digits)
    (hne : terms ≠ []) :
    Exactly (parseUnitDuration original (terms.flatMap UnitTerm.text)) (totalOf (unitFactors terms)) := by
  have htext : terms.flatMap UnitTerm.text ≠ [] := by
    obtain ⟨term, terms, rfl⟩ := List.exists_cons_of_ne_nil hne
    simp [UnitTerm.text]
  have hunits := exactly_parseUnits original h (Nat.le_refl _) (Nat.two_pow_pos 64)
  rw [Nat.zero_add] at hunits
  rw [parseUnitDuration, ensure_of htext]
  exact hunits

theorem terms_of_parseUnitDuration {seconds : ℕ} {text : List Char}
    (h : parseUnitDuration original text = .ok seconds) :
    ∃ terms : List UnitTerm, terms ≠ [] ∧ (∀ term ∈ terms, IsDigits term.digits) ∧
      text = terms.flatMap UnitTerm.text ∧ seconds = totalOf (unitFactors terms) := by
  simp only [parseUnitDuration, bind_eq_ok, ensure_eq_ok] at h
  obtain ⟨-, hne, h⟩ := h
  obtain ⟨terms, hterms, rfl, rfl⟩ := terms_of_parseUnits (Nat.le_refl _) h
  refine ⟨terms, ?_, hterms, rfl, Nat.zero_add _⟩
  intro heq
  subst heq
  exact hne rfl

theorem mem_terms {terms : List UnitTerm} (h : ∀ term ∈ terms, IsDigits term.digits) :
    ∀ c ∈ terms.flatMap UnitTerm.text, c.isDigit = true ∨ ∃ unit : TimeUnit, c = unit.letter := by
  intro c hc
  obtain ⟨term, hterm, hc⟩ := List.mem_flatMap.mp hc
  rcases List.mem_append.mp hc with hc | hc
  · exact .inl ((h term hterm).2 c hc)
  · exact .inr ⟨term.unit, List.mem_singleton.mp hc⟩

theorem exists_letter_mem {terms : List UnitTerm} (hne : terms ≠ []) :
    ∃ unit : TimeUnit, unit.letter ∈ terms.flatMap UnitTerm.text := by
  obtain ⟨term, terms, rfl⟩ := List.exists_cons_of_ne_nil hne
  exact ⟨term.unit, by simp [UnitTerm.text]⟩

end Units

section Days

variable {original days : List Char}

theorem total_days (days : List Char) (terms : List UnitTerm) : (DurationForm.units (some days) terms).total =
    digitsValue (unsigned days) * (24 * 60 * 60) + totalOf (unitFactors terms) := rfl

theorem exactly_parseDayDuration {terms : List UnitTerm} (hdays : IsDigits (unsigned days))
    (h : ∀ term ∈ terms, IsDigits term.digits) :
    Exactly (parseDayDuration original days (terms.flatMap UnitTerm.text))
      (DurationForm.units (some days) terms).total := by
  rw [total_days, parseDayDuration]
  refine (exactly_parseU64 hdays).bind (by omega) fun _ ↦ ?_
  refine (exactly_okOr _ _).bind (by omega) fun hlt ↦ ?_
  by_cases hne : terms = []
  · have hnone : totalOf (unitFactors []) = 0 := rfl
    rw [hne, List.flatMap_nil, if_pos rfl, hnone, Nat.add_zero]
    exact exactly_ok hlt
  · have htext : terms.flatMap UnitTerm.text ≠ [] := by
      obtain ⟨unit, hmem⟩ := exists_letter_mem hne
      exact List.ne_nil_of_mem hmem
    rw [if_neg htext]
    exact (exactly_parseUnitDuration _ h hne).bind (by omega) fun _ ↦ exactly_okOr _ _

theorem terms_of_parseDayDuration {rest : List Char} {seconds : ℕ}
    (h : parseDayDuration original days rest = .ok seconds) :
    ∃ terms : List UnitTerm, IsDigits (unsigned days) ∧ (∀ term ∈ terms, IsDigits term.digits) ∧
      rest = terms.flatMap UnitTerm.text ∧ (DurationForm.units (some days) terms).total = seconds := by
  simp only [parseDayDuration, bind_eq_ok, okOr_eq_ok] at h
  obtain ⟨n, hn, daySeconds, hday, h⟩ := h
  obtain ⟨hdays, rfl, -⟩ := parseU64_eq_ok.mp hn
  obtain ⟨rfl, -⟩ := checkedMul_eq_some.mp hday
  split at h
  · next hrest =>
    obtain rfl := Except.ok.inj h
    refine ⟨[], hdays, by simp, hrest, ?_⟩
    rw [total_days]
    exact Nat.add_zero _
  · simp only [bind_eq_ok, okOr_eq_ok] at h
    obtain ⟨units, hunits, hsum⟩ := h
    obtain ⟨terms, -, hterms, htext, rfl⟩ := terms_of_parseUnitDuration hunits
    exact ⟨terms, hdays, hterms, htext, (checkedAdd_eq_some.mp hsum).1⟩

end Days

section Clock

variable {original : List Char}

theorem colonSeconds_eq_ok {hours minutes seconds total : ℕ}
    (h : parseColonDuration.colonSeconds original hours minutes seconds = .ok total) :
    total = hours * (60 * 60) + (minutes * 60 + seconds) ∧ total < 2 ^ 64 := by
  simp only [parseColonDuration.colonSeconds, okOr_eq_ok, Option.bind_eq_bind, Option.bind_eq_some_iff,
    checkedMul_eq_some, checkedAdd_eq_some] at h
  obtain ⟨_, ⟨rfl, -⟩, _, ⟨rfl, -⟩, _, ⟨rfl, -⟩, rfl, hlt⟩ := h
  exact ⟨Nat.add_assoc _ _ _, hlt⟩

theorem exactly_colonSeconds (hours minutes seconds : ℕ) :
    Exactly (parseColonDuration.colonSeconds original hours minutes seconds)
      (hours * (60 * 60) + (minutes * 60 + seconds)) := by
  by_cases hlt : hours * (60 * 60) + (minutes * 60 + seconds) < 2 ^ 64
  · have hboth : hours * (60 * 60) + minutes * 60 < 2 ^ 64 := by
      refine Nat.lt_of_le_of_lt ?_ hlt
      rw [← Nat.add_assoc]
      exact Nat.le_add_right _ _
    have hh : checkedMul hours (60 * 60) = some (hours * (60 * 60)) :=
      checkedMul_eq_some.mpr ⟨rfl, Nat.lt_of_le_of_lt (Nat.le_add_right _ _) hboth⟩
    have hm : checkedMul minutes 60 = some (minutes * 60) :=
      checkedMul_eq_some.mpr ⟨rfl, Nat.lt_of_le_of_lt (Nat.le_add_left _ _) hboth⟩
    have hsum := checkedAdd_eq_some.mpr ⟨rfl, hboth⟩
    have hall := checkedAdd_eq_some.mpr ⟨Nat.add_assoc (hours * (60 * 60)) (minutes * 60) seconds, hlt⟩
    rw [parseColonDuration.colonSeconds, hh, hm]
    simp only [Option.bind_eq_bind, Option.bind_some, hsum, hall]
    exact exactly_ok hlt
  · cases hresult : parseColonDuration.colonSeconds original hours minutes seconds with
    | error e => exact exactly_of_error (by omega)
    | ok total => exact absurd (colonSeconds_eq_ok hresult).2 (by have := (colonSeconds_eq_ok hresult).1; omega)

theorem splitOnP_colon (text : List Char) : text.splitOnP (· = ':') = text.splitOn ':' := by
  rw [List.splitOn_eq_splitOnP]
  congr 1

theorem mem_unsigned {text : List Char} {c : Char} (hc : c ∈ text) : c = '+' ∨ c ∈ unsigned text := by
  unfold unsigned
  split
  · exact List.mem_cons.mp hc
  · exact .inr hc

theorem not_mem_of_digits {text : List Char} (h : IsDigits (unsigned text)) {c : Char} (hplus : c ≠ '+')
    (hdigit : c.isDigit = false) : c ∉ text := by
  intro hc
  rcases mem_unsigned hc with rfl | hc
  · exact hplus rfl
  · rw [h.2 c hc] at hdigit
    cases hdigit

theorem exactly_parseColonDuration {hours minutes : List Char} {seconds : Option (List Char)}
    (h : ∀ factor ∈ (DurationForm.clock hours minutes seconds).factors, IsDigits (unsigned factor.1)) :
    Exactly (parseColonDuration original (DurationForm.clock hours minutes seconds).text)
      (DurationForm.clock hours minutes seconds).total := by
  simp only [DurationForm.factors, List.forall_mem_cons, List.forall_mem_map] at h
  obtain ⟨hhours, hminutes, hseconds⟩ := h
  have hcolon : ∀ {text : List Char}, IsDigits (unsigned text) → ':' ∉ text :=
    fun h ↦ not_mem_of_digits h (by decide) (by decide)
  cases seconds with
  | none =>
    have htotal : (DurationForm.clock hours minutes none).total =
        digitsValue (unsigned hours) * (60 * 60) + (digitsValue (unsigned minutes) * 60 + 0) := rfl
    have hsplit : (hours ++ ':' :: minutes).splitOnP (· = ':') = [hours, minutes] := by
      rw [splitOnP_colon, List.splitOn_append_cons_self_of_not_mem (hcolon hhours),
        List.splitOn_eq_singleton (hcolon hminutes)]
    rw [htotal, DurationForm.text, parseColonDuration, hsplit]
    refine (exactly_parseU64 hhours).bind ?_ fun _ ↦ (exactly_parseU64 hminutes).bind ?_ fun _ ↦
      exactly_colonSeconds _ _ _
    · exact Nat.le_trans (Nat.le_mul_of_pos_right _ (by decide)) (Nat.le_add_right _ _)
    · exact Nat.le_trans (Nat.le_mul_of_pos_right _ (by decide)) (Nat.le_add_left _ _)
  | some seconds =>
    have hs : IsDigits (unsigned seconds) := hseconds seconds (by simp)
    have htotal : (DurationForm.clock hours minutes (some seconds)).total =
        digitsValue (unsigned hours) * (60 * 60) +
          (digitsValue (unsigned minutes) * 60 + digitsValue (unsigned seconds)) := by
      simp [DurationForm.total, DurationForm.factors, totalOf, product, number]
    have hsplit : (hours ++ ':' :: (minutes ++ ':' :: seconds)).splitOnP (· = ':') =
        [hours, minutes, seconds] := by
      rw [splitOnP_colon, List.splitOn_append_cons_self_of_not_mem (hcolon hhours),
        List.splitOn_append_cons_self_of_not_mem (hcolon hminutes), List.splitOn_eq_singleton (hcolon hs)]
    rw [htotal, DurationForm.text, parseColonDuration, hsplit]
    refine (exactly_parseU64 hhours).bind ?_ fun _ ↦ (exactly_parseU64 hminutes).bind ?_ fun _ ↦
      (exactly_parseU64 hs).bind ?_ fun _ ↦ exactly_colonSeconds _ _ _
    · exact Nat.le_trans (Nat.le_mul_of_pos_right _ (by decide)) (Nat.le_add_right _ _)
    · refine Nat.le_trans ?_ (Nat.le_add_left _ _)
      exact Nat.le_trans (Nat.le_mul_of_pos_right _ (by decide)) (Nat.le_add_right _ _)
    · exact Nat.le_trans (Nat.le_add_left _ _) (Nat.le_add_left _ _)

theorem clock_of_parseColonDuration {text : List Char} {total : ℕ}
    (h : parseColonDuration original text = .ok total) :
    ∃ form : DurationForm, form.Signed ∧ form.text = text ∧ form.total = total := by
  have hjoin : [':'].intercalate (text.splitOn ':') = text := List.intercalate_splitOn ':'
  unfold parseColonDuration at h
  split at h
  · next hours minutes hsplit =>
    rw [splitOnP_colon] at hsplit
    simp only [bind_eq_ok] at h
    obtain ⟨_, hparsedHours, _, hparsedMinutes, h⟩ := h
    obtain ⟨hhours, rfl, -⟩ := parseU64_eq_ok.mp hparsedHours
    obtain ⟨hminutes, rfl, -⟩ := parseU64_eq_ok.mp hparsedMinutes
    rw [hsplit] at hjoin
    refine ⟨.clock hours minutes none, ⟨?_, trivial⟩, ?_, ?_⟩
    · simp [DurationForm.factors, hhours, hminutes]
    · rw [← hjoin]
      simp [DurationForm.text]
    · exact (colonSeconds_eq_ok h).1.symm
  · next hours minutes seconds hsplit =>
    rw [splitOnP_colon] at hsplit
    simp only [bind_eq_ok] at h
    obtain ⟨_, hparsedHours, _, hparsedMinutes, _, hparsedSeconds, h⟩ := h
    obtain ⟨hhours, rfl, -⟩ := parseU64_eq_ok.mp hparsedHours
    obtain ⟨hminutes, rfl, -⟩ := parseU64_eq_ok.mp hparsedMinutes
    obtain ⟨hseconds, rfl, -⟩ := parseU64_eq_ok.mp hparsedSeconds
    rw [hsplit] at hjoin
    refine ⟨.clock hours minutes (some seconds), ⟨?_, trivial⟩, ?_, ?_⟩
    · simp [DurationForm.factors, hhours, hminutes, hseconds]
    · rw [← hjoin]
      simp [DurationForm.text]
    · rw [(colonSeconds_eq_ok h).1]
      simp [DurationForm.total, DurationForm.factors, totalOf, product, number]
  · cases h

end Clock

section Forms

variable {form : DurationForm} {original : List Char}

theorem unsigned_of_isDigits {text : List Char} (h : IsDigits text) : unsigned text = text := isDigit_ne_plus h.2

theorem DurationForm.WellFormed.signed (h : form.WellFormed) : form.Signed := by
  refine ⟨fun factor hm ↦ ?_, h.nonEmpty⟩
  have hdigits := h.digits factor hm
  rwa [unsigned_of_isDigits hdigits]

/-- The numbers of a form stand in its text. -/
theorem mem_text {factor : List Char × ℕ} (hm : factor ∈ form.factors) : ∀ c ∈ factor.1, c ∈ form.text := by
  intro c hc
  have hterms : ∀ terms : List UnitTerm, factor ∈ unitFactors terms → c ∈ terms.flatMap UnitTerm.text := by
    intro terms hfactor
    obtain ⟨term, hterm, rfl⟩ := List.mem_map.mp hfactor
    exact List.mem_flatMap.mpr ⟨term, hterm, List.mem_append_left _ hc⟩
  cases form with
  | plain seconds =>
    obtain rfl := List.mem_singleton.mp hm
    exact hc
  | units days terms =>
    cases days with
    | none => exact hterms terms hm
    | some days =>
      rcases List.mem_cons.mp hm with rfl | hm
      · exact List.mem_append_left _ hc
      · exact List.mem_append_right _ (List.mem_cons_of_mem _ (hterms terms hm))
  | clock hours minutes seconds =>
    cases seconds with
    | none =>
      simp only [DurationForm.factors, Option.toList_none, List.map_nil, List.mem_cons, List.not_mem_nil,
        or_false] at hm
      rcases hm with rfl | rfl
      · exact List.mem_append_left _ hc
      · exact List.mem_append_right _ (List.mem_cons_of_mem _ hc)
    | some seconds =>
      simp only [DurationForm.factors, Option.toList_some, List.map_cons, List.map_nil, List.mem_cons,
        List.not_mem_nil, or_false] at hm
      simp only [DurationForm.text, List.mem_append, List.mem_cons]
      rcases hm with rfl | rfl | rfl
      · exact .inl hc
      · exact .inr (.inr (.inl hc))
      · exact .inr (.inr (.inr (.inr hc)))

theorem DurationForm.Signed.wellFormed (h : form.Signed) (hplus : '+' ∉ form.text) : form.WellFormed := by
  refine ⟨fun factor hm ↦ ?_, h.nonEmpty⟩
  have hdigits := h.digits factor hm
  rwa [unsigned_of_not_mem fun hc ↦ hplus (mem_text hm _ hc)] at hdigits

/-- A text with something other than digits, units and plus signs is read in neither way. -/
theorem error_of_parseUnitDuration (original : List Char) {text : List Char}
    (h : (∀ unit : TimeUnit, unit.letter ∉ text) ∨ ∃ c ∈ text, c.isDigit = false ∧ ∀ unit : TimeUnit, c ≠ unit.letter) :
    ∃ e, parseUnitDuration original text = .error e := by
  cases hparse : parseUnitDuration original text with
  | error e => exact ⟨e, rfl⟩
  | ok seconds =>
    obtain ⟨terms, hne, hterms, rfl, -⟩ := terms_of_parseUnitDuration hparse
    rcases h with h | ⟨c, hc, hdigit, hunit⟩
    · obtain ⟨unit, hmem⟩ := exists_letter_mem hne
      exact absurd hmem (h unit)
    · rcases mem_terms hterms c hc with hc | ⟨unit, rfl⟩
      · rw [hc] at hdigit
        cases hdigit
      · exact absurd rfl (hunit unit)

theorem parseUnsigned_eq_none {text : List Char} {c : Char} (hc : c ∈ text) (hplus : c ≠ '+')
    (hdigit : c.isDigit = false) : parseUnsigned 10 64 text = none := by
  cases hparse : parseUnsigned 10 64 text with
  | none => rfl
  | some n => exact absurd hc (not_mem_of_digits (parseUnsigned_eq_some_iff.mp hparse).1 hplus hdigit)

theorem total_plain (seconds : List Char) : (DurationForm.plain seconds).total = digitsValue (unsigned seconds) := by
  simp [DurationForm.total, DurationForm.factors, totalOf, product, number]

theorem exactly_plain {seconds : List Char} (h : (DurationForm.plain seconds).WellFormed)
    (htext : original.filter (!isWhitespace ·) = seconds) :
    Exactly (parseDuration original) (DurationForm.plain seconds).total := by
  have hdigits : IsDigits seconds := h.digits (seconds, 1) List.mem_cons_self
  have hpos := h.nonEmpty
  have hletter : ∀ {c : Char}, c.isDigit = false → c ∉ seconds := fun hc hm ↦ by
    rw [hdigits.2 _ hm] at hc
    cases hc
  have hunits : ∀ unit : TimeUnit, unit.letter ∉ seconds := fun unit ↦ hletter unit.isDigit_letter
  obtain ⟨e, herror⟩ := error_of_parseUnitDuration original (.inl hunits)
  rw [total_plain, parseDuration, htext, if_neg hdigits.1, splitOnce_of_not_mem (hletter (by decide))]
  dsimp only
  rw [herror]
  dsimp only
  by_cases hlt : digitsValue (unsigned seconds) < 2 ^ 64
  · have hparse := parseUnsigned_eq_some_iff.mpr ⟨by rwa [unsigned_of_isDigits hdigits], rfl, hlt⟩
    obtain ⟨n, hn⟩ : ∃ n, digitsValue (unsigned seconds) = n + 1 := Nat.exists_eq_succ_of_ne_zero (Nat.ne_of_gt hpos)
    rw [hparse, hn]
    exact exactly_ok (hn ▸ hlt)
  · have hparse : parseUnsigned 10 64 seconds = none := by
      cases hparse : parseUnsigned 10 64 seconds with
      | none => rfl
      | some n =>
        obtain ⟨-, rfl, hn⟩ := parseUnsigned_eq_some_iff.mp hparse
        exact absurd hn hlt
    rw [hparse]
    dsimp only
    rw [if_neg (hletter (by decide))]
    exact exactly_of_error (by omega)

theorem exactly_units {days : Option (List Char)} {terms : List UnitTerm}
    (h : (DurationForm.units days terms).WellFormed)
    (htext : original.filter (!isWhitespace ·) = (DurationForm.units days terms).text) :
    Exactly (parseDuration original) (DurationForm.units days terms).total := by
  have hterms : ∀ term ∈ terms, IsDigits term.digits := fun term hm ↦
    h.digits (term.digits, term.unit.secs) (List.mem_append_right _ (List.mem_map.mpr ⟨term, hm, rfl⟩))
  have hother : ∀ {c : Char}, c.isDigit = false → (∀ unit : TimeUnit, c ≠ unit.letter) →
      c ∉ terms.flatMap UnitTerm.text := by
    intro c hdigit hunit hm
    rcases mem_terms hterms c hm with hc | ⟨unit, rfl⟩
    · rw [hc] at hdigit
      cases hdigit
    · exact hunit unit rfl
  rw [parseDuration, htext]
  cases days with
  | some days =>
    have hdays : IsDigits days := h.digits (days, 24 * 60 * 60) List.mem_cons_self
    have hd : 'd' ∉ days := fun hm ↦ absurd (hdays.2 _ hm) (by decide)
    rw [DurationForm.text, if_neg (by simp), splitOnce_append hd]
    exact exactly_parseDayDuration (by rwa [unsigned_of_isDigits hdays]) hterms
  | none =>
    have hne : terms ≠ [] := h.nonEmpty.resolve_left fun hnone ↦ hnone rfl
    obtain ⟨unit, hmem⟩ := exists_letter_mem hne
    have hd : 'd' ∉ terms.flatMap UnitTerm.text := hother (by decide) fun unit ↦ by cases unit <;> decide
    have hcolon : ':' ∉ terms.flatMap UnitTerm.text := hother (by decide) fun unit ↦ by cases unit <;> decide
    have htotal : (DurationForm.units none terms).total = totalOf (unitFactors terms) := rfl
    have hunits := exactly_parseUnitDuration original hterms hne
    rw [htotal, DurationForm.text, if_neg (List.ne_nil_of_mem hmem), splitOnce_of_not_mem hd]
    dsimp only
    by_cases hlt : totalOf (unitFactors terms) < 2 ^ 64
    · rw [Exactly, if_pos hlt] at hunits
      rw [hunits]
      exact exactly_ok hlt
    · rw [Exactly, if_neg hlt] at hunits
      obtain ⟨e, he⟩ := hunits
      rw [he, parseUnsigned_eq_none hmem (by cases unit <;> decide) unit.isDigit_letter]
      dsimp only
      rw [if_neg hcolon]
      exact exactly_of_error (by omega)

theorem exactly_clock {hours minutes : List Char} {seconds : Option (List Char)}
    (h : (DurationForm.clock hours minutes seconds).WellFormed)
    (htext : original.filter (!isWhitespace ·) = (DurationForm.clock hours minutes seconds).text) :
    Exactly (parseDuration original) (DurationForm.clock hours minutes seconds).total := by
  have hcolon : ':' ∈ (DurationForm.clock hours minutes seconds).text := by
    cases seconds <;> simp [DurationForm.text]
  have hd : 'd' ∉ (DurationForm.clock hours minutes seconds).text := by
    have hnot : ∀ factor ∈ (DurationForm.clock hours minutes seconds).factors, 'd' ∉ factor.1 :=
      fun factor hm hd ↦ absurd ((h.digits factor hm).2 _ hd) (by decide)
    cases seconds <;> simpa [DurationForm.factors, DurationForm.text] using hnot
  obtain ⟨e, herror⟩ := error_of_parseUnitDuration original
    (.inr ⟨':', hcolon, by decide, fun unit ↦ by cases unit <;> decide⟩)
  rw [parseDuration, htext, if_neg (List.ne_nil_of_mem hcolon), splitOnce_of_not_mem hd]
  dsimp only
  rw [herror, parseUnsigned_eq_none hcolon (by decide) (by decide)]
  dsimp only
  rw [if_pos hcolon]
  exact exactly_parseColonDuration h.signed.digits

/-- A duration of one of the forms is its total, or an error. -/
theorem exactly_parseDuration (h : form.WellFormed) (htext : original.filter (!isWhitespace ·) = form.text) :
    Exactly (parseDuration original) form.total := by
  cases form with
  | plain seconds => exact exactly_plain h htext
  | units days terms => exact exactly_units h htext
  | clock hours minutes seconds => exact exactly_clock h htext

theorem signed_unitFactors {terms : List UnitTerm} (h : ∀ term ∈ terms, IsDigits term.digits) :
    ∀ factor ∈ unitFactors terms, IsDigits (unsigned factor.1) := by
  rw [unitFactors, List.forall_mem_map]
  intro term hm
  rw [unsigned_of_isDigits (h term hm)]
  exact h term hm

/-- Whatever is accepted is of one of the forms, and the result is its total. -/
theorem form_of_parseDuration {seconds : ℕ} (h : parseDuration original = .ok seconds) :
    ∃ form : DurationForm, form.Signed ∧ original.filter (!isWhitespace ·) = form.text ∧
      form.total = seconds := by
  rw [parseDuration] at h
  split at h
  · cases h
  split at h
  · next days rest hsplit =>
    obtain ⟨terms, hdays, hterms, rfl, htotal⟩ := terms_of_parseDayDuration h
    refine ⟨.units (some days) terms, ⟨?_, .inl (by simp)⟩, eq_of_splitOnce hsplit, htotal⟩
    exact List.forall_mem_cons.mpr ⟨hdays, signed_unitFactors hterms⟩
  split at h
  · next duration hunits =>
    obtain rfl := Except.ok.inj h
    obtain ⟨terms, hne, hterms, htext, rfl⟩ := terms_of_parseUnitDuration hunits
    exact ⟨.units none terms, ⟨signed_unitFactors hterms, .inr hne⟩, htext, rfl⟩
  split at h
  · next n hparse =>
    obtain rfl := Except.ok.inj h
    obtain ⟨hdigits, hvalue, -⟩ := parseUnsigned_eq_some_iff.mp hparse
    refine ⟨.plain _, ⟨List.forall_mem_singleton.mpr hdigits, ?_⟩, rfl, (total_plain _).trans hvalue⟩
    rw [DurationForm.NonEmpty, hvalue]
    exact Nat.succ_pos n
  split at h
  · obtain ⟨form, hsigned, htext, htotal⟩ := clock_of_parseColonDuration h
    exact ⟨form, hsigned, htext.symm, htotal⟩
  · cases h

/-- A duration of one of the forms is exact where everything fits in 64 bits and rejected where
something does not. Whatever else is accepted differs from a form by plus signs alone. -/
theorem parseDuration_exact (original : List Char) :
    (∀ form : DurationForm, form.WellFormed → original.filter (!isWhitespace ·) = form.text →
      (form.Fits → parseDuration original = .ok form.total) ∧
      (¬ form.Fits → ∃ e, parseDuration original = .error e)) ∧
    ∀ seconds, parseDuration original = .ok seconds →
      ∃ form : DurationForm, form.Signed ∧ original.filter (!isWhitespace ·) = form.text ∧
        form.total = seconds ∧ ('+' ∉ original → form.WellFormed) := by
  refine ⟨fun form hform htext ↦ ?_, fun seconds h ↦ ?_⟩
  · have hexact := exactly_parseDuration hform htext
    rw [fits_iff]
    rw [Exactly] at hexact
    constructor
    · intro hlt
      rwa [if_pos hlt] at hexact
    · intro hlt
      rwa [if_neg hlt] at hexact
  · obtain ⟨form, hsigned, htext, htotal⟩ := form_of_parseDuration h
    refine ⟨form, hsigned, htext, htotal, fun hplus ↦ hsigned.wellFormed fun hm ↦ hplus ?_⟩
    rw [← htext] at hm
    exact List.mem_of_mem_filter hm

end Forms

end Rskrb5.Krb5Conf
