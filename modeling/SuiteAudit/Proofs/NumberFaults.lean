import SuiteAudit.Proofs.Accepted
import SuiteAudit.Proofs.NumberTexts
import SuiteAudit.Proofs.Quotients

/-!
# Which kind of failure a configuration is refused with

A refused configuration holds a name that is not known or a bad value, with one exception: nothing,
an array or an object where a number is wanted, an infinity where it is a whole one, and a whole
number beyond the doubles where it is a double. Such a value strays (`strays_toWhole_iff`,
`strays_toDecimal_iff`). A reading stops at the first entry that is refused
(`strays_foldlM_iff`), so a whole configuration strays exactly if that entry does: `config_faults`.
-/

namespace SuiteAudit

open Decimal

/-! ### Readings that stray -/

section

variable {ε δ α β : Type} {kindOf : ε → FaultKind} {kind : FaultKind}

/-- **A reading strays**: it fails, and neither as an unknown name nor as a bad value. -/
def Strays (kindOf : ε → FaultKind) (kind : FaultKind) (x : Except ε α) : Prop :=
  (kind ≠ .key ∧ kind ≠ .value) ∧ ∃ e, x = .error e ∧ kindOf e = kind

theorem not_strays_ok (a : α) : ¬Strays kindOf kind (.ok a : Except ε α) := by
  simp [Strays]

theorem strays_error_iff (e : ε) : Strays kindOf kind (.error e : Except ε α) ↔
    (kind ≠ .key ∧ kind ≠ .value) ∧ kindOf e = kind := by
  simp [Strays]

/-- An unknown name and a bad value do not stray. -/
theorem not_strays_error {e : ε} (expected : kindOf e = .key ∨ kindOf e = .value) :
    ¬Strays kindOf kind (.error e : Except ε α) := by
  rw [strays_error_iff]
  rintro ⟨⟨notKey, notValue⟩, rfl⟩
  exact expected.elim notKey notValue

/-- Two readings in turn stray where the first does, or the second after it. -/
theorem strays_bind_iff {x : Except ε α} {f : α → Except ε β} :
    Strays kindOf kind (x >>= f) ↔
      Strays kindOf kind x ∨ ∃ a, x = .ok a ∧ Strays kindOf kind (f a) := by
  cases x with
  | error e =>
    rw [show (Except.error e >>= f) = .error e from rfl]
    simp [strays_error_iff]
  | ok a =>
    rw [show (Except.ok a >>= f) = f a from rfl]
    simp [not_strays_ok]

theorem strays_map_iff {x : Except ε α} (f : α → β) :
    Strays kindOf kind (x.map f) ↔ Strays kindOf kind x := by
  simp [Strays, map_eq_error]

theorem strays_mapError_iff {x : Except δ α} (f : δ → ε) :
    Strays kindOf kind (x.mapError f) ↔ Strays (fun e => kindOf (f e)) kind x := by
  cases x <;> simp [Strays, Except.mapError]

/-- Entries are read up to one that is `bad`. -/
def StopsAt (step : β → α → Except ε β) (start : β) (entries : List α) (bad : α → Prop) : Prop :=
  ∃ before entry after, entries = before ++ entry :: after ∧
    (∃ reached, before.foldlM step start = .ok reached) ∧ bad entry

theorem stopsAt_cons_iff {step : β → α → Except ε β} {start : β} {entry : α} {rest : List α}
    {bad : α → Prop} : StopsAt step start (entry :: rest) bad ↔
      bad entry ∨ ∃ next, step start entry = .ok next ∧ StopsAt step next rest bad := by
  constructor
  · rintro ⟨_ | ⟨first, before⟩, stop, after, split, ⟨reached, hReached⟩, hBad⟩
    · obtain ⟨rfl, -⟩ := List.cons.inj split
      exact .inl hBad
    · obtain ⟨rfl, rfl⟩ := List.cons.inj split
      rw [List.foldlM_cons, bind_eq_ok] at hReached
      obtain ⟨next, hNext, hReached⟩ := hReached
      exact .inr ⟨next, hNext, before, stop, after, rfl, ⟨reached, hReached⟩, hBad⟩
  · rintro (hBad | ⟨next, hNext, before, stop, after, rfl, ⟨reached, hReached⟩, hBad⟩)
    · exact ⟨[], entry, rest, rfl, ⟨start, rfl⟩, hBad⟩
    · refine ⟨entry :: before, stop, after, rfl, ⟨reached, ?_⟩, hBad⟩
      rw [List.foldlM_cons, hNext]
      exact hReached

/-- **A reading of entries strays at the first one that is refused**, where whether an entry strays
does not depend on those before it. -/
theorem strays_foldlM_iff {step : β → α → Except ε β} {bad : α → Prop}
    (stepwise : ∀ b a, Strays kindOf kind (step b a) ↔ bad a) (start : β) (entries : List α) :
    Strays kindOf kind (entries.foldlM step start) ↔ StopsAt step start entries bad := by
  induction entries generalizing start with
  | nil =>
    refine iff_of_false (not_strays_ok start) ?_
    rintro ⟨before, entry, after, split, -⟩
    simp at split
  | cons entry rest ih =>
    rw [List.foldlM_cons, strays_bind_iff, stopsAt_cons_iff, stepwise]
    simp only [ih]

end

/-! ### Values without a number -/

/-- **A value without a whole number**, other than a bad one: a text that is no numeral and
not-a-number are bad. -/
inductive WithoutWhole : FaultKind → Json → Prop where
  | null : WithoutWhole .type .null
  | array (elements : List Json) : WithoutWhole .type (.array elements)
  | object (fields : List (Text × Json)) : WithoutWhole .type (.object fields)
  | infinity : WithoutWhole .overflow (.float (.ofBits Binary64.plusBits))
  | negativeInfinity : WithoutWhole .overflow (.float (.ofBits Binary64.minusBits))

/-- **A value without a double**, other than a bad one. The doubles end half a unit beyond the
greatest of them. -/
inductive WithoutDecimal : FaultKind → Json → Prop where
  | null : WithoutDecimal .type .null
  | array (elements : List Json) : WithoutDecimal .type (.array elements)
  | object (fields : List (Text × Json)) : WithoutDecimal .type (.object fields)
  | beyond (n : Int) (h : 2 ^ 1024 - 2 ^ 970 ≤ n.natAbs) : WithoutDecimal .overflow (.int n)

section

variable {kind : FaultKind} {value : Json}

/-- The doubles without a whole part that are no bad values are the infinities. -/
theorem wholePart_eq_infinite_iff {x : Float} : wholePart x = .error .infinite ↔
    x = .ofBits Binary64.plusBits ∨ x = .ofBits Binary64.minusBits := by
  constructor
  · intro h
    unfold wholePart at h
    split at h
    · cases h
    · next hNone =>
      rcases Binary64.ofFloat?_eq_none hNone with rfl | infinite
      · have nan : (Float.ofBits Binary64.nanBits).isNaN = true := by decide +kernel
        rw [nan] at h
        cases h
      · exact infinite
  · rintro (rfl | rfl) <;> decide +kernel

/-- A value of the wrong type strays as such, and as nothing else. -/
theorem strays_type_iff {ε α : Type} {kindOf : ε → FaultKind} {e : ε} (h : kindOf e = .type) :
    Strays kindOf kind (.error e : Except ε α) ↔ kind = .type := by
  rw [strays_error_iff, h]
  constructor
  · exact fun stray => stray.2.symm
  · rintro rfl
    decide

/-- **Which values stray as whole numbers.** -/
theorem strays_toWhole_iff :
    Strays NumberError.faultKind kind value.toWhole ↔ WithoutWhole kind value := by
  cases value with
  | null => exact (strays_type_iff rfl).trans ⟨fun h => h ▸ .null, fun h => by cases h; rfl⟩
  | array elements =>
    exact (strays_type_iff rfl).trans ⟨fun h => h ▸ .array elements, fun h => by cases h; rfl⟩
  | object fields =>
    exact (strays_type_iff rfl).trans ⟨fun h => h ▸ .object fields, fun h => by cases h; rfl⟩
  | bool b => exact iff_of_false (not_strays_ok _) nofun
  | int n => exact iff_of_false (not_strays_ok _) nofun
  | float x =>
    rw [Json.toWhole, strays_mapError_iff]
    constructor
    · rintro ⟨stray, e, hError, hKind⟩
      cases e with
      | notANumber => exact absurd hKind.symm stray.2
      | infinite =>
        obtain rfl : FaultKind.overflow = kind := hKind
        rcases wholePart_eq_infinite_iff.mp hError with rfl | rfl
        · exact .infinity
        · exact .negativeInfinity
    · rintro (_ | _)
      · exact ⟨by decide, .infinite, wholePart_eq_infinite_iff.mpr (.inl rfl), rfl⟩
      · exact ⟨by decide, .infinite, wholePart_eq_infinite_iff.mpr (.inr rfl), rfl⟩
  | string s =>
    refine iff_of_false ?_ nofun
    rw [Json.toWhole]
    split
    · exact not_strays_ok _
    · exact not_strays_error (.inr rfl)
    · exact not_strays_error (.inr rfl)

/-- **Which values stray as doubles.** -/
theorem strays_toDecimal_iff :
    Strays NumberError.faultKind kind value.toDecimal ↔ WithoutDecimal kind value := by
  cases value with
  | null => exact (strays_type_iff rfl).trans ⟨fun h => h ▸ .null, fun h => by cases h; rfl⟩
  | array elements =>
    exact (strays_type_iff rfl).trans ⟨fun h => h ▸ .array elements, fun h => by cases h; rfl⟩
  | object fields =>
    exact (strays_type_iff rfl).trans ⟨fun h => h ▸ .object fields, fun h => by cases h; rfl⟩
  | bool b => exact iff_of_false (not_strays_ok _) nofun
  | float x => exact iff_of_false (not_strays_ok _) nofun
  | int n =>
    rw [Json.toDecimal, ofInt?]
    by_cases fits : quotientFits n 1 = true
    · rw [if_pos fits]
      refine iff_of_false (not_strays_ok _) ?_
      rintro ⟨⟩
      next h => exact absurd (quotientFits_whole_iff.mp fits) (Nat.not_lt.mpr h)
    · rw [if_neg fits]
      have beyond := Nat.not_lt.mp (mt quotientFits_whole_iff.mpr fits)
      refine (strays_error_iff _).trans ⟨?_, ?_⟩
      · rintro ⟨-, rfl⟩
        exact .beyond n beyond
      · rintro ⟨⟩
        exact ⟨by decide, rfl⟩
  | string s =>
    refine iff_of_false ?_ nofun
    rw [Json.toDecimal]
    split
    · exact not_strays_ok _
    · exact not_strays_error (.inr rfl)

end

/-! ### Entries -/

section

variable {kind : FaultKind}

/-- A value without the number that a field takes. -/
def NumberField.Without {σ : Type} (kind : FaultKind) (value : Json) : NumberField σ → Prop
  | whole _ _ _ => WithoutWhole kind value
  | decimal _ _ _ => WithoutDecimal kind value

/-- A field of a record of numbers that is set from a value without such a number. -/
def BadNumber {σ : Type} (fields : List (NumberField σ)) (kind : FaultKind)
    (entry : Text × Json) : Prop :=
  ∃ f, fields.find? (·.name == entry.1) = some f ∧ f.Without kind entry.2

/-- A weight of a category that is set from a value without a whole number. -/
def BadWeight (kind : FaultKind) (entry : Text × Json) : Prop :=
  ∃ c, categoryNamed? entry.1 = some c ∧ WithoutWhole kind entry.2

/-- A row of weights that is read up to such a weight. -/
def BadRow (kind : FaultKind) (entry : Text × Json) : Prop :=
  ∃ testType row, TestType.read entry.1.lower = .ok testType ∧ entry.2 = .object row ∧
    StopsAt readWeight [] row (BadWeight kind)

theorem strays_setNumber_iff {σ : Type} (title : Text) (fields : List (NumberField σ)) (s : σ)
    (entry : Text × Json) :
    Strays ConfigError.faultKind kind (setNumber title fields s entry) ↔
      BadNumber fields kind entry := by
  unfold setNumber BadNumber
  cases fields.find? (·.name == entry.1) with
  | none => exact iff_of_false (not_strays_error (.inl rfl)) nofun
  | some f =>
    simp only [Option.some.injEq, exists_eq_left', strays_mapError_iff]
    cases f with
    | whole name get set => exact (strays_map_iff _).trans strays_toWhole_iff
    | decimal name get set => exact (strays_map_iff _).trans strays_toDecimal_iff

theorem strays_readWeight_iff (entries : WeightEntries) (entry : Text × Json) :
    Strays ConfigError.faultKind kind (readWeight entries entry) ↔ BadWeight kind entry := by
  unfold readWeight BadWeight
  cases categoryNamed? entry.1 with
  | none => exact iff_of_false (not_strays_error (.inl rfl)) nofun
  | some c =>
    simp only [Option.some.injEq, exists_eq_left', ← strays_toWhole_iff]
    cases entry.2.toWhole with
    | ok weight => exact iff_of_false (not_strays_ok _) (not_strays_ok _)
    | error e => rw [strays_error_iff, strays_error_iff]; rfl

theorem strays_readRow_iff (testType : TestType) (row : List (Text × Json)) :
    Strays ConfigError.faultKind kind (readRow testType row) ↔
      StopsAt readWeight [] row (BadWeight kind) := by
  rw [readRow, strays_bind_iff, strays_foldlM_iff strays_readWeight_iff, or_iff_left]
  -- A row as a whole can only be a bad value.
  rintro ⟨entries, -, stray⟩
  dsimp only at stray
  split at stray
  · exact not_strays_error (.inr rfl) stray
  · split at stray
    · exact not_strays_error (.inr rfl) stray
    · exact not_strays_ok _ stray

theorem strays_readTableRow_iff (table : WeightTable) (entry : Text × Json) :
    Strays ConfigError.faultKind kind (readTableRow table entry) ↔ BadRow kind entry := by
  unfold readTableRow BadRow
  cases TestType.read entry.1.lower with
  | error e => exact iff_of_false (not_strays_error (.inr rfl)) nofun
  | ok testType =>
    dsimp only
    split
    · next row hRow =>
      rw [strays_map_iff, strays_readRow_iff]
      constructor
      · exact fun stops => ⟨testType, row, rfl, hRow, stops⟩
      · rintro ⟨_, others, ⟨⟩, hOthers, stops⟩
        obtain rfl := Json.object.inj (hRow.symm.trans hOthers)
        exact stops
    · next noRow =>
      refine iff_of_false (not_strays_error (.inr rfl)) ?_
      rintro ⟨_, row, -, hRow, -⟩
      exact noRow row hRow

end

/-! ### Configurations -/

section

variable {kind : FaultKind}

theorem not_strays_checkSchema (raw : List (Text × Json)) :
    ¬Strays ConfigError.faultKind kind (checkSchema raw) := by
  unfold checkSchema
  split
  · exact not_strays_error (.inl rfl)
  · split
    · exact not_strays_error (.inr rfl)
    · exact not_strays_ok _

theorem not_strays_readSetting (g : Registry) (entry : Text × Json) :
    ¬Strays ConfigError.faultKind kind (readSetting g entry) := by
  unfold readSetting
  dsimp only
  split
  · split
    · exact not_strays_ok _
    · exact not_strays_error (.inr rfl)
  · exact not_strays_error (.inl rfl)

theorem not_strays_readSettings (g : Registry) : ∀ entries : List (Text × Json),
    ¬Strays ConfigError.faultKind kind (entries.mapM (readSetting g))
  | [] => not_strays_ok _
  | entry :: rest => by
    rw [List.mapM_cons, strays_bind_iff, not_or]
    refine ⟨not_strays_readSetting g entry, ?_⟩
    rintro ⟨setting, -, stray⟩
    rw [strays_bind_iff] at stray
    rcases stray with stray | ⟨settings, -, stray⟩
    · exact not_strays_readSettings g rest stray
    · exact not_strays_ok _ stray

theorem not_strays_readFramework (name : Text) :
    ¬Strays ConfigError.faultKind kind (readFramework name) := by
  unfold readFramework
  split
  · exact not_strays_ok _
  · split
    · exact not_strays_ok _
    · exact not_strays_error (.inr rfl)

end

section

variable (g : Registry) (raw : List (Text × Json))

/-- **A configuration is read up to a value without the number that is wanted there**: among the
weights, the penalties or the smell limits, which are read in this order and after the rules. -/
inductive HoldsStray (kind : FaultKind) : Prop where
  | weights (schema : checkSchema raw = .ok ())
    (rules : ∃ rules, (partOf raw "rules").mapM (readSetting g) = .ok rules)
    (stops : StopsAt readTableRow [] (partOf raw "weights") (BadRow kind))
  | penalties (schema : checkSchema raw = .ok ())
    (rules : ∃ rules, (partOf raw "rules").mapM (readSetting g) = .ok rules)
    (weights : ∃ weights, (partOf raw "weights").foldlM readTableRow [] = .ok weights)
    (stops : StopsAt (setNumber PenaltyPolicy.title PenaltyPolicy.fields) {}
      (partOf raw "penalties") (BadNumber PenaltyPolicy.fields kind))
  | smells (schema : checkSchema raw = .ok ())
    (rules : ∃ rules, (partOf raw "rules").mapM (readSetting g) = .ok rules)
    (weights : ∃ weights, (partOf raw "weights").foldlM readTableRow [] = .ok weights)
    (penalties : ∃ penalties, PenaltyPolicy.ofFields (partOf raw "penalties") = .ok penalties)
    (stops : StopsAt (setNumber SmellLimits.title SmellLimits.fields) {}
      (partOf raw "smells") (BadNumber SmellLimits.fields kind))

variable {g raw} {kind : FaultKind}

/-- A configuration strays exactly if it holds a value that does, before all other faults. -/
theorem strays_ofFields_iff :
    Strays ConfigError.faultKind kind (Config.ofFields g raw) ↔ HoldsStray g raw kind := by
  have atWeights : Strays ConfigError.faultKind kind _ ↔ _ :=
    strays_foldlM_iff strays_readTableRow_iff [] (partOf raw "weights")
  have atPenalties : Strays ConfigError.faultKind kind (PenaltyPolicy.ofFields _) ↔ _ :=
    strays_foldlM_iff (strays_setNumber_iff _ PenaltyPolicy.fields) {} (partOf raw "penalties")
  have atSmells : Strays ConfigError.faultKind kind (SmellLimits.ofFields _) ↔ _ :=
    strays_foldlM_iff (strays_setNumber_iff _ SmellLimits.fields) {} (partOf raw "smells")
  simp only [Config.ofFields, strays_bind_iff, not_strays_checkSchema, not_strays_readSettings,
    not_strays_readFramework, not_strays_ok, false_or, or_false, and_false, exists_false]
  constructor
  · rintro ⟨_, schema, rules, hRules, stray | ⟨weights, hWeights, stray | ⟨limits, hLimits, stray⟩⟩⟩
    · exact .weights schema ⟨rules, hRules⟩ (atWeights.mp stray)
    · exact .penalties schema ⟨rules, hRules⟩ ⟨weights, hWeights⟩ (atPenalties.mp stray)
    · exact .smells schema ⟨rules, hRules⟩ ⟨weights, hWeights⟩ ⟨limits, hLimits⟩
        (atSmells.mp stray)
  · intro h
    cases h with
    | weights schema rules stops =>
      exact ⟨_, schema, _, rules.choose_spec, .inl (atWeights.mpr stops)⟩
    | penalties schema rules weights stops =>
      exact ⟨_, schema, _, rules.choose_spec, .inr ⟨_, weights.choose_spec,
        .inl (atPenalties.mpr stops)⟩⟩
    | smells schema rules weights penalties stops =>
      exact ⟨_, schema, _, rules.choose_spec, .inr ⟨_, weights.choose_spec,
        .inr ⟨_, penalties.choose_spec, atSmells.mpr stops⟩⟩⟩

end

/-- **A configuration is accepted, or refused for an unknown name or a bad value**, unless the first
thing in it that is refused is a value without the number that is wanted there. Then the failure is
of a kind of its own: nothing, an array and an object are of the wrong type, and an infinity and a
whole number beyond the doubles are out of range. -/
theorem config_faults (g : Registry) (raw : List (Text × Json)) :
    (((∃ config, Config.ofFields g raw = .ok config) ∨ ∃ e, Config.ofFields g raw = .error e ∧
          (e.faultKind = .key ∨ e.faultKind = .value)) ↔
        ∀ kind, ¬HoldsStray g raw kind) ∧
      ∀ kind, HoldsStray g raw kind →
        ∃ e, Config.ofFields g raw = .error e ∧ e.faultKind = kind := by
  simp only [← strays_ofFields_iff]
  refine ⟨?_, fun kind stray => stray.2⟩
  cases hRead : Config.ofFields g raw with
  | ok config => exact iff_of_true (.inl ⟨config, rfl⟩) fun kind => not_strays_ok config
  | error e =>
    simp only [strays_error_iff, reduceCtorEq, exists_false, false_or, Except.error.injEq,
      exists_eq_left']
    constructor
    · rintro expected kind ⟨⟨notKey, notValue⟩, rfl⟩
      exact expected.elim notKey notValue
    · intro expected
      by_contra stray
      exact expected e.faultKind ⟨not_or.mp stray, rfl⟩

/-- A penalty that is set to nothing. -/
example (g : Registry) :
    HoldsStray g [("penalties", .object [("per_error", .null)])] .type :=
  .penalties rfl ⟨[], rfl⟩ ⟨[], rfl⟩ ⟨[], _, [], rfl, ⟨_, rfl⟩, _, rfl, .null⟩

end SuiteAudit
