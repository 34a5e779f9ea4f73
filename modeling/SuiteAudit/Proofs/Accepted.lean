import Mathlib.Data.List.Forall2
import SuiteAudit.Config.Read

/-!
# What an accepted configuration keeps

A configuration that is accepted has been checked on the way in. Its rows of weights are `Balanced`:
no weight is negative, and together they are a hundred. So the weights in force are balanced for
every type of test (`balanced_weightsFor`), whether they are built in or a user's own.
-/

namespace SuiteAudit

/-! ### Readings that succeed -/

section

variable {ε α β : Type}

/-- Two readings in turn succeed where both do. -/
theorem bind_eq_ok {x : Except ε α} {f : α → Except ε β} {b : β} :
    (x >>= f) = .ok b ↔ ∃ a, x = .ok a ∧ f a = .ok b := by
  cases x <;> simp [bind, Except.bind]

theorem map_eq_ok {x : Except ε α} {f : α → β} {b : β} :
    x.map f = .ok b ↔ ∃ a, x = .ok a ∧ f a = b := by
  cases x <;> simp [Except.map]

theorem map_eq_error {x : Except ε α} {f : α → β} {e : ε} :
    x.map f = .error e ↔ x = .error e := by
  cases x <;> simp [Except.map]

/-- **What every step keeps, a whole reading keeps.** -/
theorem foldlM_invariant (P : β → Prop) {step : β → α → Except ε β}
    (kept : ∀ x a y, P x → step x a = .ok y → P y) :
    ∀ (as : List α) {x y : β}, P x → as.foldlM step x = .ok y → P y
  | [], x, y, hx, h => by
    obtain rfl : x = y := by simpa [pure, Except.pure] using h
    exact hx
  | a :: as, x, y, hx, h => by
    rw [List.foldlM_cons, bind_eq_ok] at h
    obtain ⟨next, hStep, hRest⟩ := h
    exact foldlM_invariant P kept as (kept x a next hx hStep) hRest

theorem mapM_cons_eq_ok {f : α → Except ε β} {x : α} {xs : List α} {y : β} {ys : List β}
    (hHead : f x = .ok y) (hTail : xs.mapM f = .ok ys) : (x :: xs).mapM f = .ok (y :: ys) := by
  rw [List.mapM_cons, hHead, hTail]
  rfl

/-- Where every member has an answer, so has the list. -/
theorem exists_mapM_eq_ok {f : α → Except ε β} :
    ∀ {xs : List α}, (∀ x ∈ xs, ∃ y, f x = .ok y) → ∃ ys, xs.mapM f = .ok ys
  | [], _ => ⟨[], rfl⟩
  | x :: xs, h => by
    obtain ⟨y, hy⟩ := h x List.mem_cons_self
    obtain ⟨ys, hys⟩ := exists_mapM_eq_ok fun z hz => h z (List.mem_cons_of_mem x hz)
    exact ⟨y :: ys, mapM_cons_eq_ok hy hys⟩

/-- **A list is read member by member.** -/
theorem forall₂_of_mapM {f : α → Except ε β} : ∀ {xs : List α} {ys : List β},
    xs.mapM f = .ok ys → List.Forall₂ (fun x y => f x = .ok y) xs ys
  | [], ys, h => by
    obtain rfl : [] = ys := Except.ok.inj h
    exact .nil
  | x :: xs, ys, h => by
    rw [List.mapM_cons, bind_eq_ok] at h
    obtain ⟨y, hy, h⟩ := h
    rw [bind_eq_ok] at h
    obtain ⟨rest, hRest, h⟩ := h
    obtain rfl := Except.ok.inj h
    exact .cons hy (forall₂_of_mapM hRest)

theorem exists_of_mem_mapM {f : α → Except ε β} {xs : List α} {ys : List β}
    (h : xs.mapM f = .ok ys) {y : β} (hy : y ∈ ys) : ∃ x ∈ xs, f x = .ok y := by
  obtain ⟨k, hk⟩ := List.mem_iff_getElem?.mp hy
  obtain ⟨length_eq, read⟩ := List.forall₂_iff_get.mp (forall₂_of_mapM h)
  obtain ⟨lt, rfl⟩ := List.getElem?_eq_some_iff.mp hk
  have hk : k < xs.length := length_eq ▸ lt
  exact ⟨xs[k], List.getElem_mem hk, read k hk lt⟩

end

/-! ### Tables -/

/-- **A table in which one entry was set** is changed at the key of that entry only. -/
theorem lookup_of_put {κ ω : Type} [DecidableEq κ] (put : List (κ × ω) → List (κ × ω)) {k : κ}
    {w : ω} (nil : put [] = [(k, w)])
    (cons : ∀ j v rest, put ((j, v) :: rest) =
      if j == k then (j, w) :: rest else (j, v) :: put rest)
    (other : κ) : ∀ entries : List (κ × ω),
      (put entries).lookup other = if other = k then some w else entries.lookup other
  | [] => by
    rw [nil, List.lookup_cons, List.lookup_nil]
    by_cases h : other = k
    · simp [h]
    · simp [h, beq_eq_false_iff_ne.mpr h]
  | (j, v) :: rest => by
    rw [cons]
    by_cases hKey : j = k
    · rw [if_pos (beq_iff_eq.mpr hKey), List.lookup_cons, List.lookup_cons, hKey]
      by_cases h : other = k
      · simp [h]
      · simp [h, beq_eq_false_iff_ne.mpr h]
    · rw [if_neg (by simpa using hKey), List.lookup_cons, List.lookup_cons,
        lookup_of_put put nil cons other rest]
      by_cases h : other = j
      · simp [h, hKey]
      · simp [beq_eq_false_iff_ne.mpr h]

/-- The entries of one part of a configuration. -/
def partOf (raw : List (Text × Json)) (key : Text) : List (Text × Json) :=
  ((raw.lookup key).getD .null).fields

/-! ### Weights -/

/-- **Weights as a configuration admits them**: none is negative, and together they are a
hundred. -/
structure WeightRow.Balanced (row : WeightRow) : Prop where
  total_eq : row.total = 100
  get_nonneg : ∀ c, 0 ≤ row.get c

theorem balanced_defaultWeights (t : TestType) : (defaultWeights t).Balanced where
  total_eq := total_defaultWeights t
  get_nonneg := by
    intro c
    cases t <;> cases c <;> decide

/-- A row that was read is balanced. -/
theorem balanced_of_readRow {t : TestType} {raw : List (Text × Json)} {row : WeightRow}
    (h : readRow t raw = .ok row) : row.Balanced := by
  rw [readRow, bind_eq_ok] at h
  obtain ⟨entries, -, h⟩ := h
  split at h
  · cases h
  · dsimp only at h
    split at h
    · cases h
    · next hChecked =>
      obtain rfl : WeightRow.ofEntries entries = row := by simpa using h
      simp only [Bool.or_eq_true, bne_iff_ne, ne_eq, List.any_eq_true, decide_eq_true_eq, not_or,
        Decidable.not_not, not_exists, not_and, Int.not_lt] at hChecked
      refine ⟨hChecked.1, fun c => hChecked.2 _ ?_⟩
      exact List.mem_map_of_mem (Category.mem_all c)

/-- The table with a row set holds that row and rows from before. -/
theorem mem_put {t : TestType} {row : WeightRow} {e : TestType × WeightRow} :
    ∀ {table : WeightTable}, e ∈ WeightTable.put t row table → e.2 = row ∨ e ∈ table
  | [], h => by
    rw [WeightTable.put, List.mem_singleton] at h
    exact .inl (by rw [h])
  | (u, r) :: rest, h => by
    rw [WeightTable.put] at h
    split at h
    · rcases List.mem_cons.mp h with rfl | h
      · exact .inl rfl
      · exact .inr (List.mem_cons_of_mem _ h)
    · rcases List.mem_cons.mp h with rfl | h
      · exact .inr List.mem_cons_self
      · exact (mem_put h).imp id (List.mem_cons_of_mem _)

/-- Reading one more row keeps a table balanced. -/
theorem balanced_of_readTableRow (table : WeightTable) (entry : Text × Json) (next : WeightTable)
    (balanced : ∀ e ∈ table, e.2.Balanced) (h : readTableRow table entry = .ok next) :
    ∀ e ∈ next, e.2.Balanced := by
  unfold readTableRow at h
  split at h
  · cases h
  · split at h
    · rw [map_eq_ok] at h
      obtain ⟨row, hRow, rfl⟩ := h
      intro e he
      rcases mem_put he with hNew | hOld
      · rw [hNew]
        exact balanced_of_readRow hRow
      · exact balanced e hOld
    · cases h

variable {g : Registry} {raw : List (Text × Json)} {config : Config}

/-- The rows of an accepted configuration are balanced. -/
theorem balanced_of_ofFields (h : Config.ofFields g raw = .ok config) :
    ∀ e ∈ config.weights, e.2.Balanced := by
  simp only [Config.ofFields, bind_eq_ok] at h
  obtain ⟨-, -, rules, -, weights, hWeights, penalties, -, smells, -, framework, -, h⟩ := h
  obtain rfl : _ = config := Except.ok.inj h
  -- The rows are read one by one into a table that starts empty.
  exact foldlM_invariant (fun table : WeightTable => ∀ e ∈ table, e.2.Balanced)
    balanced_of_readTableRow _ (by simp) hWeights

/-- **The weights in force are balanced**, whatever the type of test. -/
theorem balanced_weightsFor (h : Config.ofFields g raw = .ok config) (t : TestType) :
    (weightsFor t config.weights).Balanced := by
  rw [weightsFor]
  cases hFound : config.weights.find? (·.1 == t) with
  | none => exact balanced_defaultWeights t
  | some e => exact balanced_of_ofFields h e (List.mem_of_find?_eq_some hFound)

end SuiteAudit
