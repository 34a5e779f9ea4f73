import Mathlib.Algebra.BigOperators.Ring.Finset
import Mathlib.Algebra.Order.BigOperators.Group.List
import Mathlib.Algebra.Order.Floor.Ring
import Mathlib.Algebra.Order.Ring.Rat
import Mathlib.Data.Rat.Floor
import SuiteAudit.Proofs.Accepted
import SuiteAudit.Score.Number

/-!
# What is kept of the weights that a user wrote

A number of a row loses its fractional part, and of two entries for one category or one type of test
the later one counts, under whatever spelling (`lookup_of_foldlM`). Only what is left is checked:
six weights, none negative, with a hundred in sum (`keeps_of_readRow`). So a row that is accepted is
not always the row that was written, but it is if nothing was lost on the way
(`fairlyWritten_iff`), and this carries over to all rows of a configuration (`accepted_weights`).
-/

namespace SuiteAudit

open Decimal

/-! ### Numbers as they are written -/

/-- A number without its fractional part. -/
def truncated (q : Rat) : Int :=
  if q < 0 then ⌈q⌉ else ⌊q⌋

theorem truncated_intCast (n : Int) : truncated n = n := by
  unfold truncated
  split <;> simp

theorem truncated_neg (q : Rat) : truncated (-q) = -truncated q := by
  unfold truncated
  rcases lt_trichotomy q 0 with negative | rfl | positive
  · rw [if_neg (by linarith), if_pos negative, Int.floor_neg]
  · simp
  · rw [if_pos (by linarith), if_neg (by linarith), Int.ceil_neg]

theorem truncated_div (n d : Nat) : truncated (n / d) = Int.ofNat (n / d) := by
  have nonneg : (0 : Rat) ≤ n / d := by positivity
  rw [truncated, if_neg nonneg.not_gt, ← Int.cast_natCast n, Rat.floor_intCast_div_natCast]
  rfl

theorem truncated_le {q : Rat} (h : 0 ≤ q) : (truncated q : Rat) ≤ q := by
  rw [truncated, if_neg h.not_gt]
  exact Int.floor_le q

/-- **The number that a value is as it is written**: a switch, a number or a whole numeral. -/
def Json.number? : Json → Option Rat
  | .bool b => some (if b then 1 else 0)
  | .int n => some n
  | .float x => (Binary64.ofFloat? x).map fun _ => ratOfDouble x
  | .string s => (readWhole s).toOption.map Int.cast
  | _ => none

/-- **A value is read as its number without the fractional part.** -/
theorem toOption_toWhole (value : Json) :
    value.toWhole.toOption = value.number?.map truncated := by
  cases value with
  | null => rfl
  | array elements => rfl
  | object fields => rfl
  | bool b => cases b <;> rfl
  | int n => exact congrArg some (truncated_intCast n).symm
  | float x =>
    rw [Json.toWhole, wholePart, Json.number?, ratOfDouble]
    cases Binary64.ofFloat? x with
    | none => rfl
    | some b =>
      refine congrArg some (Eq.symm ?_)
      have magnitude := truncated_div b.fraction.1 b.fraction.2
      dsimp only
      rw [Rat.mkRat_eq_div, Binary64.whole]
      split
      · rw [← magnitude, ← truncated_neg, Int.cast_neg, neg_div, Int.ofNat_eq_natCast,
          Int.cast_natCast]
      · rw [← magnitude, Int.ofNat_eq_natCast, Int.cast_natCast]
  | string s =>
    rw [Json.toWhole, Json.number?]
    cases readWhole s with
    | ok n => exact congrArg some (truncated_intCast n).symm
    | error e => cases e <;> rfl

/-! ### The last entry of a name -/

section

variable {κ ω ε : Type} [DecidableEq κ] (read? : Text → Option κ) (key : κ)

/-- The value of the last entry whose name is read as a key. -/
def lastNamed? (entries : List (Text × Json)) : Option Json :=
  (entries.reverse.find? fun e => read? e.1 == some key).map (·.2)

/-- The keys that the names of entries are read as. -/
def keysOf (entries : List (Text × Json)) : List κ :=
  entries.filterMap fun e => read? e.1

theorem lastNamed?_cons (e : Text × Json) (rest : List (Text × Json)) :
    lastNamed? read? key (e :: rest) =
      (lastNamed? read? key rest).or (if read? e.1 = some key then some e.2 else none) := by
  simp only [lastNamed?, List.reverse_cons, List.find?_append, Option.map_or, List.find?_singleton,
    beq_iff_eq]
  split <;> rfl

variable {read? key}

theorem lastNamed?_eq_none_iff {entries : List (Text × Json)} :
    lastNamed? read? key entries = none ↔ key ∉ keysOf read? entries := by
  simp [lastNamed?, keysOf]

theorem exists_of_lastNamed? {entries : List (Text × Json)} {value : Json}
    (h : lastNamed? read? key entries = some value) :
    ∃ e ∈ entries, read? e.1 = some key ∧ e.2 = value := by
  obtain ⟨e, found, rfl⟩ := Option.map_eq_some_iff.mp h
  exact ⟨e, List.mem_reverse.mp (List.mem_of_find?_eq_some found),
    by simpa using List.find?_some found, rfl⟩

/-- **Where each key comes once, the last entry of a key is the only one.** -/
theorem lastNamed?_of_nodup {entries : List (Text × Json)} (once : (keysOf read? entries).Nodup)
    {e : Text × Json} (he : e ∈ entries) (hKey : read? e.1 = some key) :
    lastNamed? read? key entries = some e.2 := by
  induction entries with
  | nil => simp at he
  | cons first rest ih =>
    rw [lastNamed?_cons]
    rcases List.mem_cons.mp he with rfl | he
    · have keys_eq : keysOf read? (e :: rest) = key :: keysOf read? rest :=
        List.filterMap_cons_some hKey
      rw [keys_eq] at once
      rw [lastNamed?_eq_none_iff.mpr (List.nodup_cons.mp once).1, if_pos hKey, Option.none_or]
    · have once_rest : (keysOf read? rest).Nodup :=
        once.sublist ((List.sublist_cons_self first rest).filterMap _)
      rw [ih once_rest he, Option.some_or]

omit [DecidableEq κ] in
/-- What is said of the keys is said of the entries, where each has one. -/
theorem map_keysOf {β : Type} {f : κ → β} {g : Text × Json → β} :
    ∀ {entries : List (Text × Json)}, (∀ e ∈ entries, ∃ k, read? e.1 = some k ∧ f k = g e) →
      (keysOf read? entries).map f = entries.map g
  | [], _ => rfl
  | e :: rest, h => by
    obtain ⟨⟨k, hKey, same⟩, h⟩ := List.forall_mem_cons.mp h
    have keys_eq : keysOf read? (e :: rest) = k :: keysOf read? rest :=
      List.filterMap_cons_some hKey
    rw [keys_eq, List.map_cons, List.map_cons, same, map_keysOf h]

/-- **A table that is set entry by entry holds what the last entry of each key gives.** -/
theorem lookup_of_foldlM (read? : Text → Option κ) (value? : κ → Json → Option ω)
    {step : List (κ × ω) → Text × Json → Except ε (List (κ × ω))}
    (stepwise : ∀ table e next, step table e = .ok next → ∃ k w, read? e.1 = some k ∧
      value? k e.2 = some w ∧ ∀ j, next.lookup j = if j = k then some w else table.lookup j)
    {entries : List (Text × Json)} {start table : List (κ × ω)}
    (h : entries.foldlM step start = .ok table) :
    (∀ e ∈ entries, ∃ k w, read? e.1 = some k ∧ value? k e.2 = some w) ∧
      ∀ k, table.lookup k =
        ((lastNamed? read? k entries).bind (value? k)).or (start.lookup k) := by
  induction entries generalizing start with
  | nil =>
    obtain rfl : start = table := Except.ok.inj h
    exact ⟨by simp, fun k => rfl⟩
  | cons e rest ih =>
    rw [List.foldlM_cons, bind_eq_ok] at h
    obtain ⟨next, hStep, h⟩ := h
    obtain ⟨given, hTable⟩ := ih h
    obtain ⟨k, w, hKey, hValue, hNext⟩ := stepwise start e next hStep
    refine ⟨List.forall_mem_cons.mpr ⟨⟨k, w, hKey, hValue⟩, given⟩, fun j => ?_⟩
    rw [hTable, hNext, lastNamed?_cons]
    cases hLast : lastNamed? read? j rest with
    | some value =>
      -- A later entry of the same key has a value, too, which counts.
      obtain ⟨later, hLater, sameKey, rfl⟩ := exists_of_lastNamed? hLast
      obtain ⟨k', w', hKey', hValue'⟩ := given later hLater
      obtain rfl : j = k' := Option.some.inj (sameKey.symm.trans hKey')
      simp [hValue']
    | none =>
      by_cases same : j = k
      · subst same
        simp [hKey, hValue]
      · simp [hKey, same, Ne.symm same]

end

/-! ### Rows -/

theorem WeightEntries.lookup_put (c d : Category) (weight : Int) (entries : WeightEntries) :
    (entries.put c weight).lookup d = if d = c then some weight else entries.lookup d :=
  lookup_of_put (put c weight) rfl (fun _ _ _ => rfl) d entries

theorem WeightTable.lookup_put (t u : TestType) (row : WeightRow) (table : WeightTable) :
    (table.put t row).lookup u = if u = t then some row else table.lookup u :=
  lookup_of_put (put t row) rfl (fun _ _ _ => rfl) u table

/-- **A row holds what counts of the entries that were written**: for each category the last number,
without its fractional part. All entries have a category and a number. -/
structure WeightRow.Keeps (row : WeightRow) (fields : List (Text × Json)) : Prop where
  named : ∀ e ∈ fields, ∃ c q, categoryNamed? e.1 = some c ∧ e.2.number? = some q
  get_eq : ∀ c, ∃ q, (lastNamed? categoryNamed? c fields).bind Json.number? = some q ∧
    row.get c = truncated q

/-- One more entry of a row sets the weight of its category. -/
theorem of_readWeight (entries : WeightEntries) (e : Text × Json) (next : WeightEntries)
    (h : readWeight entries e = .ok next) : ∃ c n, categoryNamed? e.1 = some c ∧
      e.2.toWhole.toOption = some n ∧
      ∀ d, next.lookup d = if d = c then some n else entries.lookup d := by
  unfold readWeight at h
  split at h
  · cases h
  · next c hName =>
    split at h
    · next n hWhole =>
      obtain rfl := Except.ok.inj h
      exact ⟨c, n, hName, by rw [hWhole]; rfl, fun d => entries.lookup_put c d n⟩
    · cases h

theorem keeps_of_readRow {t : TestType} {fields : List (Text × Json)} {row : WeightRow}
    (h : readRow t fields = .ok row) : row.Keeps fields := by
  rw [readRow, bind_eq_ok] at h
  obtain ⟨entries, hEntries, h⟩ := h
  obtain ⟨given, hLookup⟩ :=
    lookup_of_foldlM categoryNamed? (fun _ value => value.toWhole.toOption) of_readWeight hEntries
  simp only [toOption_toWhole, List.lookup_nil, Option.or_none] at given hLookup
  split at h
  · cases h
  · next complete =>
    dsimp only at h
    split at h
    · cases h
    · obtain rfl := Except.ok.inj h
      constructor
      · intro e he
        obtain ⟨c, n, hName, hNumber⟩ := given e he
        obtain ⟨q, hNumber, -⟩ := Option.map_eq_some_iff.mp hNumber
        exact ⟨c, q, hName, hNumber⟩
      · intro c
        have present : entries.lookup c ≠ none := fun missing =>
          complete (List.any_eq_true.mpr
            ⟨c, Category.mem_all c, Option.isNone_iff_eq_none.mpr missing⟩)
        rw [WeightRow.ofEntries, WeightRow.get_ofFn]
        obtain ⟨n, hWeight⟩ := Option.ne_none_iff_exists'.mp present
        rw [hLookup] at hWeight
        obtain ⟨value, hLast, hWhole⟩ := Option.bind_eq_some_iff.mp hWeight
        obtain ⟨q, hNumber, hTruncated⟩ := Option.map_eq_some_iff.mp hWhole
        refine ⟨q, by rw [hLast, Option.bind_some, hNumber], ?_⟩
        rw [hLookup, hWeight, hTruncated, Option.getD_some]

section

variable {t : TestType} {fields : List (Text × Json)} {row : WeightRow}

theorem WeightRow.sum_toList (row : WeightRow) : row.toList.sum = row.total := by
  simp only [toList, Category.all, List.map_cons, List.map_nil, List.sum_cons, List.sum_nil, get,
    total]
  omega

/-- Each category of a row that is read has an entry. -/
theorem WeightRow.Keeps.mem_keysOf (kept : row.Keeps fields) (c : Category) :
    c ∈ keysOf categoryNamed? fields := by
  obtain ⟨q, hq, -⟩ := kept.get_eq c
  by_contra missing
  rw [lastNamed?_eq_none_iff.mpr missing] at hq
  cases hq

/-- **Where no category comes again, each comes once.** -/
theorem WeightRow.Keeps.perm_all (kept : row.Keeps fields)
    (once : (keysOf categoryNamed? fields).Nodup) :
    (keysOf categoryNamed? fields).Perm Category.all :=
  (List.perm_ext_iff_of_nodup once (by decide)).mpr fun c =>
    iff_of_true (kept.mem_keysOf c) (Category.mem_all c)

/-- A row is known by what it was read from. -/
theorem WeightRow.Keeps.unique {other : WeightRow} (kept : row.Keeps fields)
    (kept_too : other.Keeps fields) : row = other := by
  have get_eq : row.get = other.get := by
    funext c
    obtain ⟨q, hq, hRow⟩ := kept.get_eq c
    obtain ⟨q', hq', hOther⟩ := kept_too.get_eq c
    obtain rfl : q = q' := Option.some.inj (hq.symm.trans hq')
    rw [hRow, hOther]
  exact congrArg ofFn get_eq

/-- **Where each category comes once, a row holds every entry**, without the fractional part. -/
theorem WeightRow.Keeps.get_of_mem (kept : row.Keeps fields)
    (once : (keysOf categoryNamed? fields).Nodup) {e : Text × Json} (he : e ∈ fields)
    {c : Category} (hName : categoryNamed? e.1 = some c) {q : Rat}
    (hNumber : e.2.number? = some q) : row.get c = truncated q := by
  obtain ⟨q', hq', hGet⟩ := kept.get_eq c
  rw [lastNamed?_of_nodup once he hName, Option.bind_some, hNumber, Option.some.injEq] at hq'
  rw [hGet, hq']

/-- **A row is written as it has to be**: each category once, with numbers that are not negative and
a hundred in sum. -/
structure FairlyWritten (fields : List (Text × Json)) : Prop where
  once : (keysOf categoryNamed? fields).Perm Category.all
  numbers : ∃ number : Text × Json → Rat, (∀ e ∈ fields, e.2.number? = some (number e)) ∧
    (∀ e ∈ fields, 0 ≤ number e) ∧ (fields.map number).sum = 100

/-- **Nothing is lost of a row**: no category comes again, and all numbers are whole. -/
structure LosesNothing (fields : List (Text × Json)) : Prop where
  once : (keysOf categoryNamed? fields).Nodup
  whole : ∀ e ∈ fields, ∃ n : Int, e.2.number? = some (n : Rat)

/-- A row holds the very numbers that are written. -/
def WeightRow.Holds (row : WeightRow) (fields : List (Text × Json)) : Prop :=
  ∀ e ∈ fields, ∃ c, categoryNamed? e.1 = some c ∧ e.2.number? = some (row.get c : Rat)

section

variable (kept : row.Keeps fields)
include kept

theorem WeightRow.Keeps.exists_numbers :
    ∃ number : Text × Json → Rat, ∀ e ∈ fields, e.2.number? = some (number e) := by
  refine ⟨fun e => e.2.number?.getD 0, fun e he => ?_⟩
  obtain ⟨c, q, -, hNumber⟩ := kept.named e he
  simp only [hNumber, Option.getD_some]

/-- If no category comes again, a row holds all numbers that are whole. -/
theorem LosesNothing.holds (lossless : LosesNothing fields) : row.Holds fields := by
  intro e he
  obtain ⟨c, -, hName, -⟩ := kept.named e he
  obtain ⟨n, hNumber⟩ := lossless.whole e he
  refine ⟨c, hName, ?_⟩
  rw [kept.get_of_mem lossless.once he hName hNumber, truncated_intCast, hNumber]

/-- The numbers of a row without their fractional parts are its weights, if no category comes
again. -/
theorem sum_truncated (balanced : row.Balanced) (once : (keysOf categoryNamed? fields).Nodup)
    {number : Text × Json → Rat} (given : ∀ e ∈ fields, e.2.number? = some (number e)) :
    (fields.map fun e => (truncated (number e) : Rat)).sum = 100 := by
  have weights_eq : (keysOf categoryNamed? fields).map row.get =
      fields.map fun e => truncated (number e) := by
    refine map_keysOf fun e he => ?_
    obtain ⟨c, -, hName, -⟩ := kept.named e he
    exact ⟨c, hName, kept.get_of_mem once he hName (given e he)⟩
  have sum_eq : (fields.map fun e => truncated (number e)).sum = 100 := by
    rw [← weights_eq, ((kept.perm_all once).map row.get).sum_eq]
    exact row.sum_toList.trans balanced.total_eq
  have sum_cast := congrArg (Int.cast : Int → Rat) sum_eq
  rwa [Int.cast_list_sum, List.map_map] at sum_cast

/-- **A row that is accepted was fairly written exactly if nothing of it is lost.** Numbers that
have a hundred in sum, before and after they lose their fractional parts, have none. -/
theorem fairlyWritten_iff (balanced : row.Balanced) :
    FairlyWritten fields ↔ LosesNothing fields := by
  constructor
  · rintro ⟨once, number, given, nonneg, total⟩
    have once : (keysOf categoryNamed? fields).Nodup := once.nodup_iff.mpr (by decide)
    refine ⟨once, fun e he => ⟨truncated (number e), ?_⟩⟩
    set part := fun e => number e - truncated (number e) with hPart
    have part_nonneg : ∀ q ∈ fields.map part, 0 ≤ q := by
      intro q hq
      obtain ⟨e, he, rfl⟩ := List.mem_map.mp hq
      exact sub_nonneg.mpr (truncated_le (nonneg e he))
    have parts_sum : (fields.map part).sum = 0 := by
      have split : number = fun e => truncated (number e) + part e := by simp [hPart]
      rw [split, List.sum_map_add, sum_truncated kept balanced once given] at total
      linarith
    have part_eq : part e = 0 :=
      List.all_zero_of_le_zero_le_of_sum_eq_zero part_nonneg parts_sum (List.mem_map_of_mem he)
    exact (given e he).trans (congrArg some (sub_eq_zero.mp part_eq))
  · intro lossless
    obtain ⟨number, given⟩ := kept.exists_numbers
    have whole : ∀ e ∈ fields, number e = truncated (number e) := by
      intro e he
      obtain ⟨n, hn⟩ := lossless.whole e he
      rw [Option.some.inj ((given e he).symm.trans hn), truncated_intCast]
    refine ⟨kept.perm_all lossless.once, number, given, ?_, ?_⟩
    · intro e he
      obtain ⟨c, -, hName, -⟩ := kept.named e he
      rw [whole e he, ← kept.get_of_mem lossless.once he hName (given e he)]
      exact_mod_cast balanced.get_nonneg c
    · rw [List.map_congr_left whole]
      exact sum_truncated kept balanced lossless.once given

end

end

/-! ### Tables -/

/-- The type of test of a name in any case. -/
def typeNamed? (name : Text) : Option TestType :=
  (TestType.read name.lower).toOption

/-- The row of a value that is accepted. -/
def rowOf? (t : TestType) : Json → Option WeightRow
  | .object fields => (readRow t fields).toOption
  | _ => none

theorem keeps_of_rowOf? {t : TestType} {value : Json} {row : WeightRow}
    (h : rowOf? t value = some row) : row.Keeps value.fields ∧ row.Balanced := by
  cases value with
  | object fields =>
    rw [rowOf?] at h
    cases hRead : readRow t fields with
    | error e => rw [hRead] at h; cases h
    | ok r =>
      rw [hRead] at h
      obtain rfl : r = row := Option.some.inj h
      exact ⟨keeps_of_readRow hRead, balanced_of_readRow hRead⟩
  | _ => cases h

/-- One more entry of the weights sets the row of its type of test. -/
theorem of_readTableRow (table : WeightTable) (e : Text × Json) (next : WeightTable)
    (h : readTableRow table e = .ok next) : ∃ t row, typeNamed? e.1 = some t ∧
      rowOf? t e.2 = some row ∧
      ∀ u, next.lookup u = if u = t then some row else table.lookup u := by
  unfold readTableRow at h
  split at h
  · cases h
  · next t hType =>
    split at h
    · next fields hFields =>
      obtain ⟨row, hRow, rfl⟩ := map_eq_ok.mp h
      refine ⟨t, row, by rw [typeNamed?, hType]; rfl, ?_, fun u => table.lookup_put t u row⟩
      rw [hFields, rowOf?, hRow]
      rfl
    · cases h

/-- **The weights of a configuration are written as they have to be**: a row for each type of test
at most, and every row fairly. -/
structure FairWeights (entries : List (Text × Json)) : Prop where
  once : (keysOf typeNamed? entries).Nodup
  rows : ∀ e ∈ entries, FairlyWritten e.2.fields

variable {g : Registry} {raw : List (Text × Json)} {config : Config}

/-- The rows of an accepted configuration. -/
theorem rows_of_ofFields (h : Config.ofFields g raw = .ok config) :
    (∀ e ∈ partOf raw "weights", ∃ t row, typeNamed? e.1 = some t ∧ rowOf? t e.2 = some row) ∧
      ∀ t, config.weights.lookup t =
        (lastNamed? typeNamed? t (partOf raw "weights")).bind (rowOf? t) := by
  simp only [Config.ofFields, bind_eq_ok] at h
  obtain ⟨-, -, rules, -, weights, hWeights, penalties, -, smells, -, framework, -, h⟩ := h
  obtain rfl : _ = config := Except.ok.inj h
  obtain ⟨given, hLookup⟩ := lookup_of_foldlM typeNamed? rowOf? of_readTableRow hWeights
  exact ⟨given, fun t => (hLookup t).trans Option.or_none⟩

/-- **What an accepted configuration keeps of the weights that were written**: for each type of test
the last row, and of this for each category the last number without its fractional part. Only these
have been checked to be not negative and a hundred in sum. So the weights were written as they have
to be exactly if nothing of them is lost, and then the configuration holds the very numbers. -/
theorem accepted_weights (h : Config.ofFields g raw = .ok config) :
    (∀ t row, config.weights.lookup t = some row ↔
        ∃ value, lastNamed? typeNamed? t (partOf raw "weights") = some value ∧
          row.Keeps value.fields) ∧
      (∀ e ∈ config.weights, e.2.Balanced) ∧
      (FairWeights (partOf raw "weights") ↔ (keysOf typeNamed? (partOf raw "weights")).Nodup ∧
        ∀ e ∈ partOf raw "weights", LosesNothing e.2.fields) ∧
      (FairWeights (partOf raw "weights") → ∀ e ∈ partOf raw "weights", ∃ t row,
        typeNamed? e.1 = some t ∧ config.weights.lookup t = some row ∧ row.Holds e.2.fields) := by
  obtain ⟨given, hLookup⟩ := rows_of_ofFields h
  have fair_iff : ∀ e ∈ partOf raw "weights",
      (FairlyWritten e.2.fields ↔ LosesNothing e.2.fields) := by
    intro e he
    obtain ⟨t, row, -, hRow⟩ := given e he
    exact fairlyWritten_iff (keeps_of_rowOf? hRow).1 (keeps_of_rowOf? hRow).2
  refine ⟨fun t row => ⟨?_, ?_⟩, balanced_of_ofFields h, ⟨?_, ?_⟩, ?_⟩
  · intro hRow
    rw [hLookup] at hRow
    obtain ⟨value, hLast, hRow⟩ := Option.bind_eq_some_iff.mp hRow
    exact ⟨value, hLast, (keeps_of_rowOf? hRow).1⟩
  · rintro ⟨value, hLast, kept⟩
    obtain ⟨e, he, hType, rfl⟩ := exists_of_lastNamed? hLast
    obtain ⟨u, accepted, hType', hRow⟩ := given e he
    obtain rfl : t = u := Option.some.inj (hType.symm.trans hType')
    rw [hLookup, hLast, Option.bind_some, hRow, kept.unique (keeps_of_rowOf? hRow).1]
  · exact fun fair => ⟨fair.once, fun e he => (fair_iff e he).mp (fair.rows e he)⟩
  · exact fun lossless => ⟨lossless.1, fun e he => (fair_iff e he).mpr (lossless.2 e he)⟩
  · intro fair e he
    obtain ⟨t, row, hType, hRow⟩ := given e he
    refine ⟨t, row, hType, ?_, ((fair_iff e he).mp (fair.rows e he)).holds (keeps_of_rowOf? hRow).1⟩
    rw [hLookup, lastNamed?_of_nodup fair.once he hType, Option.bind_some, hRow]

/-- Weights of which two have a fractional part, with more than a hundred in sum. -/
def fractionalWeights : List (Text × Json) :=
  [("weights", .object [("unit", .object
    [("assertion_quality", .float (.ofBits 0x4034E66666666666)),
      ("error_coverage", .float (.ofBits 0x402FCCCCCCCCCCCD)), ("boundary_conditions", .int 20),
      ("test_isolation", .int 15), ("input_variety", .int 15), ("ai_smells", .int 15)])])]

/-- The fractional parts are lost before the sum is checked, so the row is accepted as the built-in
one. -/
theorem accepted_weights_fractional :
    Config.ofFields registry fractionalWeights =
        .ok { weights := [(.unit, defaultWeights .unit)] } ∧
      ¬FairWeights (partOf fractionalWeights "weights") := by
  have accepted : Config.ofFields registry fractionalWeights =
      .ok { weights := [(.unit, defaultWeights .unit)] } := rfl
  refine ⟨accepted, fun fair => ?_⟩
  obtain ⟨-, lossless⟩ := (accepted_weights accepted).2.2.1.mp fair
  obtain ⟨n, hWhole⟩ := (lossless _ List.mem_cons_self).whole _ List.mem_cons_self
  -- The first weight is no whole number.
  have den_eq := congrArg (Option.map Rat.den) hWhole
  rw [Option.map_some, Rat.den_intCast] at den_eq
  exact absurd den_eq (by decide +kernel)

end SuiteAudit
