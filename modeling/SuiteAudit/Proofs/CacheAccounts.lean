import Mathlib.Data.List.Dedup
import SuiteAudit.Proofs.Transparency

/-!
# The accounts of a shared cache

A cache counts the jobs whose analysis was there and those whose analysis was not, and keeps one
entry for each key that gave an analysis. `Accounts` says what that comes to over a whole run: one
job keeps it (`Accounts.step`), so every list of jobs does (`accounts_runJobs`), and how the jobs
are cut into batches makes no difference (`runBatched_flatten`). A refusal is not kept, so a file
that was refused is refused again, unless another job has had its key in between
(`cache_accounts`).
-/

namespace SuiteAudit

/-! ### Entries -/

namespace Cache

variable {β : Type}

/-- **What a cache always satisfies**: no key has two entries, and every entry has a result. -/
structure Tidy (c : Cache β) : Prop where
  keys : (c.entries.map (·.1)).Nodup
  filled : ∀ e ∈ c.entries, e.2.isSome

theorem tidy_empty : ({} : Cache β).Tidy where
  keys := List.nodup_nil
  filled := by simp

/-- Where every entry has a result, the keys of the entries are those that are found. -/
theorem mem_keys_iff {c : Cache β} (tidy : c.Tidy) {key : Text} :
    key ∈ c.entries.map (·.1) ↔ (c.find? key).isSome := by
  constructor
  · intro hMem
    rw [find?]
    cases hFound : c.entries.lookup key with
    | none =>
      obtain ⟨e, hEntry, rfl⟩ := List.mem_map.mp hMem
      simpa using List.lookup_eq_none_iff.mp hFound e hEntry
    | some value =>
      obtain ⟨before, after, hEntries, -⟩ := List.lookup_eq_some_iff.mp hFound
      exact tidy.filled (key, value) (by simp [hEntries])
  · intro hFound
    rw [find?] at hFound
    cases hLookup : c.entries.lookup key with
    | none => simp [hLookup] at hFound
    | some value =>
      obtain ⟨before, after, hEntries, -⟩ := List.lookup_eq_some_iff.mp hLookup
      simp [hEntries]

/-- The entry of a new key comes last. -/
theorem setEntry_of_not_mem {key : Text} (value : Option β) :
    ∀ {entries : List (Text × Option β)}, key ∉ entries.map (·.1) →
      setEntry key value entries = entries ++ [(key, value)]
  | [], _ => rfl
  | (k, v) :: rest, h => by
    obtain ⟨hHead, hRest⟩ : key ≠ k ∧ key ∉ rest.map (·.1) := by simpa using h
    rw [setEntry, if_neg (by simpa using hHead.symm), setEntry_of_not_mem value hRest,
      List.cons_append]

theorem Tidy.put {c : Cache β} (tidy : c.Tidy) {key : Text} (h : c.find? key = none) (value : β) :
    (c.put key (some value)).Tidy := by
  have fresh : key ∉ c.entries.map (·.1) := by simp [mem_keys_iff tidy, h]
  have entries_put : (c.put key (some value)).entries = c.entries ++ [(key, some value)] :=
    setEntry_of_not_mem (some value) fresh
  constructor
  · rw [entries_put, List.map_append, List.nodup_append]
    refine ⟨tidy.keys, List.nodup_singleton _, ?_⟩
    intro old hOld new hNew same
    rw [same, show new = key by simpa using hNew] at hOld
    exact fresh hOld
  · rw [entries_put]
    intro e hMem
    rcases List.mem_append.mp hMem with hOld | hNew
    · exact tidy.filled e hOld
    · rw [List.mem_singleton.mp hNew]
      rfl

/-- **The size of a tidy cache** is the number of keys that are found. -/
theorem size_eq {c : Cache β} (tidy : c.Tidy) {keys : List Text}
    (h : ∀ key, key ∈ keys ↔ (c.find? key).isSome) : c.size = keys.dedup.length := by
  have same : (c.entries.map (·.1)).Perm keys.dedup := by
    rw [List.perm_ext_iff_of_nodup tidy.keys (List.nodup_dedup keys)]
    intro key
    rw [mem_keys_iff tidy, List.mem_dedup, h]
  rw [size, ← same.length_eq, List.length_map]

end Cache

/-! ### Jobs in order -/

section

variable (α : Type) [ScoreNumber α] (parse : Syntax.Parser) (config : Config)

/-- The analysis that some jobs leave for another: the first that one of its key gave. -/
def leftFor (done : List Job) (job : Job) : Option (Analysis α) :=
  (job.key config).toOption.bind (keptIn α parse config done)

/-- Whether a job of a list comes after one that left it an analysis. -/
def foundAt (jobs : List Job) (i : Nat) : Bool :=
  (jobs[i]?.bind (leftFor α parse config (jobs.take i))).isSome

/-- **The keys of the jobs that gave an analysis**, where the outcomes of jobs are given. -/
def analyzedKeys (jobs : List Job) (outcomes : List (Outcome α)) : List Text :=
  (jobs.zip outcomes).filterMap fun (job, outcome) =>
    if outcome.isOk then (job.key config).toOption else none

/-- **What a run leaves in its cache.** What is kept is the first analysis of each key, one entry
for each. Every job was counted once: as found if one of its key had been analyzed before, and as
missing otherwise. -/
structure Accounts (cache : Cache (Analysis α)) (done : List Job) : Prop where
  holds : Holds α parse config cache done
  tidy : cache.Tidy
  hits : cache.hits = (List.range done.length).countP (foundAt α parse config done)
  total : cache.hits + cache.misses = done.length

/-- **The outcomes of jobs that come after others**: each is the analysis that the jobs before it
left, or else its own outcome. -/
inductive Reported : List Job → List Job → List (Outcome α) → Prop where
  | nil (done : List Job) : Reported done [] []
  | cons {done rest : List Job} {job : Job} {own : Outcome α} {outcomes : List (Outcome α)}
      (outcome : ownOutcome α parse config job = .ok own)
      (later : Reported (done ++ [job]) rest outcomes) :
      Reported done (job :: rest) ((leftFor α parse config done job).elim own .ok :: outcomes)

end

section

variable {α : Type} [ScoreNumber α] {parse : Syntax.Parser} {config : Config}
  {cache : Cache (Analysis α)} {done jobs : List Job} {job : Job} {key : Text}

theorem leftFor_of_key (hKey : job.key config = .ok key) :
    leftFor α parse config done job = keptIn α parse config done key := by
  rw [leftFor, hKey]
  rfl

theorem foundAt_append_of_lt {i : Nat} (h : i < done.length) (others : List Job) :
    foundAt α parse config (done ++ others) i = foundAt α parse config done i := by
  rw [foundAt, foundAt, List.getElem?_append_left h, List.take_append_of_le_length h.le]

theorem foundAt_length :
    foundAt α parse config (done ++ [job]) done.length =
      (leftFor α parse config done job).isSome := by
  rw [foundAt, List.getElem?_concat_length, List.take_left']
  · rfl
  · rfl

/-- One more job is found if one of its key left an analysis. -/
theorem countP_foundAt_append :
    (List.range (done ++ [job]).length).countP (foundAt α parse config (done ++ [job])) =
      (List.range done.length).countP (foundAt α parse config done) +
        if (leftFor α parse config done job).isSome then 1 else 0 := by
  rw [List.length_append, List.length_singleton, List.range_succ, List.countP_append,
    List.countP_singleton, foundAt_length]
  congr 1
  apply List.countP_congr
  intro i hMem
  rw [foundAt_append_of_lt (List.mem_range.mp hMem)]

theorem accounts_empty : Accounts α parse config {} [] where
  holds := holds_nil
  tidy := Cache.tidy_empty
  hits := rfl
  total := rfl

/-! ### One job -/

/-- A job with a key asks the cache for it. -/
theorem runJob_of_key (hKey : job.key config = .ok key) :
    runJob α parse config (some cache) job =
      ((cache.getOrCompute key fun _ => analyze α parse config job).1,
        some (cache.getOrCompute key fun _ => analyze α parse config job).2) := by
  rw [runJob, hKey]

/-- **A job that is found** is counted, and is given what is kept. -/
theorem runJob_of_find?_eq_some (hKey : job.key config = .ok key) {found : Analysis α}
    (h : cache.find? key = some found) :
    runJob α parse config (some cache) job =
      (.ok found, some { cache with hits := cache.hits + 1 }) := by
  rw [runJob_of_key hKey, Cache.getOrCompute_of_some h]

/-- **A job that is missing and refused** is counted, and leaves nothing. -/
theorem runJob_of_error (hKey : job.key config = .ok key) (h : cache.find? key = none)
    {e : AuditError} (hJob : analyze α parse config job = .error e) :
    runJob α parse config (some cache) job =
      (.error e, some { cache with misses := cache.misses + 1 }) := by
  rw [runJob_of_key hKey, Cache.getOrCompute_of_error h hJob]

/-- **A job that is missing and analyzed** is counted, and its analysis is kept. -/
theorem runJob_of_ok (hKey : job.key config = .ok key) (h : cache.find? key = none)
    {found : Analysis α} (hJob : analyze α parse config job = .ok found) :
    runJob α parse config (some cache) job =
      (.ok found,
        some ({ cache with misses := cache.misses + 1 : Cache (Analysis α) }.put key
          (some found))) := by
  rw [runJob_of_key hKey, Cache.getOrCompute_of_ok h hJob]

/-- **One job keeps the accounts.** Its outcome is what the jobs before it left, or else its own. -/
theorem Accounts.step (accounts : Accounts α parse config cache done)
    (hKey : job.key config = .ok key) {own : Outcome α}
    (hOwn : ownOutcome α parse config job = .ok own) :
    ∃ result next, runJob α parse config (some cache) job = (result, some next) ∧
      outcomeOf α result = .ok ((leftFor α parse config done job).elim own .ok) ∧
      Accounts α parse config next (done ++ [job]) := by
  obtain ⟨next, hRun, hHolds⟩ := holds_step accounts.holds hKey
  have hLeft : leftFor α parse config done job = cache.find? key := by
    rw [leftFor_of_key hKey, accounts.holds key]
  have total := accounts.total
  refine ⟨_, next, hRun, ?_, ?_⟩
  · rw [leftFor_of_key hKey]
    cases keptIn α parse config done key with
    | none => exact hOwn
    | some found => rfl
  -- The cache after the job is known twice: by what it holds, and by what the job does to it.
  · cases hFound : cache.find? key with
    | some found =>
      rw [runJob_of_find?_eq_some hKey hFound] at hRun
      obtain rfl := Option.some.inj (congrArg Prod.snd hRun)
      refine ⟨hHolds, ⟨accounts.tidy.keys, accounts.tidy.filled⟩, ?_, ?_⟩
      · rw [countP_foundAt_append, hLeft, hFound, accounts.hits]
        rfl
      · rw [List.length_append, List.length_singleton]
        show cache.hits + 1 + cache.misses = done.length + 1
        omega
    | none =>
      have missing : ∀ entries,
          Cache.Tidy { cache with entries := entries, misses := cache.misses + 1 } →
          Holds α parse config { cache with entries := entries, misses := cache.misses + 1 }
            (done ++ [job]) →
          Accounts α parse config { cache with entries := entries, misses := cache.misses + 1 }
            (done ++ [job]) := by
        intro entries hTidy hHolds
        refine ⟨hHolds, hTidy, ?_, ?_⟩
        · rw [countP_foundAt_append, hLeft, hFound, accounts.hits]
          rfl
        · rw [List.length_append, List.length_singleton]
          show cache.hits + (cache.misses + 1) = done.length + 1
          omega
      cases hJob : analyze α parse config job with
      | error e =>
        rw [runJob_of_error hKey hFound hJob] at hRun
        obtain rfl := Option.some.inj (congrArg Prod.snd hRun)
        exact missing _ ⟨accounts.tidy.keys, accounts.tidy.filled⟩ hHolds
      | ok found =>
        rw [runJob_of_ok hKey hFound hJob] at hRun
        obtain rfl := Option.some.inj (congrArg Prod.snd hRun)
        have tidy : Cache.Tidy { cache with misses := cache.misses + 1 } :=
          ⟨accounts.tidy.keys, accounts.tidy.filled⟩
        exact missing _ (tidy.put hFound found) hHolds

/-! ### A list of jobs -/

/-- **A list of jobs keeps the accounts**, and reports an outcome for each. -/
theorem accounts_runJobs (accounts : Accounts α parse config cache done)
    (keys : ∀ job ∈ jobs, ∃ key, job.key config = .ok key)
    (answered : ∀ job ∈ jobs, ∃ outcome, ownOutcome α parse config job = .ok outcome) :
    ∃ outcomes next, runJobs α parse config (some cache) jobs = (.ok outcomes, some next) ∧
      Reported α parse config done jobs outcomes ∧ Accounts α parse config next (done ++ jobs) := by
  induction jobs generalizing cache done with
  | nil => exact ⟨[], cache, rfl, .nil done, by rwa [List.append_nil]⟩
  | cons job rest ih =>
    obtain ⟨key, hKey⟩ := keys job List.mem_cons_self
    obtain ⟨own, hOwn⟩ := answered job List.mem_cons_self
    obtain ⟨result, next, hRun, hOutcome, hNext⟩ := accounts.step hKey hOwn
    obtain ⟨outcomes, last, hRest, hReported, hLast⟩ := ih hNext
      (fun j hj => keys j (List.mem_cons_of_mem _ hj))
      (fun j hj => answered j (List.mem_cons_of_mem _ hj))
    refine ⟨_, last, ?_, .cons hOwn hReported, by rwa [List.append_cons]⟩
    rw [runJobs, hRun]
    dsimp only
    rw [hOutcome]
    dsimp only
    rw [hRest]
    rfl

/-- A job without a key ends the run. -/
theorem exists_key_of_runJobs {outcomes : List (Outcome α)}
    (h : (runJobs α parse config (some cache) jobs).1 = .ok outcomes) :
    ∀ job ∈ jobs, ∃ key, job.key config = .ok key := by
  induction jobs generalizing cache outcomes with
  | nil => simp
  | cons job rest ih =>
    cases hKey : job.key config with
    | error cause =>
      rw [runJobs, runJob_of_keyless hKey] at h
      cases h
    | ok key =>
      rw [runJobs, runJob_of_key hKey] at h
      dsimp only at h
      split at h
      · cases h
      · obtain ⟨more, hMore, -⟩ := map_eq_ok.mp h
        exact List.forall_mem_cons.mpr ⟨⟨key, hKey⟩, ih hMore⟩

/-! ### What is reported -/

namespace Reported

variable {outcomes : List (Outcome α)}

theorem length_eq (h : Reported α parse config done jobs outcomes) :
    outcomes.length = jobs.length := by
  induction h with
  | nil => rfl
  | cons _ _ ih => rw [List.length_cons, List.length_cons, ih]

/-- **The outcome at a place** is the analysis left by the jobs before it, or else the job's own
outcome. -/
theorem getElem? (h : Reported α parse config done jobs outcomes) {i : Nat}
    (hJob : jobs[i]? = some job) :
    ∃ own, ownOutcome α parse config job = .ok own ∧
      outcomes[i]? =
        some ((leftFor α parse config (done ++ jobs.take i) job).elim own .ok) := by
  induction h generalizing i with
  | nil => simp at hJob
  | @cons done rest first own outcomes outcome later ih =>
    cases i with
    | zero =>
      obtain rfl : first = job := by simpa using hJob
      exact ⟨own, outcome, by simp⟩
    | succ i =>
      obtain ⟨other, hOwn, hOutcome⟩ := ih hJob
      exact ⟨other, hOwn, by simpa using hOutcome⟩

end Reported

/-- What jobs leave is left by one of them: there is none if and only if none of the key was
analyzed. -/
theorem leftFor_eq_none_iff (hKey : job.key config = .ok key) :
    leftFor α parse config done job = none ↔
      ∀ other ∈ done, other.key config = job.key config →
        ∀ found, analyze α parse config other ≠ .ok found := by
  rw [leftFor_of_key hKey, keptIn, List.findSome?_eq_none_iff]
  refine forall₂_congr fun other _ => ?_
  rw [Option.eq_none_iff_forall_ne_some, hKey]
  constructor
  · intro nothing hSame found hFound
    exact nothing found (keepsUnder_eq_some_iff.mpr ⟨hSame, hFound⟩)
  · intro refused found hKeeps
    obtain ⟨hSame, hFound⟩ := keepsUnder_eq_some_iff.mp hKeeps
    exact refused hSame found hFound

/-- One more job has left an analysis under its own key, if it or one before it gave any. -/
theorem isSome_keptIn_append {own : Outcome α} (hKey : job.key config = .ok key)
    (hOwn : ownOutcome α parse config job = .ok own) (other : Text) :
    (keptIn α parse config (done ++ [job]) other).isSome ↔
      (keptIn α parse config done other).isSome ∨
        other = key ∧ ((leftFor α parse config done job).elim own Except.ok).isOk := by
  rw [keptIn_append, keptIn_singleton, Option.isSome_or, Bool.or_eq_true, leftFor_of_key hKey]
  by_cases h : other = key
  · subst h
    cases hKept : keptIn α parse config done other with
    | some found => simp
    | none =>
      cases own with
      | ok found =>
        rw [keepsUnder_eq_some_iff.mpr ⟨hKey, ownOutcome_eq_iff.mp hOwn⟩]
        simp [Except.isOk, Except.toBool]
      | error failure =>
        have nothing : keepsUnder α parse config other job = none := by
          rw [Option.eq_none_iff_forall_ne_some]
          intro found hKeeps
          have := ownOutcome_eq_iff.mpr (keepsUnder_eq_some_iff.mp hKeeps).2
          rw [hOwn] at this
          cases this
        simp [nothing, Except.isOk, Except.toBool]
  · have nothing : keepsUnder α parse config other job = none := by
      rw [Option.eq_none_iff_forall_ne_some]
      intro found hKeeps
      exact h (Except.ok.inj ((keepsUnder_eq_some_iff.mp hKeeps).1.symm.trans hKey))
    simp [nothing, h]

/-- **The keys that are kept are those of the jobs that gave an analysis.** -/
theorem Reported.mem_analyzedKeys {outcomes : List (Outcome α)}
    (h : Reported α parse config done jobs outcomes)
    (keys : ∀ job ∈ jobs, ∃ key, job.key config = .ok key) (key : Text) :
    (keptIn α parse config (done ++ jobs) key).isSome ↔
      (keptIn α parse config done key).isSome ∨ key ∈ analyzedKeys α config jobs outcomes := by
  induction h with
  | nil => simp [analyzedKeys]
  | @cons done rest first own outcomes outcome later ih =>
    obtain ⟨⟨own_key, hKey⟩, more⟩ := List.forall_mem_cons.mp keys
    rw [List.append_cons, ih more, isSome_keptIn_append hKey outcome, or_assoc]
    refine or_congr_right ?_
    simp only [analyzedKeys, List.zip_cons_cons, List.filterMap_cons, hKey]
    cases ((leftFor α parse config done first).elim own Except.ok).isOk <;>
      simp [Except.toOption]

/-! ### Batches -/

theorem runJobs_append (shared : Option (Cache (Analysis α))) (first rest : List Job) :
    runJobs α parse config shared (first ++ rest) =
      match runJobs α parse config shared first with
      | (.error cause, after) => (.error cause, after)
      | (.ok outcomes, after) =>
        ((runJobs α parse config after rest).1.map (outcomes ++ ·),
          (runJobs α parse config after rest).2) := by
  induction first generalizing shared with
  | nil =>
    rw [List.nil_append, runJobs]
    dsimp only
    cases (runJobs α parse config shared rest) with
    | mk result after => cases result <;> rfl
  | cons job first ih =>
    rw [List.cons_append, runJobs, runJobs]
    dsimp only
    cases outcomeOf α (runJob α parse config shared job).1 with
    | error cause => rfl
    | ok outcome =>
      dsimp only
      rw [ih]
      obtain ⟨result, after⟩ := runJobs α parse config (runJob α parse config shared job).2 first
      cases result with
      | error cause => rfl
      | ok outcomes =>
        dsimp only [Except.map]
        cases (runJobs α parse config after rest).1 <;> rfl

/-- **Batches are one list of jobs**, cut into pieces. -/
theorem runBatched_flatten (shared : Option (Cache (Analysis α))) (batches : List (List Job)) :
    runJobs α parse config shared batches.flatten =
      ((runBatched α parse config shared batches).1.map List.flatten,
        (runBatched α parse config shared batches).2) := by
  induction batches generalizing shared with
  | nil => rfl
  | cons jobs rest ih =>
    rw [List.flatten_cons, runJobs_append, runBatched]
    obtain ⟨result, after⟩ := runJobs α parse config shared jobs
    cases result with
    | error cause => rfl
    | ok outcomes =>
      dsimp only
      rw [ih]
      cases (runBatched α parse config after rest).1 <;> rfl

/-- Jobs that are all done have as many outcomes. -/
theorem length_runJobs {shared : Option (Cache (Analysis α))} {outcomes : List (Outcome α)}
    (h : (runJobs α parse config shared jobs).1 = .ok outcomes) :
    outcomes.length = jobs.length := by
  induction jobs generalizing shared outcomes with
  | nil =>
    rw [← Except.ok.inj h]
    rfl
  | cons job rest ih =>
    rw [runJobs] at h
    dsimp only at h
    split at h
    · cases h
    · obtain ⟨more, hMore, rfl⟩ := map_eq_ok.mp h
      rw [List.length_cons, List.length_cons, ih hMore]

/-- **Each batch has one outcome for each of its jobs.** -/
theorem map_length_runBatched {shared : Option (Cache (Analysis α))} {batches : List (List Job)}
    {outcomes : List (List (Outcome α))}
    (h : (runBatched α parse config shared batches).1 = .ok outcomes) :
    outcomes.map List.length = batches.map List.length := by
  induction batches generalizing shared outcomes with
  | nil =>
    rw [← Except.ok.inj h]
    rfl
  | cons jobs rest ih =>
    rw [runBatched] at h
    dsimp only at h
    split at h
    · cases h
    · next first hFirst =>
      obtain ⟨more, hMore, rfl⟩ := map_eq_ok.mp h
      rw [List.map_cons, List.map_cons, length_runJobs hFirst, ih hMore]

/-- A run of batches that was not ended has the accounts of its jobs, and has reported them. -/
theorem accounts_runBatched {batches : List (List Job)} {outcomes : List (List (Outcome α))}
    (answered : ∀ job ∈ batches.flatten, ∃ outcome, ownOutcome α parse config job = .ok outcome)
    (hRun : runBatched α parse config (some {}) batches = (.ok outcomes, some cache)) :
    (∀ job ∈ batches.flatten, ∃ key, job.key config = .ok key) ∧
      Reported α parse config [] batches.flatten outcomes.flatten ∧
      Accounts α parse config cache batches.flatten := by
  have flat : runJobs α parse config (some {}) batches.flatten =
      (.ok outcomes.flatten, some cache) := by
    rw [runBatched_flatten, hRun]
    rfl
  have keys := exists_key_of_runJobs (congrArg Prod.fst flat)
  obtain ⟨reports, last, hJobs, hReported, hAccounts⟩ :=
    accounts_runJobs accounts_empty keys answered
  rw [flat] at hJobs
  obtain rfl := Except.ok.inj (congrArg Prod.fst hJobs)
  obtain rfl := Option.some.inj (congrArg Prod.snd hJobs)
  exact ⟨keys, hReported, hAccounts⟩

/-- **Batches are not ended** if and only if every path is a string. -/
theorem runBatched_isOk_iff {batches : List (List Job)}
    (answered : ∀ job ∈ batches.flatten, ∃ outcome, ownOutcome α parse config job = .ok outcome) :
    (∃ outcomes cache, runBatched α parse config (some {}) batches = (.ok outcomes, some cache)) ↔
      ∀ job ∈ batches.flatten, job.path.string?.isSome := by
  simp only [← exists_key_iff _ config]
  constructor
  · rintro ⟨outcomes, cache, hRun⟩
    exact (accounts_runBatched answered hRun).1
  · intro keys
    obtain ⟨reports, last, hJobs, -, -⟩ := accounts_runJobs accounts_empty keys answered
    rw [runBatched_flatten] at hJobs
    obtain ⟨outcomes, hOutcomes, -⟩ := map_eq_ok.mp (congrArg Prod.fst hJobs)
    have hCache : (runBatched α parse config (some {}) batches).2 = some last :=
      congrArg Prod.snd hJobs
    exact ⟨outcomes, last, Prod.ext hOutcomes hCache⟩

theorem mem_take_iff {n : Nat} : job ∈ jobs.take n ↔ ∃ i < n, jobs[i]? = some job := by
  simp only [List.mem_iff_getElem?, List.getElem?_take, Option.ite_none_right_eq_some]

/-- **A refused file is refused again** where it comes once more, unless another job of its key was
analyzed in between. -/
theorem Reported.refused_again_iff {outcomes : List (Outcome α)}
    (h : Reported α parse config [] jobs outcomes) (hKey : job.key config = .ok key) {i j : Nat}
    (hLt : i < j) (hFirst : jobs[i]? = some job) (hAgain : jobs[j]? = some job)
    {failure : Suite.ParseFailure} (refused : outcomes[i]? = some (.error failure)) :
    outcomes[j]? = some (.error failure) ↔
      ∀ k other, i < k → k < j → jobs[k]? = some other → other.key config = job.key config →
        ∀ found, analyze α parse config other ≠ .ok found := by
  obtain ⟨own, hOwn, hThen⟩ := h.getElem? hFirst
  obtain ⟨same, hSame, hNow⟩ := h.getElem? hAgain
  obtain rfl : own = same := Except.ok.inj (hOwn.symm.trans hSame)
  rw [refused, List.nil_append] at hThen
  -- The first time nothing was left, and the refusal was the job's own.
  obtain ⟨nothing, rfl⟩ :
      leftFor α parse config (jobs.take i) job = none ∧ own = .error failure := by
    cases hLeft : leftFor α parse config (jobs.take i) job with
    | none => exact ⟨rfl, by simpa [hLeft, eq_comm] using hThen⟩
    | some found => simp [hLeft] at hThen
  rw [hNow, List.nil_append]
  have again_iff :
      some ((leftFor α parse config (jobs.take j) job).elim (.error failure : Outcome α) .ok) =
          some (.error failure) ↔ leftFor α parse config (jobs.take j) job = none := by
    cases leftFor α parse config (jobs.take j) job <;> simp
  rw [again_iff, leftFor_eq_none_iff hKey]
  rw [leftFor_eq_none_iff hKey] at nothing
  constructor
  · intro refused_all k other hAfter hBefore hOther
    exact refused_all other (mem_take_iff.mpr ⟨k, hBefore, hOther⟩)
  · intro refused_between other hMem hSameKey
    obtain ⟨k, hBefore, hOther⟩ := mem_take_iff.mp hMem
    rcases lt_trichotomy k i with hEarlier | rfl | hLater
    · exact nothing other (mem_take_iff.mpr ⟨k, hEarlier, hOther⟩) hSameKey
    · obtain rfl : job = other := Option.some.inj (hFirst.symm.trans hOther)
      intro found hFound
      have := ownOutcome_eq_iff.mpr hFound
      rw [hOwn] at this
      cases this
    · exact refused_between k other hLater hBefore hOther hSameKey

/-- **The accounts of batches that share a cache.** The batches are answered exactly where every
path is a string. Then every job has one outcome, at its place: the analysis that was kept under its
key, or else its own. The cache has counted every job once, holds one entry for each key of a job
that gave an analysis, and has found those jobs that came after one of their key that was analyzed.
A refused file is refused again unless another job of its key was analyzed in between. Whatever
comes next, what is found is what is kept, and a refusal changes nothing but the count of what was
missing. -/
theorem cache_accounts {batches : List (List Job)}
    (answered : ∀ job ∈ batches.flatten, ∃ outcome, ownOutcome α parse config job = .ok outcome) :
    ((∃ outcomes cache,
        runBatched α parse config (some {}) batches = (.ok outcomes, some cache)) ↔
      ∀ job ∈ batches.flatten, job.path.string?.isSome) ∧
    ∀ (outcomes : List (List (Outcome α))) (cache : Cache (Analysis α)),
      runBatched α parse config (some {}) batches = (.ok outcomes, some cache) →
      outcomes.map List.length = batches.map List.length ∧
      (∀ (i : Nat) (job : Job), batches.flatten[i]? = some job →
        ∃ own : Outcome α, ownOutcome α parse config job = .ok own ∧
          outcomes.flatten[i]? =
            some ((leftFor α parse config (batches.flatten.take i) job).elim own .ok)) ∧
      cache.hits + cache.misses = batches.flatten.length ∧
      cache.hits = (List.range batches.flatten.length).countP
        (foundAt α parse config batches.flatten) ∧
      cache.size = (analyzedKeys α config batches.flatten outcomes.flatten).dedup.length ∧
      (∀ (i j : Nat) (job : Job) (failure : Suite.ParseFailure), i < j →
        batches.flatten[i]? = some job → batches.flatten[j]? = some job →
        outcomes.flatten[i]? = some (.error failure) →
        (outcomes.flatten[j]? = some (.error failure) ↔
          ∀ k other, i < k → k < j → batches.flatten[k]? = some other →
            other.key config = job.key config →
            ∀ found, analyze α parse config other ≠ .ok found)) ∧
      ∀ (job : Job) (key : Text), job.key config = .ok key →
        (∀ found, cache.find? key = some found →
          runJob α parse config (some cache) job =
            (.ok found, some { cache with hits := cache.hits + 1 })) ∧
        ∀ failure, (runJob α parse config (some cache) job).1 = .error (.refused failure) →
          (runJob α parse config (some cache) job).2 =
            some { cache with misses := cache.misses + 1 } := by
  refine ⟨runBatched_isOk_iff answered, ?_⟩
  intro outcomes cache hRun
  obtain ⟨keys, hReported, hAccounts⟩ := accounts_runBatched answered hRun
  refine ⟨map_length_runBatched (congrArg Prod.fst hRun), ?_, hAccounts.total, hAccounts.hits, ?_,
    ?_, ?_⟩
  · intro i job hJob
    exact hReported.getElem? hJob
  · refine Cache.size_eq hAccounts.tidy fun key => ?_
    have kept_iff := hReported.mem_analyzedKeys keys key
    rw [hAccounts.holds key]
    simpa [keptIn] using kept_iff.symm
  · intro i j job failure hLt hFirst hAgain refused
    obtain ⟨key, hKey⟩ := keys job (List.mem_of_getElem? hFirst)
    exact hReported.refused_again_iff hKey hLt hFirst hAgain refused
  · intro job key hKey
    refine ⟨fun found hFound => runJob_of_find?_eq_some hKey hFound, ?_⟩
    intro failure refused
    cases hFound : cache.find? key with
    | some found =>
      rw [runJob_of_find?_eq_some hKey hFound] at refused
      cases refused
    | none =>
      cases hJob : analyze α parse config job with
      | error e => rw [runJob_of_error hKey hFound hJob]
      | ok found =>
        rw [runJob_of_ok hKey hFound hJob] at refused
        cases refused

end

/-- **Bytes that were refused are given the analysis of a text** when they come again, as the text
has come in between and has their key. -/
theorem cache_accounts_zero_byte :
    (∀ job ∈ [[zeroBytes, zeroText], [zeroBytes]].flatten,
        ∃ outcome, ownOutcome Rat emptyParser {} job = .ok outcome) ∧
      ∃ failure found cache,
        runBatched Rat emptyParser {} (some {}) [[zeroBytes, zeroText], [zeroBytes]] =
            (.ok [[.error failure, .ok found], [.ok found]], some cache) ∧
          cache.hits = 1 ∧ cache.misses = 2 ∧ cache.size = 1 := by
  obtain ⟨found, hText⟩ := analyze_zeroText
  obtain ⟨failure, hBytes⟩ := analyze_zeroBytes
  have each {P : Job → Prop} (hFirst : P zeroBytes) (hSecond : P zeroText) :
      ∀ job ∈ [[zeroBytes, zeroText], [zeroBytes]].flatten, P job := by
    simpa using ⟨hFirst, hSecond, hFirst⟩
  have own_bytes : ownOutcome Rat emptyParser {} zeroBytes = .ok (.error failure) := by
    rw [ownOutcome, hBytes]
    rfl
  have own_text : ownOutcome Rat emptyParser {} zeroText = .ok (.ok found) :=
    ownOutcome_eq_iff.mpr hText
  have answered : ∀ job ∈ [[zeroBytes, zeroText], [zeroBytes]].flatten,
      ∃ outcome, ownOutcome Rat emptyParser {} job = .ok outcome :=
    each ⟨_, own_bytes⟩ ⟨_, own_text⟩
  have paths : ∀ job ∈ [[zeroBytes, zeroText], [zeroBytes]].flatten, job.path.string?.isSome :=
    each (by decide) (by decide)
  -- Both have one key.
  obtain ⟨key, hKey⟩ := (exists_key_iff zeroText {}).mpr (by decide)
  obtain ⟨other, hOther⟩ := (exists_key_iff zeroBytes {}).mpr (by decide)
  obtain rfl : key = other := by
    rw [key_eq_ok hKey, key_eq_ok hOther, Job.message, Job.message, parts_zero]
  obtain ⟨outcomes, cache, hRun⟩ := (cache_accounts answered).1.mpr paths
  obtain ⟨lengths, outcome, total, hits, size, -, -⟩ :=
    (cache_accounts answered).2 outcomes cache hRun
  obtain ⟨a, b, c, rfl⟩ : ∃ a b c, outcomes = [[a, b], [c]] := by
    rcases outcomes with _ | ⟨first, _ | ⟨second, _ | _⟩⟩ <;> simp at lengths
    obtain ⟨a, b, rfl⟩ := List.length_eq_two.mp lengths.1
    obtain ⟨c, rfl⟩ := List.length_eq_one_iff.mp lengths.2
    exact ⟨a, b, c, rfl⟩
  have left_first : leftFor Rat emptyParser {} [] zeroBytes = none :=
    (leftFor_eq_none_iff hOther).mpr (by simp)
  have left_second : leftFor Rat emptyParser {} [zeroBytes] zeroText = none :=
    (leftFor_eq_none_iff hKey).mpr (by simp [hBytes])
  have left_third : leftFor Rat emptyParser {} [zeroBytes, zeroText] zeroBytes = some found := by
    rw [leftFor_of_key hOther, keptIn]
    simp [keepsUnder, hOther, hKey, hBytes, hText, Except.toOption]
  obtain ⟨own, hOwn, hFirst⟩ := outcome 0 zeroBytes rfl
  obtain ⟨own', hOwn', hSecond⟩ := outcome 1 zeroText rfl
  obtain ⟨own'', -, hThird⟩ := outcome 2 zeroBytes rfl
  obtain rfl := Except.ok.inj (own_bytes.symm.trans hOwn)
  obtain rfl := Except.ok.inj (own_text.symm.trans hOwn')
  obtain rfl : a = .error failure := by simpa [left_first] using hFirst
  obtain rfl : b = .ok found := by simpa [left_second] using hSecond
  obtain rfl : c = .ok found := by simpa [left_third] using hThird
  have hits_one : cache.hits = 1 := by
    rw [hits]
    simp [foundAt, List.range_succ, left_first, left_second, left_third]
  have size_one : cache.size = 1 := by
    rw [size]
    simp [analyzedKeys, Except.isOk, Except.toBool, hOther, hKey, Except.toOption]
  refine ⟨answered, failure, found, cache, hRun, hits_one, ?_, size_one⟩
  have three : cache.hits + cache.misses = 3 := total
  omega

end SuiteAudit
