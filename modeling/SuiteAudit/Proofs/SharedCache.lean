import SuiteAudit.Audit.Batch
import SuiteAudit.Proofs.Accepted

/-!
# Runs that share a cache

After any run, a cache holds under each key the first analysis that a job of this key gave
(`Holds`): one job keeps it so (`holds_step`), and so does a list of jobs. Hence the outcomes of a
run are those of its jobs on their own if and only if every job has a key, and no job that was
analyzed comes before one of the same key with another outcome (`runJobs_eq_iff`).
-/

namespace SuiteAudit

/-! ### Laws of the cache -/

namespace Cache

variable {β : Type}

theorem lookup_setEntry (key other : Text) (value : Option β)
    (entries : List (Text × Option β)) :
    (setEntry key value entries).lookup other =
      if other = key then some value else entries.lookup other :=
  lookup_of_put (setEntry key value) rfl (fun _ _ _ => rfl) other entries

/-- **A result is found under its key**, and under no other. -/
theorem find?_put (c : Cache β) (key other : Text) (value : Option β) :
    (c.put key value).find? other = if other = key then value else c.find? other := by
  rw [find?, put, lookup_setEntry]
  split <;> rfl

/-- Looking a key up changes what is counted, not what is kept. -/
theorem getOrCompute_of_some {ε : Type} {c : Cache β} {key : Text} {value : β}
    (h : c.find? key = some value) (compute : Unit → Except ε β) :
    c.getOrCompute key compute = (.ok value, { c with hits := c.hits + 1 }) := by
  rw [getOrCompute, getOrRun, get, h]
  rfl

theorem getOrCompute_of_ok {ε : Type} {c : Cache β} {key : Text} {value : β}
    (h : c.find? key = none) {compute : Unit → Except ε β} (hRun : compute () = .ok value) :
    c.getOrCompute key compute =
      (.ok value, { c with misses := c.misses + 1 : Cache β }.put key (some value)) := by
  rw [getOrCompute, getOrRun, get, h]
  dsimp only
  rw [hRun]

theorem getOrCompute_of_error {ε : Type} {c : Cache β} {key : Text} {e : ε}
    (h : c.find? key = none) {compute : Unit → Except ε β} (hRun : compute () = .error e) :
    c.getOrCompute key compute = (.error e, { c with misses := c.misses + 1 }) := by
  rw [getOrCompute, getOrRun, get, h]
  dsimp only
  rw [hRun]

end Cache

/-! ### Lists of answers -/

theorem map_cons_eq_ok_iff {ε β : Type} {x : Except ε (List β)} {b c : β} {cs : List β} :
    x.map (b :: ·) = .ok (c :: cs) ↔ b = c ∧ x = .ok cs := by
  cases x <;> simp [Except.map]

/-! ### What a cache holds -/

section

variable (α : Type) [ScoreNumber α] (parse : Syntax.Parser) (config : Config)

/-- **The outcome of a job on its own.** -/
def ownOutcome (job : Job) : Except AuditFault (Outcome α) :=
  outcomeOf α (analyze α parse config job)

/-- The analysis that a job gives to be kept under a key. -/
def keepsUnder (key : Text) (job : Job) : Option (Analysis α) :=
  match job.key config with
  | .ok k => if k = key then (analyze α parse config job).toOption else none
  | .error _ => none

/-- **The analysis kept under a key** after some jobs: the first that one of this key gave. -/
def keptIn (done : List Job) (key : Text) : Option (Analysis α) :=
  done.findSome? (keepsUnder α parse config key)

/-- **A cache holds what some jobs gave.** -/
def Holds (cache : Cache (Analysis α)) (done : List Job) : Prop :=
  ∀ key, cache.find? key = keptIn α parse config done key

/-- **A job may come before another**: where they have the same key, an analysis of the first is one
of the second. -/
def Steady (a b : Job) : Prop :=
  ∀ key, a.key config = .ok key → b.key config = .ok key →
    ∀ found, analyze α parse config a = .ok found → analyze α parse config b = .ok found

end

section

variable {α : Type} [ScoreNumber α] {parse : Syntax.Parser} {config : Config}
  {cache : Cache (Analysis α)} {done : List Job} {job : Job} {key : Text}

theorem holds_nil : Holds α parse config {} [] := fun _ => rfl

theorem keepsUnder_eq_some_iff {found : Analysis α} :
    keepsUnder α parse config key job = some found ↔
      job.key config = .ok key ∧ analyze α parse config job = .ok found := by
  unfold keepsUnder
  cases hKey : job.key config with
  | error e => simp
  | ok k =>
    dsimp only
    by_cases h : k = key
    · rw [if_pos h, h]
      cases analyze α parse config job <;> simp [Except.toOption]
    · simp [h]

theorem keptIn_append (others : List Job) :
    keptIn α parse config (done ++ others) key =
      (keptIn α parse config done key).or (keptIn α parse config others key) := by
  rw [keptIn, List.findSome?_append]
  rfl

theorem keptIn_singleton : keptIn α parse config [job] key = keepsUnder α parse config key job := by
  rw [keptIn, List.findSome?_singleton]

/-! ### One job -/

/-- A job whose path has no bytes ends the run. -/
theorem runJob_of_keyless {cause : NotEncodable} (hKey : job.key config = .error cause) :
    runJob α parse config (some cache) job = (.error (.ended (.path cause)), some cache) := by
  rw [runJob, hKey]

/-- **A job whose key is there is not audited**, and the cache holds what it held. -/
theorem runJob_of_kept (holds : Holds α parse config cache done)
    (hKey : job.key config = .ok key) {found : Analysis α}
    (hKept : keptIn α parse config done key = some found) :
    ∃ next, runJob α parse config (some cache) job = (.ok found, some next) ∧
      Holds α parse config next (done ++ [job]) := by
  refine ⟨{ cache with hits := cache.hits + 1 }, ?_, fun k => ?_⟩
  · rw [runJob, hKey]
    dsimp only
    rw [Cache.getOrCompute_of_some ((holds key).trans hKept)]
  · rw [keptIn_append, ← holds k]
    show cache.find? k = (cache.find? k).or _
    cases hFound : cache.find? k with
    | some value => rfl
    | none =>
      rw [keptIn_singleton, Option.none_or, eq_comm, Option.eq_none_iff_forall_ne_some]
      intro other hOther
      -- Whatever the job gives, it gives under its own key, where there is something already.
      obtain rfl : key = k :=
        Except.ok.inj (hKey.symm.trans (keepsUnder_eq_some_iff.mp hOther).1)
      rw [holds key, hKept] at hFound
      cases hFound

/-- **A job whose key is not there is audited on its own**, and what it gives is held from then
on. -/
theorem runJob_of_fresh (holds : Holds α parse config cache done)
    (hKey : job.key config = .ok key) (hKept : keptIn α parse config done key = none) :
    ∃ next, runJob α parse config (some cache) job = (analyze α parse config job, some next) ∧
      Holds α parse config next (done ++ [job]) := by
  have missing : cache.find? key = none := (holds key).trans hKept
  cases hJob : analyze α parse config job with
  | ok found =>
    refine ⟨{ cache with misses := cache.misses + 1 : Cache (Analysis α) }.put key (some found), ?_,
      fun k => ?_⟩
    · rw [runJob, hKey]
      dsimp only
      rw [Cache.getOrCompute_of_ok missing hJob]
    · rw [Cache.find?_put, keptIn_append, keptIn_singleton]
      by_cases h : k = key
      · rw [if_pos h, h, hKept, keepsUnder_eq_some_iff.mpr ⟨hKey, hJob⟩, Option.none_or]
      · have other : keepsUnder α parse config k job = none := by
          rw [Option.eq_none_iff_forall_ne_some]
          intro value hValue
          exact h (Except.ok.inj ((keepsUnder_eq_some_iff.mp hValue).1.symm.trans hKey))
        rw [if_neg h, other, Option.or_none]
        exact holds k
  | error e =>
    refine ⟨{ cache with misses := cache.misses + 1 }, ?_, fun k => ?_⟩
    · rw [runJob, hKey]
      dsimp only
      rw [Cache.getOrCompute_of_error missing hJob]
    · have nothing : keepsUnder α parse config k job = none := by
        rw [Option.eq_none_iff_forall_ne_some]
        intro value hValue
        have answered := (keepsUnder_eq_some_iff.mp hValue).2
        rw [hJob] at answered
        cases answered
      rw [keptIn_append, keptIn_singleton, nothing, Option.or_none]
      exact holds k

/-- **One job keeps what a cache holds.** Its result is the analysis under its key, or else its
own. -/
theorem holds_step (holds : Holds α parse config cache done) (hKey : job.key config = .ok key) :
    ∃ next, runJob α parse config (some cache) job =
        ((keptIn α parse config done key).elim (analyze α parse config job) .ok, some next) ∧
      Holds α parse config next (done ++ [job]) := by
  cases hKept : keptIn α parse config done key with
  | none => exact runJob_of_fresh holds hKey hKept
  | some found => exact runJob_of_kept holds hKey hKept

/-! ### A list of jobs -/

/-- **What is kept is right for a job** if and only if all jobs before may come before it. -/
theorem forall_steady_iff (steady : done.Pairwise (Steady α parse config))
    (hKey : job.key config = .ok key) :
    (∀ a ∈ done, Steady α parse config a job) ↔
      ∀ found, keptIn α parse config done key = some found →
        analyze α parse config job = .ok found := by
  constructor
  · intro before found hKept
    obtain ⟨a, hMem, hKeeps⟩ := List.exists_of_findSome?_eq_some hKept
    obtain ⟨hSame, hAnalyzed⟩ := keepsUnder_eq_some_iff.mp hKeeps
    exact before a hMem key hSame hKey found hAnalyzed
  · intro right a hMem k hA hJob found hAnalyzed
    obtain rfl : key = k := Except.ok.inj (hKey.symm.trans hJob)
    have hKeeps := keepsUnder_eq_some_iff.mpr ⟨hA, hAnalyzed⟩
    cases hKept : keptIn α parse config done key with
    | none =>
      rw [keptIn, List.findSome?_eq_none_iff] at hKept
      rw [hKept a hMem] at hKeeps
      cases hKeeps
    | some first =>
      -- The analysis that is kept is that of the first job of the key, and so that of `a`.
      obtain ⟨before, b, after, rfl, hFirst, hNone⟩ := List.findSome?_eq_some_iff.mp hKept
      obtain ⟨hB, hAnalyzedB⟩ := keepsUnder_eq_some_iff.mp hFirst
      have same : first = found := by
        rcases List.mem_append.mp hMem with hBefore | hAfter
        · rw [hNone a hBefore] at hKeeps
          cases hKeeps
        · rcases List.mem_cons.mp hAfter with rfl | hAfter
          · exact Except.ok.inj (hAnalyzedB.symm.trans hAnalyzed)
          · have steady_b := (List.pairwise_cons.mp (List.pairwise_append.mp steady).2.1).1 a hAfter
            exact Except.ok.inj ((steady_b key hB hA first hAnalyzedB).symm.trans hAnalyzed)
      rw [← same]
      exact right first hKept

theorem ownOutcome_eq_iff {found : Analysis α} :
    ownOutcome α parse config job = .ok (.ok found) ↔
      analyze α parse config job = .ok found := by
  unfold ownOutcome outcomeOf
  split <;> simp_all

/-- What the cache says of a job is its own outcome if and only if all jobs before may come before
it. -/
theorem shared_outcome (steady : done.Pairwise (Steady α parse config))
    (hKey : job.key config = .ok key) {own : Outcome α}
    (hOwn : ownOutcome α parse config job = .ok own) :
    ∃ outcome,
      outcomeOf α ((keptIn α parse config done key).elim (analyze α parse config job) .ok) =
        .ok outcome ∧
      (outcome = own ↔ ∀ a ∈ done, Steady α parse config a job) := by
  rw [forall_steady_iff steady hKey]
  cases hKept : keptIn α parse config done key with
  | none => exact ⟨own, hOwn, by simp⟩
  | some found =>
    refine ⟨.ok found, rfl, ?_⟩
    constructor
    · rintro rfl other hSame
      obtain rfl : found = other := Option.some.inj hSame
      exact ownOutcome_eq_iff.mp hOwn
    · intro right
      have := ownOutcome_eq_iff.mpr (right found rfl)
      exact Except.ok.inj (this.symm.trans hOwn)

/-- **The outcomes of a run are those of its jobs on their own** if and only if every job has a key
and every job may come before those after it. -/
theorem runJobs_eq_iff {jobs : List Job} (holds : Holds α parse config cache done)
    (steady : done.Pairwise (Steady α parse config))
    (answered : ∀ job ∈ jobs, ∃ outcome, ownOutcome α parse config job = .ok outcome) :
    (runJobs α parse config (some cache) jobs).1 = jobs.mapM (ownOutcome α parse config) ↔
      (∀ job ∈ jobs, ∃ key, job.key config = .ok key) ∧
        (done ++ jobs).Pairwise (Steady α parse config) := by
  induction jobs generalizing cache done with
  | nil => simpa [runJobs, pure, Except.pure] using steady
  | cons job rest ih =>
    have answered_rest : ∀ j ∈ rest, ∃ outcome, ownOutcome α parse config j = .ok outcome :=
      fun j hj => answered j (List.mem_cons_of_mem _ hj)
    obtain ⟨own, hOwn⟩ := answered job List.mem_cons_self
    obtain ⟨outcomes, hOutcomes⟩ := exists_mapM_eq_ok answered_rest
    rw [mapM_cons_eq_ok hOwn hOutcomes]
    cases hKey : job.key config with
    | error cause =>
      rw [runJobs, runJob_of_keyless hKey]
      simp [outcomeOf, hKey]
    | ok key =>
      obtain ⟨next, hRun, hNext⟩ := holds_step holds hKey
      obtain ⟨outcome, hOutcome, hRight⟩ := shared_outcome steady hKey hOwn
      rw [runJobs, hRun]
      dsimp only
      rw [hOutcome]
      dsimp only
      rw [map_cons_eq_ok_iff, hRight, List.forall_mem_cons, List.append_cons]
      -- The next cache holds what the jobs up to this one gave, so the rest is up to the induction.
      constructor
      · rintro ⟨before, hRest⟩
        have steady_next : (done ++ [job]).Pairwise (Steady α parse config) :=
          List.pairwise_append.mpr ⟨steady, List.pairwise_singleton _ _, fun a ha b hb => by
            rw [List.mem_singleton.mp hb]
            exact before a ha⟩
        obtain ⟨keys, hSteady⟩ :=
          (ih hNext steady_next answered_rest).mp (hRest.trans hOutcomes.symm)
        exact ⟨⟨⟨key, hKey⟩, keys⟩, hSteady⟩
      · rintro ⟨⟨-, keys⟩, hSteady⟩
        have steady_next := (List.pairwise_append.mp hSteady).1
        refine ⟨fun a ha => (List.pairwise_append.mp steady_next).2.2 a ha job
          (List.mem_singleton_self job), ?_⟩
        exact ((ih hNext steady_next answered_rest).mpr ⟨keys, hSteady⟩).trans hOutcomes

/-- After a run that was not ended, the cache holds what its jobs gave. -/
theorem holds_runJobs {jobs : List Job} {outcomes : List (Outcome α)}
    (holds : Holds α parse config cache done)
    (hRun : (runJobs α parse config (some cache) jobs).1 = .ok outcomes) :
    ∃ next, (runJobs α parse config (some cache) jobs).2 = some next ∧
      Holds α parse config next (done ++ jobs) := by
  induction jobs generalizing cache done outcomes with
  | nil => exact ⟨cache, rfl, by rwa [List.append_nil]⟩
  | cons job rest ih =>
    cases hKey : job.key config with
    | error cause =>
      rw [runJobs, runJob_of_keyless hKey] at hRun
      cases hRun
    | ok key =>
      obtain ⟨next, hStep, hNext⟩ := holds_step holds hKey
      rw [runJobs, hStep] at hRun ⊢
      dsimp only at hRun ⊢
      split at hRun
      · cases hRun
      · next outcome _ =>
        cases hRest : (runJobs α parse config (some next) rest).1 with
        | error cause => simp [hRest, Except.map] at hRun
        | ok more =>
          obtain ⟨last, hLast, hHolds⟩ := ih hNext hRest
          exact ⟨last, hLast, by rwa [List.append_cons]⟩

end

end SuiteAudit
