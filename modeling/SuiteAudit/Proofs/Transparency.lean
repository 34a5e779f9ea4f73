import SuiteAudit.Proofs.Breakdowns
import SuiteAudit.Proofs.CacheKey
import SuiteAudit.Proofs.SharedCache

/-!
# When a cache cannot be noticed

Batches that share a cache are transparent where every job has the outcome that it has on its own.
`transparent_iff` says exactly when they are: every path has bytes, and no analysis that is kept is
handed to a job of the same parts which has another outcome on its own. Parts leave a little out
(`Overlooked`), and only that can make the difference.
-/

namespace SuiteAudit

section

variable (α : Type) [ScoreNumber α] (parse : Syntax.Parser) (config : Config)

/-- **The outcomes of batches, one after another**, and the cache after them. An audit that is ended
ends them. -/
def runBatched (cache : Option (Cache (Analysis α))) :
    List (List Job) →
      Except AuditFault (List (List (Outcome α))) × Option (Cache (Analysis α))
  | [] => (.ok [], cache)
  | jobs :: rest =>
    let (result, cache) := runJobs α parse config cache jobs
    match result with
    | .error cause => (.error cause, cache)
    | .ok outcomes =>
      let (more, cache) := runBatched cache rest
      (more.map (outcomes :: ·), cache)

end

variable {α : Type} [ScoreNumber α] {parse : Syntax.Parser} {config : Config}

section

variable {cache next : Cache (Analysis α)} {jobs : List Job}

theorem runBatched_of_error {cause : AuditFault}
    (hRun : (runJobs α parse config (some cache) jobs).1 = .error cause) (rest : List (List Job)) :
    (runBatched α parse config (some cache) (jobs :: rest)).1 = .error cause := by
  rw [runBatched]
  dsimp only
  rw [hRun]

theorem runBatched_of_ok {outcomes : List (Outcome α)}
    (hRun : (runJobs α parse config (some cache) jobs).1 = .ok outcomes)
    (hCache : (runJobs α parse config (some cache) jobs).2 = some next) (rest : List (List Job)) :
    (runBatched α parse config (some cache) (jobs :: rest)).1 =
      (runBatched α parse config (some next) rest).1.map (outcomes :: ·) := by
  rw [runBatched]
  dsimp only
  rw [hRun, hCache]

end

/-- **The outcomes of batches that share a cache are those of their jobs on their own** if and only
if every job has a key and every job may come before those after it. -/
theorem runBatched_eq_iff {cache : Cache (Analysis α)} {done : List Job} {batches : List (List Job)}
    (holds : Holds α parse config cache done) (steady : done.Pairwise (Steady α parse config))
    (answered : ∀ job ∈ batches.flatten, ∃ outcome, ownOutcome α parse config job = .ok outcome) :
    (runBatched α parse config (some cache) batches).1 =
        batches.mapM (fun jobs => jobs.mapM (ownOutcome α parse config)) ↔
      (∀ job ∈ batches.flatten, ∃ key, job.key config = .ok key) ∧
        (done ++ batches.flatten).Pairwise (Steady α parse config) := by
  induction batches generalizing cache done with
  | nil => simpa [runBatched, pure, Except.pure] using steady
  | cons jobs rest ih =>
    have answered_jobs : ∀ job ∈ jobs, ∃ outcome, ownOutcome α parse config job = .ok outcome :=
      fun job hMem => answered job (List.mem_flatten.mpr ⟨jobs, List.mem_cons_self, hMem⟩)
    have answered_rest :
        ∀ job ∈ rest.flatten, ∃ outcome, ownOutcome α parse config job = .ok outcome :=
      fun job hMem => answered job (by rw [List.flatten_cons]; exact List.mem_append_right _ hMem)
    obtain ⟨own, hOwn⟩ := exists_mapM_eq_ok answered_jobs
    obtain ⟨more, hMore⟩ : ∃ more,
        rest.mapM (fun jobs => jobs.mapM (ownOutcome α parse config)) = .ok more :=
      exists_mapM_eq_ok fun batch hBatch => exists_mapM_eq_ok fun job hMem =>
        answered_rest job (List.mem_flatten.mpr ⟨batch, hBatch, hMem⟩)
    have first_iff := runJobs_eq_iff holds steady answered_jobs
    rw [mapM_cons_eq_ok hOwn hMore, List.flatten_cons, ← List.append_assoc, List.forall_mem_append]
    rw [hOwn] at first_iff
    cases hRun : (runJobs α parse config (some cache) jobs).1 with
    | error cause =>
      -- A batch that is ended has a job without a key, or so `first_iff` says.
      rw [runBatched_of_error hRun]
      rw [hRun] at first_iff
      constructor
      · intro h
        cases h
      · rintro ⟨⟨keys, -⟩, hSteady⟩
        cases first_iff.mpr ⟨keys, (List.pairwise_append.mp hSteady).1⟩
    | ok outcomes =>
      obtain ⟨next, hCache, hNext⟩ := holds_runJobs holds hRun
      rw [hRun, Except.ok.injEq] at first_iff
      rw [runBatched_of_ok hRun hCache, map_cons_eq_ok_iff, first_iff]
      constructor
      · rintro ⟨⟨keys, steady_jobs⟩, hRest⟩
        obtain ⟨more_keys, hSteady⟩ :=
          (ih hNext steady_jobs answered_rest).mp (hRest.trans hMore.symm)
        exact ⟨⟨keys, more_keys⟩, hSteady⟩
      · rintro ⟨⟨keys, more_keys⟩, hSteady⟩
        have steady_jobs := (List.pairwise_append.mp hSteady).1
        exact ⟨⟨keys, steady_jobs⟩,
          ((ih hNext steady_jobs answered_rest).mpr ⟨more_keys, hSteady⟩).trans hMore⟩

/-- **Batches that share a cache are transparent exactly** where every path is a string, and no job
comes after one of the same parts with an analysis that is not its own. Jobs of the same parts have
the same audit unless what their key overlooks sets them apart. -/
theorem transparent_iff {batches : List (List Job)}
    (answered : ∀ job ∈ batches.flatten, ∃ outcome, ownOutcome α parse config job = .ok outcome)
    (sized : ∀ job ∈ batches.flatten, job.Sized)
    (noCollision :
      Set.InjOn Digest.sha256 {m | ∃ job ∈ batches.flatten, m = job.message config}) :
    ((runBatched α parse config (some {}) batches).1 =
        batches.mapM (fun jobs => jobs.mapM (ownOutcome α parse config)) ↔
      (∀ job ∈ batches.flatten, job.path.string?.isSome) ∧
        batches.flatten.Pairwise fun a b => a.parts = b.parts →
          ∀ found, analyze α parse config a = .ok found → analyze α parse config b = .ok found) ∧
      ∀ a ∈ batches.flatten, ∀ b ∈ batches.flatten, a.parts = b.parts → ¬ Overlooked a b →
        analyze α parse config a = analyze α parse config b := by
  refine ⟨?_, fun a _ b _ hParts seen => analyze_congr_of_parts hParts seen⟩
  rw [runBatched_eq_iff holds_nil List.Pairwise.nil answered, List.nil_append]
  simp only [exists_key_iff]
  apply and_congr_right
  intro paths
  apply List.Pairwise.iff_of_mem
  intro a b hA hB
  -- Of jobs with keys, equal keys are equal parts.
  obtain ⟨key, hKey⟩ := (exists_key_iff a config).mpr (paths a hA)
  obtain ⟨other, hOther⟩ := (exists_key_iff b config).mpr (paths b hB)
  have same_iff := key_eq_iff noCollision hA hB (sized a hA) (sized b hB) hKey hOther
  constructor
  · intro steady hParts found hFound
    exact steady key hKey (by rw [hOther, same_iff.mpr hParts]) found hFound
  · intro right k hA hB found hFound
    have same : key = other := (Except.ok.inj (hKey.symm.trans hA)).trans
      (Except.ok.inj (hOther.symm.trans hB)).symm
    exact right (same_iff.mp same) found hFound

/-- A parser that finds nothing in any text. -/
def emptyParser : Syntax.Parser := fun _ _ => { root := .mk { kind := "program" } [] }

/-- A test file of one zero character, as a text. -/
def zeroText : Job := { path := "zero.test.ts", test := .text "\x00" }

/-- The same file as bytes, which cannot be read. -/
def zeroBytes : Job := { path := "zero.test.ts", test := .bytes ⟨#[0]⟩ }

theorem parts_zero : zeroText.parts = zeroBytes.parts := by
  have same_bytes : zeroText.test.toBytes = zeroBytes.test.toBytes := by
    show (Text.ofString "\x00").bytes = ByteArray.toList ⟨#[0]⟩
    rw [toList_eq]
    decide
  rw [Job.parts, Job.parts, same_bytes]
  rfl

theorem sized_zero : zeroText.Sized := by
  refine ⟨by decide, by decide, ?_⟩
  show zeroText.keyedSource.toBytes.length < 2 ^ 64
  rw [Job.toBytes_keyedSource]
  show (0 :: "none".toUTF8.toList).length < 2 ^ 64
  rw [toList_eq]
  decide

theorem analyze_zeroText : ∃ found, analyze Rat emptyParser {} zeroText = .ok found := by
  have read : (Suite.read emptyParser zeroText.path zeroText.test none).isOk = true := by
    decide +kernel
  cases hRead : Suite.read emptyParser zeroText.path zeroText.test none with
  | error e => simp [hRead, Except.isOk, Except.toBool] at read
  | ok s => exact ⟨_, @analyze_rat emptyParser {} zeroText s hRead allRules⟩

theorem analyze_zeroBytes :
    ∃ failure, analyze Rat emptyParser {} zeroBytes = .error (.refused failure) := by
  have unreadable : zeroBytes.test.string? = none := by
    show (if (ByteArray.toList ⟨#[0]⟩).contains 0 then none else _) = none
    rw [toList_eq]
    rfl
  have supported : (Syntax.Grammar.ofPath? zeroBytes.path).isSome = true := by decide +kernel
  obtain ⟨grammar, hGrammar⟩ := Option.isSome_iff_exists.mp supported
  rw [analyze, Suite.read, hGrammar, unreadable]
  exact ⟨_, rfl⟩

/-- **Bytes that cannot be read are given the analysis of a text**: both jobs have an outcome of
their own, but batches with a cache give the second that of the first. -/
theorem transparent_iff_zero_byte :
    (∀ job ∈ [[zeroText, zeroBytes]].flatten,
        ∃ outcome, ownOutcome Rat emptyParser {} job = .ok outcome) ∧
      (∀ job ∈ [[zeroText, zeroBytes]].flatten, job.Sized) ∧
      Set.InjOn Digest.sha256
        {m | ∃ job ∈ [[zeroText, zeroBytes]].flatten, m = job.message {}} ∧
      (runBatched Rat emptyParser {} (some {}) [[zeroText, zeroBytes]]).1 ≠
        [[zeroText, zeroBytes]].mapM fun jobs => jobs.mapM (ownOutcome Rat emptyParser {}) := by
  obtain ⟨found, hText⟩ := analyze_zeroText
  obtain ⟨failure, hBytes⟩ := analyze_zeroBytes
  have either {P : Job → Prop} (hFirst : P zeroText) (hSecond : P zeroBytes) :
      ∀ job ∈ [[zeroText, zeroBytes]].flatten, P job := by
    simpa using ⟨hFirst, hSecond⟩
  have answered : ∀ job ∈ [[zeroText, zeroBytes]].flatten,
      ∃ outcome, ownOutcome Rat emptyParser {} job = .ok outcome :=
    either ⟨.ok found, by rw [ownOutcome, hText]; rfl⟩
      ⟨.error failure, by rw [ownOutcome, hBytes]; rfl⟩
  have sized : ∀ job ∈ [[zeroText, zeroBytes]].flatten, job.Sized :=
    either sized_zero
      ⟨parts_zero ▸ sized_zero.path, parts_zero ▸ sized_zero.test, parts_zero ▸ sized_zero.source⟩
  -- The two messages are one, so there is nothing to collide.
  have one_message : ∀ job ∈ [[zeroText, zeroBytes]].flatten,
      job.message {} = zeroText.message {} :=
    either rfl (by rw [Job.message, Job.message, parts_zero])
  have noCollision : Set.InjOn Digest.sha256
      {m | ∃ job ∈ [[zeroText, zeroBytes]].flatten, m = job.message {}} := by
    rintro _ ⟨a, hA, rfl⟩ _ ⟨b, hB, rfl⟩ -
    rw [one_message a hA, one_message b hB]
  refine ⟨answered, sized, noCollision, fun transparent => ?_⟩
  obtain ⟨-, steady⟩ := (transparent_iff answered sized noCollision).1.mp transparent
  have shared : analyze Rat emptyParser {} zeroBytes = .ok found := by
    have pair : [zeroText, zeroBytes].Pairwise _ := steady
    have handed_on := (List.pairwise_cons.mp pair).1 zeroBytes (List.mem_singleton_self _)
    exact handed_on parts_zero found hText
  rw [hBytes] at shared
  cases shared

end SuiteAudit
