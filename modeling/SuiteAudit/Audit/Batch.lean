import SuiteAudit.Audit.Analysis
import SuiteAudit.Audit.Cache

/-!
# Batches of audits

Jobs are audited one after another, each on its own, and every job has exactly one outcome. A cache
spares the audit of a file that was audited before with the same source and configuration; a file
that was refused is not kept. An audit that is ended ends the batch. So does a path without UTF-8 bytes
if there is a cache.
-/

namespace SuiteAudit

/-- **The outcome of a job**: an analysis, or the refusal of its file. -/
abbrev Outcome (α : Type) := Except Suite.ParseFailure (Analysis α)

/-- The key of a job under a configuration. -/
def Job.key (job : Job) (config : Config) : Except NotEncodable Text :=
  cacheKey job.path job.test.toBytes (job.source.map Content.toBytes) config.fingerprint

section

variable (α : Type) [ScoreNumber α] (parse : Syntax.Parser) (config : Config)

/-- **Audits one job**, by way of the cache if there is one. -/
def runJob (cache : Option (Cache (Analysis α))) (job : Job) :
    Except AuditError (Analysis α) × Option (Cache (Analysis α)) :=
  let compute (_ : Unit) := analyze α parse config job
  match cache with
  | none => (compute (), none)
  | some cache =>
    match job.key config with
    | .error cause => (.error (.ended (.path cause)), some cache)
    | .ok key =>
      let (result, cache) := cache.getOrCompute key compute
      (result, some cache)

/-- The outcome of what a job gave, unless its audit was ended. -/
def outcomeOf : Except AuditError (Analysis α) → Except AuditFault (Outcome α)
  | .ok analysis => .ok (.ok analysis)
  | .error (.refused failure) => .ok (.error failure)
  | .error (.ended cause) => .error cause

/-- **The outcomes of jobs in order**, and the cache after them. -/
def runJobs (cache : Option (Cache (Analysis α))) :
    List Job → Except AuditFault (List (Outcome α)) × Option (Cache (Analysis α))
  | [] => (.ok [], cache)
  | job :: rest =>
    let (result, cache) := runJob α parse config cache job
    match outcomeOf α result with
    | .error cause => (.error cause, cache)
    | .ok outcome =>
      let (more, cache) := runJobs cache rest
      (more.map (outcome :: ·), cache)

end

end SuiteAudit
