import Mathlib.Algebra.Ring.Nat
import Mathlib.Data.Set.Function
import SuiteAudit.Audit.Batch
import SuiteAudit.Proofs.Utf8

/-!
# What the key of a result tells

A key is the digest of framed parts, and framed parts can be told apart (`framed_append_inj`). So
where the digest has no collision, equal keys mean the same bytes for path, test file and source
(`key_eq_iff`). An audit reads a little more than those bytes: the grammar of the source, and whether
a content with a zero byte is a text. `Overlooked` names what a key does not tell, and two
jobs of equal parts have equal audits unless it sets them apart (`analyze_congr_of_parts`).
-/

namespace SuiteAudit

/-! ### Frames -/

theorem length_bigEndian (n width : Nat) : (Digest.bigEndian n width).length = width := by
  induction width generalizing n with
  | zero => rfl
  | succ width ih => rw [Digest.bigEndian, List.length_append, ih, List.length_singleton]

/-- A number that fits is known by its bytes. -/
theorem bigEndian_inj {m n width : Nat} (hm : m < 256 ^ width) (hn : n < 256 ^ width)
    (h : Digest.bigEndian m width = Digest.bigEndian n width) : m = n := by
  induction width generalizing m n with
  | zero => omega
  | succ width ih =>
    rw [Digest.bigEndian, Digest.bigEndian] at h
    -- The last byte is the number modulo 256, and the bytes before it are those of the quotient.
    obtain ⟨hFront, hLast⟩ := List.append_inj' h rfl
    have last : m % 256 = n % 256 := by
      have := congrArg UInt8.toNat (List.singleton_inj.mp hLast)
      simpa [Nat.toUInt8, UInt8.toNat_ofNat'] using this
    have front : m / 256 = n / 256 :=
      ih (Nat.div_lt_of_lt_mul (by rw [Nat.pow_succ] at hm; omega))
        (Nat.div_lt_of_lt_mul (by rw [Nat.pow_succ] at hn; omega)) hFront
    omega

/-- **A framed part is known by what begins with it.** -/
theorem framed_append_inj {a b xs ys : List UInt8} (ha : a.length < 2 ^ 64) (hb : b.length < 2 ^ 64)
    (h : framed a ++ xs = framed b ++ ys) : a = b ∧ xs = ys := by
  rw [framed, framed, List.append_assoc, List.append_assoc] at h
  obtain ⟨hLength, hRest⟩ :=
    List.append_inj h (by rw [length_bigEndian, length_bigEndian])
  have same_length : a.length = b.length := bigEndian_inj ha hb hLength
  exact List.append_inj hRest same_length

/-! ### Parts -/

namespace Job

/-- What a key takes for the source: where there is none, bytes that cannot be read. -/
def keyedSource (job : Job) : Content :=
  job.source.getD (.bytes missingSource.toByteArray)

/-- **What a key tells of a job**: the bytes of its path, its test file and its source. -/
structure Parts where
  path : List UInt8
  test : List UInt8
  source : List UInt8

/-- The parts of a job. -/
def parts (job : Job) : Parts where
  path := job.path.bytes
  test := job.test.toBytes
  source := job.keyedSource.toBytes

/-- Whether each part is short enough for its length to be written down. -/
structure Sized (job : Job) : Prop where
  path : job.parts.path.length < 2 ^ 64
  test : job.parts.test.length < 2 ^ 64
  source : job.parts.source.length < 2 ^ 64

/-- The bytes whose digest is the key of a job. -/
def message (job : Job) (config : Config) : List UInt8 :=
  framed job.parts.path ++
    (framed job.parts.test ++ (framed job.parts.source ++ framed config.fingerprint.bytes))

/-- The bytes that stand for a missing source are what the key takes for it. -/
theorem toBytes_keyedSource (job : Job) :
    job.keyedSource.toBytes = (job.source.map Content.toBytes).getD missingSource := by
  unfold keyedSource
  cases job.source with
  | none =>
    show missingSource.toByteArray.toList = missingSource
    rw [toList_eq, List.toList_data_toByteArray]
  | some source => rfl

/-- A missing source cannot be read, and neither can the bytes that the key takes for it. -/
theorem string?_keyedSource (job : Job) :
    job.keyedSource.string? = job.source.bind Content.string? := by
  unfold keyedSource
  cases job.source with
  | none =>
    have zero : missingSource.toByteArray.toList.contains 0 = true := by
      rw [toList_eq, List.toList_data_toByteArray]
      rfl
    show (if missingSource.toByteArray.toList.contains 0 then none else _) = none
    rw [if_pos zero]
  | some source => rfl

end Job

theorem Text.encode_eq_ok {t : Text} {data : List UInt8} (h : t.encode = .ok data) :
    data = t.bytes := by
  unfold Text.encode at h
  split at h
  · cases h
  · exact (Except.ok.inj h).symm

/-- **A key is the digest of the message of its job.** -/
theorem key_eq_ok {job : Job} {config : Config} {key : Text} (h : job.key config = .ok key) :
    key = Digest.sha256 (job.message config) := by
  unfold Job.key cacheKey at h
  cases hPath : job.path.encode with
  | error e => simp [hPath, bind, Except.bind] at h
  | ok path =>
    cases hFingerprint : config.fingerprint.encode with
    | error e => simp [hPath, hFingerprint, bind, Except.bind] at h
    | ok fingerprint =>
      rw [hPath, hFingerprint] at h
      rw [← Except.ok.inj h, Text.encode_eq_ok hPath, Text.encode_eq_ok hFingerprint, Job.message,
        List.append_assoc, List.append_assoc, Job.parts, Job.toBytes_keyedSource]

theorem Text.halvesFrom?_eq_none_iff (points : List CodePoint) (position : Nat) :
    Text.halvesFrom? position points = none ↔ (points.mapM CodePoint.char?).isSome := by
  induction points generalizing position with
  | nil => simp [Text.halvesFrom?]
  | cons p rest ih =>
    cases p with
    | surrogate s => simp [Text.halvesFrom?, CodePoint.char?]
    | char c =>
      rw [Text.halvesFrom?, ih, List.mapM_cons]
      cases rest.mapM CodePoint.char? <;> simp [CodePoint.char?]

/-- **A job has a key** if and only if its path can be read as a string. -/
theorem exists_key_iff (job : Job) (config : Config) :
    (∃ key, job.key config = .ok key) ↔ job.path.string?.isSome := by
  have has_bytes : (∃ data, job.path.encode = .ok data) ↔ job.path.string?.isSome := by
    rw [Text.string?, Option.isSome_map, ← Text.halvesFrom?_eq_none_iff _ 0, Text.encode]
    cases Text.halvesFrom? 0 job.path.points <;> simp
  rw [← has_bytes]
  have fingerprint_ok : config.fingerprint.encode = .ok config.fingerprint.bytes :=
    Text.encode_ofString _
  unfold Job.key cacheKey
  rw [fingerprint_ok]
  cases job.path.encode <;> simp [bind, Except.bind, pure, Except.pure]

/-- Sized jobs of one message have the same parts. -/
theorem parts_eq_of_message_eq {a b : Job} {config : Config} (ha : a.Sized) (hb : b.Sized)
    (h : a.message config = b.message config) : a.parts = b.parts := by
  obtain ⟨hPath, h⟩ := framed_append_inj ha.path hb.path h
  obtain ⟨hTest, h⟩ := framed_append_inj ha.test hb.test h
  obtain ⟨hSource, -⟩ := framed_append_inj ha.source hb.source h
  cases hParts : a.parts
  cases hOthers : b.parts
  simp_all

/-- **Where the digest has no collision, jobs have equal keys if and only if they have the same
parts.** -/
theorem key_eq_iff {a b : Job} {config : Config} {jobs : List Job}
    (noCollision : Set.InjOn Digest.sha256 {m | ∃ job ∈ jobs, m = job.message config})
    (hMemA : a ∈ jobs) (hMemB : b ∈ jobs) (ha : a.Sized) (hb : b.Sized) {key other : Text}
    (hKey : a.key config = .ok key) (hOther : b.key config = .ok other) :
    key = other ↔ a.parts = b.parts := by
  rw [key_eq_ok hKey, key_eq_ok hOther]
  constructor
  · intro h
    exact parts_eq_of_message_eq ha hb
      (noCollision ⟨a, hMemA, rfl⟩ ⟨b, hMemB, rfl⟩ (Text.ofString_injective h))
  · intro h
    rw [Job.message, h, Job.message]

/-! ### What an audit reads -/

/-- The grammar that the source of a job is read by. -/
def Job.sourceGrammar (job : Job) : Syntax.Grammar :=
  (Syntax.Grammar.ofPath? job.sourcePath).getD .default

section

variable {α : Type} [ScoreNumber α] {parse : Syntax.Parser} {config : Config} {pool : List Rule}
  {a b : Job}

/-- **An audit reads no more of a job** than its path, the strings of the test file and the source,
and the grammar of the source. -/
theorem analyze_congr (hPath : a.path = b.path) (hTest : a.test.string? = b.test.string?)
    (hSource : a.source.bind Content.string? = b.source.bind Content.string?)
    (hGrammar : a.sourceGrammar = b.sourceGrammar) :
    analyze α parse config a pool = analyze α parse config b pool := by
  have read_eq : Suite.read parse a.path a.test config.framework =
      Suite.read parse b.path b.test config.framework := by
    rw [Suite.read, Suite.read, hPath, hTest]
  have facts_eq (s : Suite) : factsFor parse config a s = factsFor parse config b s := by
    unfold Job.sourceGrammar at hGrammar
    rw [factsFor, factsFor, SourceFacts.read, SourceFacts.read, hSource, hGrammar]
  unfold analyze
  rw [read_eq]
  split
  · rfl
  · rw [facts_eq]

end

/-- **What a key overlooks**: whether a test file, or a source, with a zero byte is a text, and the
grammar of the source. A missing source is like bytes. -/
inductive Overlooked (a b : Job) : Prop where
  | test (zero : 0 ∈ a.test.toBytes) (kind : a.test.isText ≠ b.test.isText)
  | source (zero : 0 ∈ a.keyedSource.toBytes) (kind : a.keyedSource.isText ≠ b.keyedSource.isText)
  | grammar (kind : a.sourceGrammar ≠ b.sourceGrammar)

/-- **Jobs of the same parts have the same audit**, unless what their key overlooks sets them
apart. -/
theorem analyze_congr_of_parts {α : Type} [ScoreNumber α] {parse : Syntax.Parser} {config : Config}
    {pool : List Rule} {a b : Job} (h : a.parts = b.parts) (seen : ¬ Overlooked a b) :
    analyze α parse config a pool = analyze α parse config b pool := by
  obtain ⟨hPath, hTest, hSource⟩ : a.path.bytes = b.path.bytes ∧
      a.test.toBytes = b.test.toBytes ∧ a.keyedSource.toBytes = b.keyedSource.toBytes := by
    simpa [Job.parts] using h
  apply analyze_congr
  · exact Text.bytes_injective hPath
  · apply Content.string?_eq_of_toBytes_eq hTest
    intro zero
    by_contra kind
    exact seen (.test zero kind)
  · rw [← Job.string?_keyedSource, ← Job.string?_keyedSource]
    apply Content.string?_eq_of_toBytes_eq hSource
    intro zero
    by_contra kind
    exact seen (.source zero kind)
  · by_contra kind
    exact seen (.grammar kind)

end SuiteAudit
