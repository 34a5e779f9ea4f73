import SuiteAudit.Digest.Sha256
import SuiteAudit.Content

/-!
# The cache of results

Results are kept under the digest of everything that goes into them. The cache counts how often a
key was there and how often it was not; what holds no result counts as not there.
-/

namespace SuiteAudit

/-! ### Keys -/

/-- A part of a key, its length in front, so that the parts of a key can be told apart. -/
def framed (part : List UInt8) : List UInt8 :=
  Digest.bigEndian part.length 8 ++ part

/-- What stands for a source that is missing. -/
def missingSource : List UInt8 :=
  0 :: "none".toUTF8.toList

/-- **The key of a result**: the digest of the path, the test file, its source, and the fingerprint
of the configuration. Path and fingerprint must have UTF-8 bytes. -/
def cacheKey (path : Text) (test : List UInt8) (source : Option (List UInt8))
    (fingerprint : Text) : Except NotEncodable Text := do
  let path ← path.encode
  let fingerprint ← fingerprint.encode
  return Digest.sha256
    (framed path ++ framed test ++ framed (source.getD missingSource) ++ framed fingerprint)

/-! ### The cache -/

/-- **A cache**, with what it has counted. An entry may hold no result. -/
structure Cache (α : Type) where
  entries : List (Text × Option α) := []
  hits : Nat := 0
  misses : Nat := 0
deriving Repr, Inhabited

namespace Cache

variable {α : Type}

/-- The entries with one of them set. -/
def setEntry (key : Text) (value : Option α) :
    List (Text × Option α) → List (Text × Option α)
  | [] => [(key, value)]
  | (k, v) :: rest => if k == key then (k, value) :: rest else (k, v) :: setEntry key value rest

/-- The result under a key. -/
def find? (c : Cache α) (key : Text) : Option α :=
  (c.entries.lookup key).join

/-- **Looks a key up**, and counts. -/
def get (c : Cache α) (key : Text) : Option α × Cache α :=
  match c.find? key with
  | some value => (some value, { c with hits := c.hits + 1 })
  | none => (none, { c with misses := c.misses + 1 })

/-- **Keeps a result** under a key. -/
def put (c : Cache α) (key : Text) (value : Option α) : Cache α :=
  { c with entries := setEntry key value c.entries }

/-- The result under a key, or else that of a run, which is kept. A run that fails keeps nothing.
`ofEntry` and `toEntry` say how results and entries go together. -/
def getOrRun {ε β : Type} (c : Cache α) (key : Text) (ofEntry : α → β) (toEntry : β → Option α)
    (run : Unit → Except ε β) : Except ε β × Cache α :=
  match c.get key with
  | (some value, c) => (.ok (ofEntry value), c)
  | (none, c) =>
    match run () with
    | .ok result => (.ok result, c.put key (toEntry result))
    | .error e => (.error e, c)

/-- **The result under a key**, computed and kept if it is not there. -/
def getOrCompute {ε : Type} (c : Cache α) (key : Text) (compute : Unit → Except ε α) :
    Except ε α × Cache α :=
  c.getOrRun key id some compute

/-- The result under a key, or else what a computation gives, which may be no result. -/
def getOrTry {ε : Type} (c : Cache α) (key : Text) (compute : Unit → Except ε (Option α)) :
    Except ε (Option α) × Cache α :=
  c.getOrRun key some id compute

/-- How many entries there are. -/
def size (c : Cache α) : Nat :=
  c.entries.length

end Cache

end SuiteAudit
