import SuiteAudit.Text.Utf8

/-!
# File contents

A file reaches the audit as a text or as bytes. A text may hold halves of surrogate pairs and bytes
anything at all, so not every content can be read: texts with such halves, bytes that are not UTF-8
and bytes with a zero among them cannot. A text may hold the zero character.
-/

namespace SuiteAudit

/-- **What a file holds.** -/
inductive Content where
  | text (t : Text)
  | bytes (data : ByteArray)

namespace Content

/-- **The string of the content**, if it can be read. -/
def string? : Content → Option String
  | text t => t.string?
  | bytes data => if data.toList.contains 0 then none else String.fromUTF8? data

/-- **The bytes of the content**, by which the cache tells contents apart. -/
def toBytes : Content → List UInt8
  | text t => t.bytes
  | bytes data => data.toList

end Content

end SuiteAudit
