import SuiteAudit.Syntax.Node

/-!
# Trees written as listings

A listing names the nodes of a tree in document order, each with the number of its children; that
number alone says where every subtree ends. Offsets are into the bytes of the file, and rows,
columns and texts are read off the file itself.
-/

namespace SuiteAudit.Syntax

/-! ### Files as bytes -/

/-- The place after one more byte: a line feed opens the next row. -/
def Point.next (p : Point) (byte : UInt8) : Point :=
  if byte == 10 then { row := p.row + 1, column := 0 } else { p with column := p.column + 1 }

/-- The places before each byte and at the end, from `p` on. -/
def pointsFrom (p : Point) : List UInt8 → List Point
  | [] => [p]
  | byte :: rest => p :: pointsFrom (p.next byte) rest

/-- **A file by its bytes**, with the place of every byte. -/
structure FileBytes where
  bytes : ByteArray
  points : Array Point

namespace FileBytes

/-- The bytes of a text. -/
def ofText (text : String) : FileBytes where
  bytes := text.toUTF8
  points := (pointsFrom {} text.toUTF8.toList).toArray

/-- The place of an offset. -/
def pointAt (f : FileBytes) (offset : Nat) : Point :=
  f.points.getD offset {}

/-- The text between two offsets; the replacement character if it cuts one in two. -/
def slice (f : FileBytes) (first last : Nat) : String :=
  (String.fromUTF8? (f.bytes.extract first last)).getD "\ufffd"

end FileBytes

/-! ### Listings -/

/-- **A node in a listing.** -/
structure Entry where
  kind : String
  named : Bool := true
  field : String := ""
  first : Nat := 0
  last : Nat := 0
  childCount : Nat := 0
deriving Repr, DecidableEq, Inhabited

/-- The label of a listed node. -/
def Entry.label (f : FileBytes) (e : Entry) : Label where
  kind := e.kind
  named := e.named
  field := e.field
  first := e.first
  last := e.last
  start := f.pointAt e.first
  stop := f.pointAt e.last
  text := f.slice e.first e.last

/-- Puts a listed node in front of the trees that follow it, taking its children from them. -/
def Entry.place (f : FileBytes) (e : Entry) (following : List Node) : List Node :=
  .mk (e.label f) (following.take e.childCount) :: following.drop e.childCount

/-- The trees of a listing in order. -/
def treesOf (f : FileBytes) (listing : List Entry) : List Node :=
  listing.foldr (Entry.place f) []

/-- **The tree of a listing**, if it lists exactly one. -/
def Node.ofListing? (f : FileBytes) (listing : List Entry) : Option Node :=
  match treesOf f listing with
  | [root] => some root
  | _ => none

end SuiteAudit.Syntax
