import CommentId.Element
import Std.Data.TreeMap.Lemmas

/-!
Catalogs: members by identifier. One member is held under each identifier; an identifier that
two different members claim is contested. The accessors of an indexer share the identifier of
the property without contesting it, and give way to it.
-/

namespace CommentId

namespace Catalog

/-- The member held under an identifier, and whether another one claims it. -/
structure Entry where
  held : Member
  isContested : Bool := false
  deriving DecidableEq, Repr

/-- The entry after one more member claims its identifier. -/
def Entry.claim (entry : Entry) (member : Member) : Entry :=
  if entry.held = member then
    entry
  else if entry.held.accessesIndexer || member.accessesIndexer then
    if member.kind = .property then { entry with held := member } else entry
  else
    { entry with isContested := true }

end Catalog

structure Catalog where
  entries : Std.TreeMap String Catalog.Entry := {}

namespace Catalog

def empty : Catalog := {}

/-- Enters a member under an identifier. -/
def insert (catalog : Catalog) (id : String) (member : Member) : Catalog where
  entries := catalog.entries.alter id fun
    | none => some { held := member }
    | some entry => some (entry.claim member)

/-- Enters a member under its own identifier. -/
def add (settings : Settings) (catalog : Catalog) (member : Member) : Except Fault Catalog := do
  let id ← member.id settings
  .ok (catalog.insert id member)

/-- The catalog of some members, entered in their order; the first fault among them ends it. -/
def ofMembers (settings : Settings) (members : List Member) : Except Fault Catalog :=
  members.foldlM (add settings) empty

/-- The member held under an identifier. -/
def get? (catalog : Catalog) (id : String) : Option Member :=
  (catalog.entries[id]?).map Entry.held

def contains (catalog : Catalog) (id : String) : Bool :=
  catalog.entries.contains id

def size (catalog : Catalog) : Nat :=
  catalog.entries.size

def isEmpty (catalog : Catalog) : Bool :=
  catalog.entries.isEmpty

/-- The identifiers in ascending order. -/
def ids (catalog : Catalog) : List String :=
  catalog.entries.keys

/-- The members held, in the order of their identifiers. -/
def members (catalog : Catalog) : List Member :=
  catalog.entries.values.map Entry.held

/-- The contested identifiers in ascending order. -/
def contested (catalog : Catalog) : List String :=
  (catalog.entries.filter fun _ entry => entry.isContested).keys

theorem getElem?_entries_insert (catalog : Catalog) (id other : String) (member : Member) :
    (catalog.insert id member).entries[other]? =
      if id = other then
        some ((catalog.entries[id]?).elim { held := member } (·.claim member))
      else
        catalog.entries[other]? := by
  simp only [insert, Std.TreeMap.getElem?_alter, Std.LawfulEqCmp.compare_eq_iff_eq]
  split
  · cases catalog.entries[id]? <;> rfl
  · rfl

@[simp] theorem get?_empty (id : String) : empty.get? id = none := by
  simp [empty, get?]

end Catalog

end CommentId
