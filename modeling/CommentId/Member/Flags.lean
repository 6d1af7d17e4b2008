/-!
Metadata flags of a member. Only two bits have a meaning here; the others are carried along.
-/

namespace CommentId.Member

structure Flags where
  bits : UInt32 := 0
  deriving DecidableEq, Repr, Inhabited

namespace Flags

/-- The name of the member has a meaning to compilers. -/
def specialName : Flags := ⟨0x0800⟩

/-- The name of the member has a meaning to the runtime. -/
def runtimeSpecialName : Flags := ⟨0x1000⟩

def union (a b : Flags) : Flags := ⟨a.bits ||| b.bits⟩

def inter (a b : Flags) : Flags := ⟨a.bits &&& b.bits⟩

instance : Union Flags := ⟨union⟩

instance : Inter Flags := ⟨inter⟩

/-- The bits that have a meaning. -/
def known : Flags := specialName ∪ runtimeSpecialName

/-- All bits of `b` are set in `a`. -/
def contains (a b : Flags) : Bool := a ∩ b == b

/-- The flags with these bits, if each of them has a meaning. -/
def ofBits? (bits : UInt32) : Option Flags :=
  if known.contains ⟨bits⟩ then some ⟨bits⟩ else none

/-- The flags with those of these bits that have a meaning. -/
def ofKnownBits (bits : UInt32) : Flags := ⟨bits⟩ ∩ known

end Flags

end CommentId.Member
