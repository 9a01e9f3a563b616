import LcWalletCore.Lib.Bytes
import Mathlib.Data.Set.Function

/-!
# Program trees with data slots

A taproot-style tree that commits to a program and two 32-byte data slots:
branch(branch(program, slot 0), slot 1). Slots and branches are hashed under tags, and a branch
sorts its children, so its hash forgets which was left and which was right. `root_inj` says when
the root still determines program and slots: the hash has no collision among the messages of the
trees in question, and no program is the hash of a slot.

The hash is a parameter. It maps unbounded messages to 32 bytes and so is never injective; the
assumption is about the messages at hand.
-/

namespace Lib

/-- The message of a tagged hash: the tag's hash twice, then the content. -/
def taggedMessage (H : Bytes → Bytes32) (tag content : Bytes) : Bytes :=
  (H tag).toList ++ (H tag).toList ++ content

/-- Two 32-byte strings, smaller one first. -/
def sortedPair (a b : Bytes32) : Bytes :=
  if a.toList ≤ b.toList then a.toList ++ b.toList else b.toList ++ a.toList

theorem length_sortedPair (a b : Bytes32) : (sortedPair a b).length = 64 := by
  unfold sortedPair
  split <;> simp

theorem length_taggedMessage (H : Bytes → Bytes32) (tag content : Bytes) :
    (taggedMessage H tag content).length = 64 + content.length := by
  unfold taggedMessage
  rw [List.length_append, List.length_append, Vector.length_toList]

theorem taggedMessage_inj {H : Bytes → Bytes32} {tag content content' : Bytes}
    (h : taggedMessage H tag content = taggedMessage H tag content') : content = content' :=
  List.append_cancel_left h

/-- A sorted pair determines its two parts up to their order. -/
theorem sortedPair_inj {a b c d : Bytes32} (h : sortedPair a b = sortedPair c d) :
    (a = c ∧ b = d) ∨ (a = d ∧ b = c) := by
  have hsplit : ∀ {x y z w : Bytes32}, x.toList ++ y.toList = z.toList ++ w.toList →
      x = z ∧ y = w := by
    intro x y z w heq
    have hparts := List.append_inj heq (by simp)
    exact ⟨Vector.toList_inj.mp hparts.1, Vector.toList_inj.mp hparts.2⟩
  unfold sortedPair at h
  by_cases hab : a.toList ≤ b.toList
  · by_cases hcd : c.toList ≤ d.toList
    · rw [if_pos hab, if_pos hcd] at h
      exact Or.inl (hsplit h)
    · rw [if_pos hab, if_neg hcd] at h
      exact Or.inr (hsplit h)
  · by_cases hcd : c.toList ≤ d.toList
    · rw [if_neg hab, if_pos hcd] at h
      obtain ⟨hbc, had⟩ := hsplit h
      exact Or.inr ⟨had, hbc⟩
    · rw [if_neg hab, if_neg hcd] at h
      obtain ⟨hbd, hac⟩ := hsplit h
      exact Or.inl ⟨hac, hbd⟩

/-- A program leaf with its two data slots. -/
structure SlotTree where
  program : Bytes32
  slot0 : Bytes32
  slot1 : Bytes32
deriving DecidableEq, Repr

namespace SlotTree
variable (H : Bytes → Bytes32) (dataTag branchTag : Bytes) (t : SlotTree)

/-- The message of a data slot. -/
def slotMessage (slot : Bytes32) : Bytes := taggedMessage H dataTag slot.toList

/-- The message of the inner branch. -/
def innerMessage : Bytes :=
  taggedMessage H branchTag (sortedPair t.program (H (slotMessage H dataTag t.slot0)))

/-- The message of the root. -/
def rootMessage : Bytes :=
  taggedMessage H branchTag
    (sortedPair (H (innerMessage H dataTag branchTag t)) (H (slotMessage H dataTag t.slot1)))

def root : Bytes32 := H (rootMessage H dataTag branchTag t)

/-- Everything hashed below the tags on the way to the root. -/
def messages : List Bytes :=
  [slotMessage H dataTag t.slot0, slotMessage H dataTag t.slot1,
    innerMessage H dataTag branchTag t, rootMessage H dataTag branchTag t]

variable {H dataTag branchTag}

/-- A slot and a branch never hash the same message: their lengths differ. -/
theorem innerMessage_ne_slotMessage (slot : Bytes32) :
    innerMessage H dataTag branchTag t ≠ slotMessage H dataTag slot := by
  intro h
  have hlen := congrArg List.length h
  unfold innerMessage slotMessage at hlen
  rw [length_taggedMessage, length_taggedMessage, length_sortedPair, Vector.length_toList] at hlen
  omega

theorem forall_messages {P : Bytes → Prop} {t : SlotTree} :
    (∀ m ∈ messages H dataTag branchTag t, P m) ↔
      P (slotMessage H dataTag t.slot0) ∧ P (slotMessage H dataTag t.slot1) ∧
        P (innerMessage H dataTag branchTag t) ∧ P (rootMessage H dataTag branchTag t) := by
  simp [messages]

/-- The root determines the program and both slots. -/
theorem root_inj {S : Set Bytes} (hinj : Set.InjOn H S) {t t' : SlotTree}
    (hS : ∀ m ∈ messages H dataTag branchTag t, m ∈ S)
    (hS' : ∀ m ∈ messages H dataTag branchTag t', m ∈ S)
    (hprogram : t.program ≠ H (slotMessage H dataTag t'.slot0))
    (hroot : root H dataTag branchTag t = root H dataTag branchTag t') : t = t' := by
  obtain ⟨hslot0, hslot1, hinner, hroot₁⟩ := forall_messages.mp hS
  obtain ⟨hslot0', hslot1', hinner', hroot₁'⟩ := forall_messages.mp hS'
  have hpair := taggedMessage_inj (hinj hroot₁ hroot₁' hroot)
  -- a branch forgets the order of its children, so each level has a straight and a crossed case
  rcases sortedPair_inj hpair with ⟨hinnerEq, hslot1Eq⟩ | ⟨hcross, -⟩
  · have hmsg1 := taggedMessage_inj (hinj hslot1 hslot1' hslot1Eq)
    have hmsg := taggedMessage_inj (hinj hinner hinner' hinnerEq)
    rcases sortedPair_inj hmsg with ⟨hprog, hslot0Eq⟩ | ⟨hprog, -⟩
    · have hmsg0 := taggedMessage_inj (hinj hslot0 hslot0' hslot0Eq)
      show (⟨t.program, t.slot0, t.slot1⟩ : SlotTree) = ⟨t'.program, t'.slot0, t'.slot1⟩
      rw [hprog, Vector.toList_inj.mp hmsg0, Vector.toList_inj.mp hmsg1]
    · -- the program of one tree would be the hashed slot of the other
      exact absurd hprog hprogram
  · -- an inner branch would hash like a slot
    exact absurd (hinj hinner hslot1' hcross) (innerMessage_ne_slotMessage t t'.slot1)

end SlotTree

end Lib
