import Mathlib.Data.List.Forall2
import Mathlib.Data.List.Induction

/-!
# Append-only hash chains

A chain is a list of links, oldest first. Each link carries its place, the
digest of the link before it, a body and its own digest. What a single link has
to satisfy (that its digest recomputes from its body, that the body repeats the
place) is a parameter, so nothing here depends on a hash function.
-/
namespace Vasi.HashChain

/-- One link of a chain. -/
structure Link (Body Digest : Type) where
  sequence : ℕ
  previous : Digest
  body : Body
  digest : Digest

variable {Body Digest : Type}

/-- The digest a next link has to refer to. -/
def lastDigest (previous : Digest) : List (Link Body Digest) → Digest
  | [] => previous
  | link :: rest => lastDigest link.digest rest

/-- The links follow a link with the given place and digest without a gap, each
refers to the one before it, and each is sound. -/
def Intact (sound : Link Body Digest → Prop) : ℕ → Digest → List (Link Body Digest) → Prop
  | _, _, [] => True
  | sequence, previous, link :: rest =>
      link.sequence = sequence + 1 ∧ link.previous = previous ∧ sound link ∧
        Intact sound link.sequence link.digest rest

@[simp] theorem lastDigest_append (previous : Digest) (links : List (Link Body Digest))
    (link : Link Body Digest) : lastDigest previous (links ++ [link]) = link.digest := by
  induction links generalizing previous with
  | nil => rfl
  | cons first rest inductionHypothesis => exact inductionHypothesis first.digest

/-- Appending a sound link with the next place and the last digest keeps a chain
intact, and nothing else does. -/
theorem intact_append (sound : Link Body Digest → Prop) (sequence : ℕ) (previous : Digest)
    (links : List (Link Body Digest)) (link : Link Body Digest) :
    Intact sound sequence previous (links ++ [link]) ↔
      Intact sound sequence previous links ∧ link.sequence = sequence + links.length + 1 ∧
        link.previous = lastDigest previous links ∧ sound link := by
  induction links generalizing sequence previous with
  | nil => simp [Intact, lastDigest]
  | cons first rest inductionHypothesis =>
      simp only [List.cons_append, Intact, inductionHypothesis, lastDigest, List.length_cons]
      constructor
      · rintro ⟨place, reference, firstSound, tail, linkPlace, linkReference, linkSound⟩
        exact ⟨⟨place, reference, firstSound, tail⟩, by omega, linkReference, linkSound⟩
      · rintro ⟨⟨place, reference, firstSound, tail⟩, linkPlace, linkReference, linkSound⟩
        exact ⟨place, reference, firstSound, tail, by omega, linkReference, linkSound⟩

/-- What holds of the first reference and of every digest holds of every reference. -/
theorem intact_previous {sound : Link Body Digest → Prop} {property : Digest → Prop}
    {sequence : ℕ} {previous : Digest} {links : List (Link Body Digest)}
    (intact : Intact sound sequence previous links) (start : property previous)
    (digests : ∀ link ∈ links, property link.digest) :
    ∀ link ∈ links, property link.previous := by
  induction links generalizing sequence previous with
  | nil => simp
  | cons first rest inductionHypothesis =>
      rw [List.forall_mem_cons] at digests ⊢
      obtain ⟨-, reference, -, tail⟩ := intact
      exact ⟨reference ▸ start, inductionHypothesis tail digests.1 digests.2⟩

/-- Links of an intact chain are sound. -/
theorem intact_sound {sound : Link Body Digest → Prop} {sequence : ℕ} {previous : Digest}
    {links : List (Link Body Digest)} (intact : Intact sound sequence previous links) :
    ∀ link ∈ links, sound link := by
  induction links generalizing sequence previous with
  | nil => simp
  | cons first rest inductionHypothesis =>
      obtain ⟨-, -, firstSound, tail⟩ := intact
      exact List.forall_mem_cons.mpr ⟨firstSound, inductionHypothesis tail⟩

/-- Two intact chains of one length that end in one digest agree link by link,
when equal digests come with equal references. The induction takes the links
from the last one backwards. -/
theorem intact_agree {Other : Type} {sound : Link Body Digest → Prop}
    {otherSound : Link Other Digest → Prop} {sequence : ℕ} {previous : Digest}
    {links : List (Link Body Digest)} {others : List (Link Other Digest)}
    (intact : Intact sound sequence previous links)
    (otherIntact : Intact otherSound sequence previous others)
    (sameLength : links.length = others.length)
    (sameLast : lastDigest previous links = lastDigest previous others)
    (backward : ∀ link ∈ links, ∀ other ∈ others, link.digest = other.digest →
      link.previous = other.previous) :
    List.Forall₂ (fun link other => link.sequence = other.sequence ∧
      link.previous = other.previous ∧ link.digest = other.digest) links others := by
  induction links using List.reverseRecOn generalizing others with
  | nil =>
      obtain rfl := List.length_eq_zero_iff.mp sameLength.symm
      exact .nil
  | append_singleton links link inductionHypothesis =>
      obtain rfl | ⟨rest, other, rfl⟩ := List.eq_nil_or_concat others
      · simp at sameLength
      · rw [List.concat_eq_append] at otherIntact sameLength sameLast backward ⊢
        obtain ⟨before, place, reference, _⟩ := (intact_append _ _ _ _ _).mp intact
        obtain ⟨otherBefore, otherPlace, otherReference, _⟩ :=
          (intact_append _ _ _ _ _).mp otherIntact
        rw [lastDigest_append, lastDigest_append] at sameLast
        have references := backward link (by simp) other (by simp) sameLast
        have shorter : links.length = rest.length := by simpa using sameLength
        have agree := inductionHypothesis before otherBefore shorter
          (by rw [← reference, ← otherReference, references])
          (fun first inFirst second inSecond => backward first (by simp [inFirst])
            second (by simp [inSecond]))
        exact List.rel_append agree
          (.cons ⟨by rw [place, otherPlace, shorter], references, sameLast⟩ .nil)

end Vasi.HashChain
