import ChecksAndBalances.Lib.Walk
import Mathlib.Data.List.Induction

/-!
# Hash chains

A log of entries in which every entry belongs to one chain, names the hash before it on that chain
and has a hash of its own.  Chains only grow, and if the hash of an entry is a digest of what
determines the entry, two chains that end in one hash are the same chain, unless two inputs of the
digest collide.
-/

namespace ChecksAndBalances.Lib.HashChain

variable {α κ η ι : Type} [DecidableEq κ]

section Growth

variable (key : α → κ) (previous : α → Option η) (hash : α → η)

/-- The entries of one chain. -/
def onChain (k : κ) (entries : List α) : List α := entries.filter fun a => key a = k

/-- The entries continue the chains from the first heads to the last. -/
def Continues (head : κ → Option η) (added : List α) (head' : κ → Option η) : Prop :=
  ∀ k, Walk previous (fun a => some (hash a)) (head k) (onChain key k added) (head' k)

variable {key previous hash} {head head' head'' : κ → Option η}

@[simp] theorem onChain_append (k : κ) (first rest : List α) :
    onChain key k (first ++ rest) = onChain key k first ++ onChain key k rest :=
  List.filter_append ..

theorem continues_nil : Continues key previous hash head [] head := fun _ => rfl

theorem Continues.append {first rest : List α} (h : Continues key previous hash head first head')
    (h' : Continues key previous hash head' rest head'') :
    Continues key previous hash head (first ++ rest) head'' := by
  intro k
  rw [onChain_append, walk_append]
  exact ⟨head' k, h k, h' k⟩

/-- One entry continues its own chain and no other. -/
theorem continues_singleton {a : α} (hprevious : previous a = head (key a))
    (hhead : ∀ k, head' k = if key a = k then some (hash a) else head k) :
    Continues key previous hash head [a] head' := by
  intro k
  by_cases hk : key a = k
  · subst hk
    simp [onChain, Walk, hprevious, hhead]
  · simp [onChain, Walk, hk, hhead]

end Growth

/-! ## What a head tells -/

section Collisions

variable {previous : α → Option η} {hash : α → η} {input : α → ι} {digest : ι → η}

/-- Two entries whose inputs differ and have one digest. -/
def Collision (digest : ι → η) (input : α → ι) (entries entries' : List α) : Prop :=
  ∃ a ∈ entries, ∃ a' ∈ entries', input a ≠ input a' ∧ digest (input a) = digest (input a')

theorem Collision.append {entries entries' : List α} (h : Collision digest input entries entries')
    (rest rest' : List α) : Collision digest input (entries ++ rest) (entries' ++ rest') := by
  obtain ⟨a, ha, a', ha', hcollision⟩ := h
  exact ⟨a, List.mem_append_left _ ha, a', List.mem_append_left _ ha', hcollision⟩

/-- Two chains with one head are one chain, unless two of their inputs collide. -/
theorem eq_or_collision {entries entries' : List α} {head : Option η}
    (hwalk : Walk previous (fun a => some (hash a)) none entries head)
    (hwalk' : Walk previous (fun a => some (hash a)) none entries' head)
    (hsealed : ∀ a ∈ entries, hash a = digest (input a))
    (hsealed' : ∀ a ∈ entries', hash a = digest (input a))
    (hinput : ∀ a ∈ entries, ∀ a' ∈ entries', hash a = hash a' → input a = input a' → a = a') :
    entries = entries' ∨ Collision digest input entries entries' := by
  induction entries using List.reverseRecOn generalizing entries' head with
  | nil =>
    obtain rfl : none = head := hwalk
    cases entries' using List.reverseRecOn with
    | nil => exact Or.inl rfl
    | append_singleton entries' a' =>
      obtain ⟨-, hend⟩ := walk_concat.1 hwalk'
      cases hend
  | append_singleton entries a ih =>
    obtain ⟨hentries, rfl⟩ := walk_concat.1 hwalk
    cases entries' using List.reverseRecOn with
    | nil =>
      have hend : (none : Option η) = some (hash a) := hwalk'
      cases hend
    | append_singleton entries' a' =>
      obtain ⟨hentries', hend⟩ := walk_concat.1 hwalk'
      have hhash : hash a = hash a' := (Option.some.inj hend).symm
      have hdigest : digest (input a) = digest (input a') := by
        rw [← hsealed a (by simp), ← hsealed' a' (by simp)]
        exact hhash
      by_cases hsame : input a = input a'
      · -- the last entries agree, and so do the heads before them
        obtain rfl := hinput a (by simp) a' (by simp) hhash hsame
        have hrest := ih hentries hentries' (fun b hb => hsealed b (List.mem_append_left _ hb))
          (fun b hb => hsealed' b (List.mem_append_left _ hb))
          (fun b hb b' hb' => hinput b (List.mem_append_left _ hb) b' (List.mem_append_left _ hb'))
        rcases hrest with rfl | hcollision
        · exact Or.inl rfl
        · exact Or.inr (hcollision.append _ _)
      · exact Or.inr ⟨a, by simp, a', by simp, hsame, hdigest⟩

end Collisions

end ChecksAndBalances.Lib.HashChain
