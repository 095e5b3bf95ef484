/-
# Hash chains

A log whose entries carry two values: the one they are known by (`hash`) and the one of the
entry before them (`prev`), `g` in front of the first.  All that is assumed of the hash is that
an entry's own value determines the value it refers to, on the entries at hand, and that no
entry is known by `g`.

Then the value of the last entry determines the values of all (`Linked.forall₂_hash`), and a
chain built from entries of another is a beginning of it (`Linked.isPrefix`).
-/
import Mathlib.Data.List.Infix
import Mathlib.Data.List.Forall2

namespace Axg.General

section HashChain

variable {α η : Type} {prev hash : α → η} {g : η}

/-- Each entry refers to the one before it, the first to `g`. -/
def Linked (prev hash : α → η) : η → List α → Prop
  | _, [] => True
  | g, a :: as => prev a = g ∧ Linked prev hash (hash a) as

/-- The value that the next entry must refer to. -/
def tip (hash : α → η) (g : η) (as : List α) : η := (as.getLast?.map hash).getD g

@[simp] theorem tip_nil : tip hash g [] = g := rfl

@[simp] theorem tip_concat (as : List α) (a : α) : tip hash g (as ++ [a]) = hash a := by
  simp [tip]

theorem tip_cons (a : α) (as : List α) : tip hash g (a :: as) = tip hash (hash a) as := by
  cases as with
  | nil => rfl
  | cons b bs => simp [tip, List.getLast?_eq_some_getLast]

theorem linked_append {as bs : List α} : Linked prev hash g (as ++ bs) ↔
    Linked prev hash g as ∧ Linked prev hash (tip hash g as) bs := by
  induction as generalizing g with
  | nil => simp [Linked]
  | cons a as ih => rw [List.cons_append, Linked, Linked, ih, tip_cons, and_assoc]

theorem linked_concat {as : List α} {a : α} : Linked prev hash g (as ++ [a]) ↔
    Linked prev hash g as ∧ prev a = tip hash g as := by
  rw [linked_append]
  simp [Linked]

theorem Linked.of_isPrefix {as bs : List α} (h : Linked prev hash g bs) (hp : as <+: bs) :
    Linked prev hash g as := by
  obtain ⟨cs, rfl⟩ := hp
  exact (linked_append.mp h).1

/-- Only the two values of an entry matter. -/
theorem linked_map_iff {f : α → α} {as : List α}
    (h : ∀ a ∈ as, prev (f a) = prev a ∧ hash (f a) = hash a) :
    Linked prev hash g (as.map f) ↔ Linked prev hash g as := by
  induction as generalizing g with
  | nil => exact Iff.rfl
  | cons a as ih =>
    obtain ⟨hp, hh⟩ := h a (by simp)
    rw [List.map_cons, Linked, Linked, hp, hh, ih (fun b hb => h b (by simp [hb]))]

/-- The last value determines all of them.  The induction takes entries off the end, where the
two chains are known to agree. -/
theorem Linked.forall₂_hash {as bs : List α} (ha : Linked prev hash g as)
    (hb : Linked prev hash g bs) (hga : ∀ a ∈ as, hash a ≠ g) (hgb : ∀ b ∈ bs, hash b ≠ g)
    (hcommit : ∀ a ∈ as, ∀ b ∈ bs, hash a = hash b → prev a = prev b)
    (h : tip hash g as = tip hash g bs) :
    List.Forall₂ (fun a b => hash a = hash b) as bs := by
  induction as using List.reverseRecOn generalizing bs with
  | nil =>
    rcases List.eq_nil_or_concat bs with rfl | ⟨bs, b, rfl⟩
    · exact .nil
    · rw [List.concat_eq_append] at h hgb
      rw [tip_nil, tip_concat] at h
      exact absurd h.symm (hgb b (by simp))
  | append_singleton as a ih =>
    rcases List.eq_nil_or_concat bs with rfl | ⟨bs, b, rfl⟩
    · rw [tip_nil, tip_concat] at h
      exact absurd h (hga a (by simp))
    · rw [List.concat_eq_append] at *
      rw [tip_concat, tip_concat] at h
      have hprev := hcommit a (by simp) b (by simp) h
      rw [linked_concat] at ha hb
      refine List.rel_append (ih ha.1 hb.1 (fun x hx => hga x (by simp [hx]))
        (fun x hx => hgb x (by simp [hx]))
        (fun x hx y hy => hcommit x (by simp [hx]) y (by simp [hy])) ?_) (.cons h .nil)
      rw [← ha.2, ← hb.2, hprev]

/-- A chain of entries that all come from another chain is a beginning of it. -/
theorem Linked.isPrefix {as bs : List α} (ha : Linked prev hash g as)
    (hb : Linked prev hash g bs) (hg : ∀ a ∈ as, hash a ≠ g)
    (hcommit : ∀ a ∈ as, ∀ b ∈ as, hash a = hash b → prev a = prev b)
    (hsub : ∀ b ∈ bs, b ∈ as) : bs <+: as := by
  induction bs using List.reverseRecOn with
  | nil => exact List.nil_prefix
  | append_singleton bs b ih =>
    rw [linked_concat] at hb
    obtain ⟨cs, rfl⟩ := ih hb.1 (fun x hx => hsub x (by simp [hx]))
    obtain ⟨pre, post, hsplit⟩ := List.append_of_mem (hsub b (by simp))
    have hpre : Linked prev hash g pre ∧ prev b = tip hash g pre := by
      rw [hsplit, linked_append] at ha
      exact ⟨ha.1, ha.2.1⟩
    have hbs : ∀ x ∈ bs, x ∈ bs ++ cs := fun x hx => List.mem_append_left cs hx
    have hpre' : ∀ x ∈ pre, x ∈ bs ++ cs := fun x hx => hsplit ▸ List.mem_append_left _ hx
    have hsame := hpre.1.forall₂_hash hb.1 (fun x hx => hg x (hpre' x hx))
      (fun x hx => hg x (hbs x hx))
      (fun x hx y hy => hcommit x (hpre' x hx) y (hbs y hy)) (hpre.2.symm.trans hb.2)
    obtain ⟨rfl, hrest⟩ := List.append_inj hsplit hsame.length_eq.symm
    exact ⟨post, by rw [hrest]; simp⟩

end HashChain

end Axg.General
