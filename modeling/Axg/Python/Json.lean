/-
# JSON values as Python holds them

What `json.loads` returns: integers of any size next to floats, strings with whatever code
points the document spelled, and dictionaries that keep their insertion order and hold a key
once.  A dictionary is an association list; `Json.Wf` says that its keys are distinct at every
level, which every function below preserves.

Two equalities matter to a program.  Python's `==` (`pyEq`) compares numbers by value and
takes `True` for `1`; equality of JSON data (`sameData`) compares numbers by value too but
keeps booleans apart.  Both ignore the order of members, so both are instances of `Json.same`.
-/
import Mathlib.Data.List.Perm.Subperm
import Axg.Python.Binary64
import Axg.Python.Text

namespace Axg.Python

/-! ## 1. Dictionaries -/

/-- A Python `dict` with string keys, in insertion order. -/
abbrev Dict (α : Type) := List (Str × α)

namespace Dict

variable {α β : Type}

def keys (d : Dict α) : List Str := d.map Prod.fst

/-- `d[k] = v`: in place if the key is there, else at the end. -/
def set : Dict α → Str → α → Dict α
  | [], k, v => [(k, v)]
  | (k', v') :: d, k, v => if k' = k then (k, v) :: d else (k', v') :: set d k v

/-- `d.update(e)`. -/
def update (d e : Dict α) : Dict α := e.foldl (fun d p => d.set p.1 p.2) d

/-- `d.setdefault(k, v)`. -/
def setdefault (d : Dict α) (k : Str) (v : α) : Dict α :=
  if (d.lookup k).isSome then d else d.set k v

/-- `{k: v for k, v in d.items() if k != key}`. -/
def without (d : Dict α) (key : Str) : Dict α := d.filter (fun p => p.1 ≠ key)

/-- `dict(pairs)`: a later value replaces an earlier one, in its place. -/
def ofPairs (ps : List (Str × α)) : Dict α := update [] ps

theorem keys_map (f : α → β) (d : Dict α) : keys (d.map (fun p => (p.1, f p.2))) = keys d := by
  simp [keys, Function.comp_def]

theorem lookup_cons_ite (k' : Str) (v : α) (d : Dict α) (k : Str) :
    List.lookup k ((k', v) :: d) = if k = k' then some v else d.lookup k := by
  rw [List.lookup_cons]
  by_cases h : k = k'
  · simp [h]
  · have hb : (k == k') = false := by simpa using h
    simp [h, hb]

theorem lookup_set (d : Dict α) (k j : Str) (v : α) :
    (d.set k v).lookup j = if j = k then some v else d.lookup j := by
  induction d with
  | nil => simp [set, lookup_cons_ite]
  | cons p d ih =>
    obtain ⟨k', v'⟩ := p
    unfold set
    by_cases hk : k' = k
    · subst hk
      by_cases h : j = k' <;> simp [lookup_cons_ite, h]
    · by_cases h : j = k'
      · subst h; simp [hk]
      · simp [hk, lookup_cons_ite, h, ih]

theorem keys_set_of_mem {d : Dict α} {k : Str} (v : α) (h : k ∈ d.keys) :
    (d.set k v).keys = d.keys := by
  induction d with
  | nil => simp [keys] at h
  | cons p d ih =>
    obtain ⟨k', v'⟩ := p
    unfold set
    by_cases hk : k' = k
    · subst hk; simp [keys]
    · have hmem : k ∈ keys d := by
        simp only [keys, List.map_cons, List.mem_cons] at h
        exact h.resolve_left (fun e => hk e.symm)
      have := ih hmem
      simp only [keys] at this ⊢
      simp [hk, this]

theorem set_of_not_mem {d : Dict α} {k : Str} (v : α) (h : k ∉ d.keys) :
    d.set k v = d ++ [(k, v)] := by
  induction d with
  | nil => rfl
  | cons p d ih =>
    obtain ⟨k', v'⟩ := p
    simp only [keys, List.map_cons, List.mem_cons, not_or] at h
    have hk : ¬ k' = k := fun e => h.1 e.symm
    simp [set, hk, ih (by simpa [keys] using h.2)]

theorem nodup_set {d : Dict α} (k : Str) (v : α) (h : d.keys.Nodup) : (d.set k v).keys.Nodup := by
  by_cases hk : k ∈ d.keys
  · rwa [keys_set_of_mem v hk]
  · rw [set_of_not_mem v hk, keys, List.map_append]
    exact List.Nodup.append h (by simp) (List.disjoint_singleton.mpr hk)

theorem nodup_update {d : Dict α} (e : Dict α) (h : d.keys.Nodup) : (d.update e).keys.Nodup := by
  induction e generalizing d with
  | nil => exact h
  | cons p e ih => exact ih (nodup_set p.1 p.2 h)

theorem nodup_ofPairs (ps : List (Str × α)) : (ofPairs ps).keys.Nodup :=
  nodup_update ps (by simp [keys])

theorem nodup_without {d : Dict α} (key : Str) (h : d.keys.Nodup) :
    (d.without key).keys.Nodup :=
  List.Nodup.sublist (List.Sublist.map _ List.filter_sublist) h

/-- Pairs with distinct keys make the dictionary they spell. -/
theorem ofPairs_of_nodup {ps : List (Str × α)} (h : (ps.map Prod.fst).Nodup) : ofPairs ps = ps := by
  have go : ∀ (ps : List (Str × α)) (d : Dict α), (d.keys ++ ps.map Prod.fst).Nodup →
      update d ps = d ++ ps := by
    intro ps
    induction ps with
    | nil => intro d _; simp [update]
    | cons p ps ih =>
      intro d hd
      have hp : p.1 ∉ d.keys := by
        intro hm
        exact (List.nodup_append.mp hd).2.2 p.1 hm p.1 (by simp) rfl
      have hset : d.set p.1 p.2 = d ++ [p] := set_of_not_mem p.2 hp
      have := ih (d ++ [p]) (by simpa [keys] using hd)
      simp only [update, List.foldl_cons, hset] at this ⊢
      rw [this]; simp
  simpa [ofPairs] using go ps [] (by simpa [keys] using h)

/-- With distinct keys, looking a key up finds the pairs of the list and no others. -/
theorem lookup_eq_some_iff {d : Dict α} (h : d.keys.Nodup) {k : Str} {v : α} :
    d.lookup k = some v ↔ (k, v) ∈ d := by
  induction d with
  | nil => simp
  | cons p d ih =>
    obtain ⟨k', v'⟩ := p
    have hn := List.nodup_cons.mp h
    rw [lookup_cons_ite]
    by_cases hk : k = k'
    · subst hk
      have hno : (k, v) ∉ d := fun hm => hn.1 (List.mem_map.mpr ⟨_, hm, rfl⟩)
      simp [hno, eq_comm]
    · simp [ih hn.2, hk]

theorem lookup_mem {d : Dict α} {k : Str} {v : α} (h : d.lookup k = some v) : (k, v) ∈ d := by
  induction d with
  | nil => simp at h
  | cons p d ih =>
    obtain ⟨k', v'⟩ := p
    rw [lookup_cons_ite] at h
    split at h
    · rename_i hk; subst hk; cases h; simp
    · exact List.mem_cons_of_mem _ (ih h)

theorem lookup_isSome_iff {d : Dict α} {k : Str} : (d.lookup k).isSome = true ↔ k ∈ d.keys := by
  induction d with
  | nil => simp [keys]
  | cons p d ih =>
    obtain ⟨k', v'⟩ := p
    rw [lookup_cons_ite]
    by_cases hk : k = k'
    · simp [keys, hk]
    · simp only [hk, ↓reduceIte, ih]
      simp [keys, hk]

theorem lookup_eq_none_iff {d : Dict α} {k : Str} : d.lookup k = none ↔ k ∉ d.keys := by
  rw [← lookup_isSome_iff]
  cases d.lookup k <;> simp

theorem mem_set {d : Dict α} {k : Str} {v : α} {p : Str × α} (h : p ∈ d.set k v) :
    p = (k, v) ∨ p ∈ d := by
  induction d with
  | nil => exact Or.inl (List.mem_singleton.mp h)
  | cons q d ih =>
    obtain ⟨k', v'⟩ := q
    unfold set at h
    split at h
    · rcases List.mem_cons.mp h with h | h
      · exact Or.inl h
      · exact Or.inr (List.mem_cons_of_mem _ h)
    · rcases List.mem_cons.mp h with h | h
      · exact Or.inr (h ▸ List.mem_cons_self)
      · exact (ih h).imp_right (List.mem_cons_of_mem _)

theorem mem_set_iff {d : Dict α} (h : d.keys.Nodup) {k : Str} {v : α} {p : Str × α} :
    p ∈ d.set k v ↔ p = (k, v) ∨ (p.1 ≠ k ∧ p ∈ d) := by
  obtain ⟨j, w⟩ := p
  rw [← lookup_eq_some_iff (nodup_set k v h), lookup_set, ← lookup_eq_some_iff h]
  by_cases hj : j = k
  · simp [hj, eq_comm]
  · simp [hj]

/-- Taking a key out forgets what it was set to. -/
theorem without_set (d : Dict α) (k : Str) (v : α) : (d.set k v).without k = d.without k := by
  induction d with
  | nil => simp [set, without]
  | cons p d ih =>
    obtain ⟨k', v'⟩ := p
    unfold set
    by_cases hk : k' = k
    · subst hk
      simp [without]
    · rw [if_neg hk, without, without, List.filter_cons_of_pos (by simpa using hk),
        List.filter_cons_of_pos (by simpa using hk)]
      exact congrArg _ ih

theorem mem_update {d e : Dict α} {p : Str × α} (h : p ∈ d.update e) : p ∈ d ∨ p ∈ e := by
  induction e generalizing d with
  | nil => exact Or.inl h
  | cons q e ih =>
    rcases ih h with h | h
    · rcases mem_set h with h | h
      · exact Or.inr (h ▸ List.mem_cons_self)
      · exact Or.inl h
    · exact Or.inr (List.mem_cons_of_mem _ h)

/-- An update writes its members, and keeps the others. -/
theorem lookup_update {d e : Dict α} (h : e.keys.Nodup) (k : Str) :
    (d.update e).lookup k = (e.lookup k).or (d.lookup k) := by
  induction e generalizing d with
  | nil => rfl
  | cons p e ih =>
    obtain ⟨j, v⟩ := p
    obtain ⟨hj, he⟩ := List.nodup_cons.mp h
    have hstep : d.update ((j, v) :: e) = (d.set j v).update e := rfl
    rw [hstep, ih he, lookup_set, lookup_cons_ite]
    by_cases hk : k = j
    · subst hk
      have hnone : e.lookup k = none := by
        rw [List.lookup_eq_none_iff]
        intro p hp
        have : p.1 ≠ k := fun e => hj (List.mem_map.mpr ⟨p, hp, e⟩)
        simpa using this.symm
      rw [hnone, if_pos rfl, if_pos rfl]
      rfl
    · rw [if_neg hk, if_neg hk]

theorem mem_ofPairs {ps : List (Str × α)} {p : Str × α} (h : p ∈ ofPairs ps) : p ∈ ps :=
  (mem_update h).resolve_left (fun h => nomatch h)

/-- A dictionary is one of its members and the others. -/
theorem perm_cons_without {d : Dict α} (h : d.keys.Nodup) {k : Str} {v : α}
    (hk : d.lookup k = some v) : d.Perm ((k, v) :: d.without k) := by
  induction d with
  | nil => simp at hk
  | cons p d ih =>
    obtain ⟨k', v'⟩ := p
    obtain ⟨hno, hn⟩ := List.nodup_cons.mp h
    rw [lookup_cons_ite] at hk
    by_cases hkk : k = k'
    · subst hkk
      simp only [↓reduceIte, Option.some.injEq] at hk
      subst hk
      have hwithout : without d k = d := by
        refine List.filter_eq_self.mpr (fun q hq => ?_)
        have hne : q.1 ≠ k := fun e => hno (List.mem_map.mpr ⟨q, hq, e⟩)
        simpa using hne
      have : without ((k, v') :: d) k = d := by
        rw [without, List.filter_cons_of_neg (by simp)]; exact hwithout
      rw [this]
    · simp only [hkk, ↓reduceIte] at hk
      have hcons : without ((k', v') :: d) k = (k', v') :: without d k := by
        rw [without, List.filter_cons_of_pos (by simpa using fun e => hkk e.symm)]; rfl
      rw [hcons]
      exact ((ih hn hk).cons _).trans (List.Perm.swap _ _ _)

theorem lookup_without (d : Dict α) (key k : Str) :
    (d.without key).lookup k = if k = key then none else d.lookup k := by
  induction d with
  | nil => simp [without]
  | cons p d ih =>
    obtain ⟨k', v'⟩ := p
    unfold without at ih ⊢
    by_cases hk' : k' = key
    · subst hk'
      rw [List.filter_cons_of_neg (by simp), ih, lookup_cons_ite]
      by_cases h : k = k' <;> simp [h]
    · rw [List.filter_cons_of_pos (by simpa using hk'), lookup_cons_ite, ih, lookup_cons_ite]
      by_cases h : k = k'
      · subst h; simp [hk']
      · simp [h]

/-- Mapping the values of a dictionary. -/
theorem lookup_map (f : α → β) (d : Dict α) (k : Str) :
    List.lookup k (d.map (fun p => (p.1, f p.2))) = (d.lookup k).map f := by
  induction d with
  | nil => rfl
  | cons p d ih =>
    obtain ⟨k', v⟩ := p
    rw [List.map_cons, lookup_cons_ite, lookup_cons_ite, ih]
    split <;> rfl

end Dict

/-! ## 2. Values -/

inductive Json
  | null
  | bool (b : Bool)
  | int (i : Int)
  | float (x : F64)
  | str (s : Str)
  | arr (items : List Json)
  | obj (members : List (Str × Json))

namespace Json

mutual

/-- Induction over a tree: a container may use the statement of what it holds. -/
@[elab_as_elim] theorem inductValue {P : Json → Prop} (null : P .null) (bool : ∀ b, P (.bool b))
    (int : ∀ i, P (.int i)) (float : ∀ x, P (.float x)) (str : ∀ s, P (.str s))
    (arr : ∀ xs, (∀ v ∈ xs, P v) → P (.arr xs))
    (obj : ∀ ms, (∀ p ∈ ms, P p.2) → P (.obj ms)) : ∀ v, P v
  | .null => null
  | .bool b => bool b
  | .int i => int i
  | .float x => float x
  | .str s => str s
  | .arr xs => arr xs (inductItems null bool int float str arr obj xs)
  | .obj ms => obj ms (inductMembers null bool int float str arr obj ms)

theorem inductItems {P : Json → Prop} (null : P .null) (bool : ∀ b, P (.bool b))
    (int : ∀ i, P (.int i)) (float : ∀ x, P (.float x)) (str : ∀ s, P (.str s))
    (arr : ∀ xs, (∀ v ∈ xs, P v) → P (.arr xs))
    (obj : ∀ ms, (∀ p ∈ ms, P p.2) → P (.obj ms)) : ∀ xs : List Json, ∀ v ∈ xs, P v
  | [], _, h => nomatch h
  | _ :: _, _, .head _ => inductValue null bool int float str arr obj _
  | _ :: xs, v, .tail _ h => inductItems null bool int float str arr obj xs v h

theorem inductMembers {P : Json → Prop} (null : P .null) (bool : ∀ b, P (.bool b))
    (int : ∀ i, P (.int i)) (float : ∀ x, P (.float x)) (str : ∀ s, P (.str s))
    (arr : ∀ xs, (∀ v ∈ xs, P v) → P (.arr xs))
    (obj : ∀ ms, (∀ p ∈ ms, P p.2) → P (.obj ms)) : ∀ ms : List (Str × Json), ∀ p ∈ ms, P p.2
  | [], _, h => nomatch h
  | (_, _) :: _, _, .head _ => inductValue null bool int float str arr obj _
  | _ :: ms, p, .tail _ h => inductMembers null bool int float str arr obj ms p h

end

/-! ## 3. Well-formedness

One traversal serves every condition on the leaves and on the keys of a tree. -/

mutual

/-- Does a test hold at every leaf, and another of the keys of every object? -/
def every (leaf : Json → Bool) (ks : List Str → Bool) : Json → Bool
  | .arr xs => everyItem leaf ks xs
  | .obj ms => ks (ms.map Prod.fst) && everyMember leaf ks ms
  | .null => leaf .null
  | .bool b => leaf (.bool b)
  | .int i => leaf (.int i)
  | .float x => leaf (.float x)
  | .str s => leaf (.str s)

def everyItem (leaf : Json → Bool) (ks : List Str → Bool) : List Json → Bool
  | [] => true
  | v :: vs => every leaf ks v && everyItem leaf ks vs

def everyMember (leaf : Json → Bool) (ks : List Str → Bool) : List (Str × Json) → Bool
  | [] => true
  | (_, v) :: ms => every leaf ks v && everyMember leaf ks ms

end

variable {leaf : Json → Bool} {ks : List Str → Bool}

theorem everyItem_iff {xs : List Json} :
    everyItem leaf ks xs = true ↔ ∀ v ∈ xs, every leaf ks v = true := by
  induction xs with
  | nil => simp [everyItem]
  | cons v vs ih => simp [everyItem, ih]

theorem everyMember_iff {ms : List (Str × Json)} :
    everyMember leaf ks ms = true ↔ ∀ p ∈ ms, every leaf ks p.2 = true := by
  induction ms with
  | nil => simp [everyMember]
  | cons p ms ih =>
    obtain ⟨k, v⟩ := p
    simp only [everyMember, Bool.and_eq_true, ih, List.mem_cons, forall_eq_or_imp]

theorem every_arr {xs : List Json} :
    every leaf ks (.arr xs) = true ↔ ∀ v ∈ xs, every leaf ks v = true := by
  rw [every, everyItem_iff]

theorem every_obj {ms : List (Str × Json)} :
    every leaf ks (.obj ms) = true ↔
      ks (ms.map Prod.fst) = true ∧ ∀ p ∈ ms, every leaf ks p.2 = true := by
  rw [every, Bool.and_eq_true, everyMember_iff]

/-- Two tests of a tree, combined leaf by leaf and object by object. -/
theorem every_of_and {leaf₁ leaf₂ leaf₃ : Json → Bool} {ks₁ ks₂ ks₃ : List Str → Bool}
    (hl : ∀ v, leaf₁ v = true → leaf₂ v = true → leaf₃ v = true)
    (hk : ∀ l, ks₁ l = true → ks₂ l = true → ks₃ l = true) {v : Json}
    (h₁ : every leaf₁ ks₁ v = true) (h₂ : every leaf₂ ks₂ v = true) :
    every leaf₃ ks₃ v = true := by
  induction v using Json.inductValue with
  | null => exact hl _ h₁ h₂
  | bool b => exact hl _ h₁ h₂
  | int i => exact hl _ h₁ h₂
  | float x => exact hl _ h₁ h₂
  | str s => exact hl _ h₁ h₂
  | arr xs ih =>
    rw [every_arr] at h₁ h₂ ⊢
    exact fun v hv => ih v hv (h₁ v hv) (h₂ v hv)
  | obj ms ih =>
    rw [every_obj] at h₁ h₂ ⊢
    exact ⟨hk _ h₁.1 h₂.1, fun p hp => ih p hp (h₁.2 p hp) (h₂.2 p hp)⟩

mutual

/-- The strings and the keys of a tree. -/
def strings : Json → List Str
  | .arr xs => stringsItems xs
  | .obj ms => stringsMembers ms
  | .str s => [s]
  | .null => []
  | .bool _ => []
  | .int _ => []
  | .float _ => []

def stringsItems : List Json → List Str
  | [] => []
  | v :: vs => strings v ++ stringsItems vs

def stringsMembers : List (Str × Json) → List Str
  | [] => []
  | (k, v) :: ms => k :: (strings v ++ stringsMembers ms)

end

theorem mem_strings_arr {xs : List Json} {s : Str} :
    s ∈ (arr xs).strings ↔ ∃ v ∈ xs, s ∈ v.strings := by
  rw [strings]
  induction xs with
  | nil => simp [stringsItems]
  | cons v vs ih => simp [stringsItems, ih]

theorem mem_strings_obj {ms : List (Str × Json)} {s : Str} :
    s ∈ (obj ms).strings ↔ ∃ p ∈ ms, s = p.1 ∨ s ∈ p.2.strings := by
  rw [strings]
  induction ms with
  | nil => simp [stringsMembers]
  | cons p ms ih =>
    obtain ⟨k, v⟩ := p
    simp only [stringsMembers, List.mem_cons, List.mem_append, ih, exists_eq_or_imp, or_assoc]

/-- Every dictionary of the tree holds a key once: what Python can build. -/
def Wf (v : Json) : Prop := every (fun _ => true) (fun ks => decide ks.Nodup) v = true

instance (v : Json) : Decidable v.Wf := inferInstanceAs (Decidable (_ = true))

theorem wf_arr {xs : List Json} : (arr xs).Wf ↔ ∀ v ∈ xs, v.Wf := every_arr

theorem wf_obj {ms : List (Str × Json)} :
    (obj ms).Wf ↔ (Dict.keys ms).Nodup ∧ ∀ p ∈ ms, p.2.Wf := by
  unfold Wf
  rw [every_obj, decide_eq_true_iff]
  rfl

/-- Strings and keys are Unicode text, and floats are finite. -/
def isText : Json → Bool :=
  every
    (fun
      | .str s => decide (IsScalar s)
      | .float (.finite _ _) => true
      | .float _ => false
      | _ => true)
    (fun ks => decide (∀ k ∈ ks, IsScalar k))

/-- Every integer of the tree has a `float`: the conversion does not overflow. -/
def hasDoubles : Json → Bool :=
  every
    (fun
      | .int i => (floatOfInt i).isSome
      | _ => true)
    (fun _ => true)

mutual

/-- Every integer replaced by its double. -/
def toBinary64 : Json → Json
  | .int i => .float ((floatOfInt i).getD .nan)
  | .arr xs => .arr (itemsToBinary64 xs)
  | .obj ms => .obj (membersToBinary64 ms)
  | .null => .null
  | .bool b => .bool b
  | .float x => .float x
  | .str s => .str s

def itemsToBinary64 : List Json → List Json
  | [] => []
  | v :: vs => toBinary64 v :: itemsToBinary64 vs

def membersToBinary64 : List (Str × Json) → List (Str × Json)
  | [] => []
  | (k, v) :: ms => (k, toBinary64 v) :: membersToBinary64 ms

end

theorem itemsToBinary64_eq_map (xs : List Json) : itemsToBinary64 xs = xs.map toBinary64 := by
  induction xs with
  | nil => rfl
  | cons v vs ih => rw [itemsToBinary64, ih]; rfl

theorem membersToBinary64_eq_map (ms : List (Str × Json)) :
    membersToBinary64 ms = ms.map (fun p => (p.1, toBinary64 p.2)) := by
  induction ms with
  | nil => rfl
  | cons p ms ih => obtain ⟨k, v⟩ := p; rw [membersToBinary64, ih]; rfl

/-! ## 4. Equality up to the order of members -/

mutual

/-- Equality of trees, given equality of leaves: lists item by item, and objects with the same
number of members by looking each key of one up in the other. -/
def same (leaf : Json → Json → Bool) : Json → Json → Bool
  | .arr xs, w =>
    match w with
    | .arr ys => sameItems leaf xs ys
    | _ => false
  | .obj ms, w =>
    match w with
    | .obj ns => ms.length == ns.length && sameMembers leaf ms ns
    | _ => false
  | .null, w => leaf .null w
  | .bool b, w => leaf (.bool b) w
  | .int i, w => leaf (.int i) w
  | .float x, w => leaf (.float x) w
  | .str s, w => leaf (.str s) w

def sameItems (leaf : Json → Json → Bool) : List Json → List Json → Bool
  | [], [] => true
  | v :: vs, w :: ws => same leaf v w && sameItems leaf vs ws
  | _, _ => false

def sameMembers (leaf : Json → Json → Bool) : List (Str × Json) → List (Str × Json) → Bool
  | [], _ => true
  | (k, v) :: ms, ns =>
    (match ns.lookup k with
      | some w => same leaf v w
      | none => false) && sameMembers leaf ms ns

end

/-- What a number is worth: an integer of units of `2 ^ -1074`, or not finite. -/
inductive Worth
  | finite (units : Int)
  | inf (neg : Bool)
  | nan
deriving DecidableEq

/-- The value of a number, exactly. -/
def worth : Json → Option Worth
  | .int i => some (.finite (i * one))
  | .float (.finite neg m) => some (.finite (if neg then -(m.units : Int) else m.units))
  | .float (.inf neg) => some (.inf neg)
  | .float .nan => some .nan
  | _ => none

/-- Numbers are equal when they are worth the same; a NaN is worth nothing. -/
def sameNumber (v w : Json) : Bool :=
  match v.worth, w.worth with
  | some a, some b => a == b && a != .nan
  | _, _ => false

/-- `bool(v)` -/
def truthy : Json → Bool
  | .null => false
  | .bool b => b
  | .int i => i != 0
  | .float (.finite _ m) => m.units != 0
  | .float _ => true
  | .str s => !s.isEmpty
  | .arr xs => !xs.isEmpty
  | .obj ms => !ms.isEmpty

/-- Equality of leaves as JSON data. -/
def dataLeaf : Json → Json → Bool
  | .null, .null => true
  | .bool a, .bool b => a == b
  | .str s, .str t => s == t
  | v, w => sameNumber v w

/-- A boolean is the integer 0 or 1 to Python. -/
def boolAsInt : Json → Json
  | .bool b => .int (if b then 1 else 0)
  | v => v

/-- Equality of leaves as Python's `==` has it. -/
def pyLeaf : Json → Json → Bool
  | .null, .null => true
  | .str s, .str t => s == t
  | v, w => sameNumber (boolAsInt v) (boolAsInt w)

/-- Equal as JSON data: the order of members does not count, nor `1` against `1.0`. -/
def sameData (v w : Json) : Bool := same dataLeaf v w

/-- `v == w` in Python. -/
def pyEq (v w : Json) : Bool := same pyLeaf v w

/-- Only a string is `==` to a string. -/
theorem pyEq_str_iff {v : Json} {s : Str} : v.pyEq (.str s) = true ↔ v = .str s := by
  cases v <;> simp [pyEq, same, pyLeaf, boolAsInt, sameNumber, worth]

section Same

variable {leaf : Json → Json → Bool}

theorem sameItems_iff {xs ys : List Json} :
    sameItems leaf xs ys = true ↔ List.Forall₂ (fun v w => same leaf v w = true) xs ys := by
  induction xs generalizing ys with
  | nil => cases ys <;> simp [sameItems]
  | cons v vs ih => cases ys <;> simp [sameItems, ih]

theorem sameMembers_iff {ms ns : List (Str × Json)} :
    sameMembers leaf ms ns = true ↔
      ∀ p ∈ ms, ∃ w, ns.lookup p.1 = some w ∧ same leaf p.2 w = true := by
  induction ms with
  | nil => simp [sameMembers]
  | cons p ms ih =>
    obtain ⟨k, v⟩ := p
    simp only [sameMembers, Bool.and_eq_true, ih, List.mem_cons, forall_eq_or_imp]
    refine and_congr ?_ Iff.rfl
    cases ns.lookup k <;> simp

theorem same_arr {xs ys : List Json} :
    same leaf (.arr xs) (.arr ys) = true ↔
      List.Forall₂ (fun v w => same leaf v w = true) xs ys := by
  rw [same, sameItems_iff]

theorem same_obj {ms ns : List (Str × Json)} :
    same leaf (.obj ms) (.obj ns) = true ↔ ms.length = ns.length ∧
      ∀ p ∈ ms, ∃ w, ns.lookup p.1 = some w ∧ same leaf p.2 w = true := by
  rw [same, Bool.and_eq_true, beq_iff_eq, sameMembers_iff]

end Same

theorem sameNumber_self {v : Json} {units : Int} (h : v.worth = some (.finite units)) :
    v.sameNumber v = true := by
  simp [sameNumber, h]

/-- Text is equal to itself in Python: it has no NaN. -/
theorem pyEq_refl {v : Json} (hw : v.Wf) (ht : v.isText = true) : v.pyEq v = true := by
  induction v using Json.inductValue with
  | null => rfl
  | bool b => exact @sameNumber_self (boolAsInt (.bool b)) _ rfl
  | int i => exact @sameNumber_self (.int i) _ rfl
  | float x =>
    cases x with
    | finite neg m => exact @sameNumber_self (.float (.finite neg m)) _ rfl
    | inf neg => cases ht
    | nan => cases ht
  | str s => exact beq_self_eq_true s
  | arr xs ih =>
    unfold isText at ht
    rw [every_arr] at ht
    refine same_arr.mpr (List.forall₂_same.mpr ?_)
    intro v hv
    exact ih v hv (wf_arr.mp hw v hv) (ht v hv)
  | obj ms ih =>
    unfold isText at ht
    rw [every_obj] at ht
    obtain ⟨hnodup, hwf⟩ := wf_obj.mp hw
    refine same_obj.mpr ⟨rfl, ?_⟩
    intro p hp
    exact ⟨p.2, (Dict.lookup_eq_some_iff hnodup).mpr hp, ih p hp (hwf p hp) (ht.2 p hp)⟩

end Json

end Axg.Python
