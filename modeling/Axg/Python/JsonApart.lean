/-
# Values that are equal in Python and are not read alike

Python's `==` calls `True` and `1` equal, in lists and objects too.  It also compares two objects by
the names that they have in memory, while `json.loads` reads the surrogate pairs of what is sent as
one character: names that differ in the two halves of a pair become one name, and the last member
of a name is the one that counts.

`sameData_rejoin_iff` says that values which are `==` are read as the same data unless they are
apart at one of these two places.
-/
import Axg.Python.JsonBytes

namespace Axg.Python

namespace Json

def isBool : Json → Bool
  | bool _ => true
  | _ => false

/-- The member that a reader finds under a name. -/
def lastJoined (k : Str) : Dict Json → Option (Str × Json)
  | [] => none
  | p :: ms => (lastJoined k ms).or (if joinSurrogates p.1 = k then some p else none)

/-- A place where values that are `==` are read as different data. -/
inductive ReadApart : Json → Json → Prop
  | kind {v w : Json} (h : v.isBool ≠ w.isBool) : ReadApart v w
  | item {xs ys : List Json} {v w : Json} (hmem : (v, w) ∈ xs.zip ys) (h : ReadApart v w) :
    ReadApart (.arr xs) (.arr ys)
  | member {ms ns : Dict Json} {k name : Str} {v w : Json}
      (hleft : lastJoined k ms = some (name, v)) (hright : lastJoined k ns = some (name, w))
      (h : ReadApart v w) : ReadApart (.obj ms) (.obj ns)
  /-- The two objects have another member last: any two values. -/
  | name {ms ns : Dict Json} {k : Str} {p q : Str × Json} (hleft : lastJoined k ms = some p)
      (hright : lastJoined k ns = some q) (hne : p.1 ≠ q.1)
      (h : sameData p.2.rejoin q.2.rejoin = false) : ReadApart (.obj ms) (.obj ns)

theorem lastJoined_eq_some {k : Str} {ms : Dict Json} {p : Str × Json}
    (h : lastJoined k ms = some p) : p ∈ ms ∧ joinSurrogates p.1 = k := by
  induction ms with
  | nil => cases h
  | cons q ms ih =>
    rw [lastJoined] at h
    rcases Option.or_eq_some_iff.mp h with h | ⟨-, h⟩
    · exact ⟨List.mem_cons_of_mem _ (ih h).1, (ih h).2⟩
    · obtain ⟨hq, h⟩ := Option.ite_none_right_eq_some.mp h
      cases h
      exact ⟨List.mem_cons_self, hq⟩

theorem lastJoined_isSome {ms : Dict Json} {p : Str × Json} (h : p ∈ ms) :
    (lastJoined (joinSurrogates p.1) ms).isSome = true := by
  induction ms with
  | nil => cases h
  | cons q ms ih =>
    rw [lastJoined, Option.isSome_or]
    rcases List.mem_cons.mp h with rfl | h
    · simp
    · rw [ih h, Bool.true_or]

theorem lookup_update_rejoinMembers (k : Str) (ms d : Dict Json) :
    (d.update (rejoinMembers ms)).lookup k =
      ((lastJoined k ms).map (fun p => p.2.rejoin)).or (d.lookup k) := by
  induction ms generalizing d with
  | nil => rfl
  | cons p ms ih =>
    obtain ⟨name, v⟩ := p
    have hstep : d.update (rejoinMembers ((name, v) :: ms)) =
        (d.set (joinSurrogates name) v.rejoin).update (rejoinMembers ms) := rfl
    rw [hstep, ih, Dict.lookup_set, lastJoined]
    by_cases hk : joinSurrogates name = k
    · rw [if_pos hk.symm, if_pos hk]
      cases lastJoined k ms <;> rfl
    · rw [if_neg (Ne.symm hk), if_neg hk, Option.or_none]

/-- What is read under a name. -/
theorem lookup_rejoinObj (k : Str) (ms : Dict Json) :
    (rejoinObj ms).lookup k = (lastJoined k ms).map (fun p => p.2.rejoin) := by
  rw [rejoinObj, Dict.ofPairs, lookup_update_rejoinMembers]
  cases lastJoined k ms <;> rfl

theorem mem_keys_rejoinObj {k : Str} {ms : Dict Json} :
    k ∈ (rejoinObj ms).keys ↔ k ∈ ms.keys.map joinSurrogates := by
  rw [← Dict.lookup_isSome_iff, lookup_rejoinObj, Option.isSome_map]
  constructor
  · intro h
    obtain ⟨p, hp⟩ := Option.isSome_iff_exists.mp h
    obtain ⟨hmem, rfl⟩ := lastJoined_eq_some hp
    exact List.mem_map_of_mem (List.mem_map_of_mem hmem)
  · intro h
    obtain ⟨name, hname, rfl⟩ := List.mem_map.mp h
    obtain ⟨p, hp, rfl⟩ := List.mem_map.mp hname
    exact lastJoined_isSome hp

/-- Objects with the same names have as many members when they are read. -/
theorem length_rejoinObj {ms ns : Dict Json} (h : ∀ k, k ∈ ms.keys ↔ k ∈ ns.keys) :
    (rejoinObj ms).length = (rejoinObj ns).length := by
  have hperm : (rejoinObj ms).keys.Perm (rejoinObj ns).keys := by
    refine (List.perm_ext_iff_of_nodup (Dict.nodup_ofPairs _) (Dict.nodup_ofPairs _)).mpr ?_
    intro k
    rw [← rejoinObj, ← rejoinObj, mem_keys_rejoinObj, mem_keys_rejoinObj, List.mem_map,
      List.mem_map]
    exact exists_congr fun name => and_congr_left' (h name)
  simpa [Dict.keys] using hperm.length_eq

/-- Objects that are `==` have the same names. -/
theorem keys_iff_of_pyEq {ms ns : Dict Json} (hms : ms.keys.Nodup)
    (h : pyEq (.obj ms) (.obj ns) = true) (k : Str) : k ∈ ms.keys ↔ k ∈ ns.keys := by
  obtain ⟨hlen, hall⟩ := same_obj.mp h
  have hsub : ms.keys ⊆ ns.keys := by
    intro k hk
    obtain ⟨p, hp, rfl⟩ := List.mem_map.mp hk
    obtain ⟨w, hw, -⟩ := hall p hp
    exact Dict.lookup_isSome_iff.mp (Option.isSome_iff_exists.mpr ⟨w, hw⟩)
  have hperm := (List.subperm_of_subset hms hsub).perm_of_length_le
    (by simp [Dict.keys, hlen])
  exact hperm.mem_iff

/-- Leaves that are `==` are the same data unless one of them is a boolean. -/
theorem dataLeaf_iff_of_pyLeaf {v w : Json} (h : pyLeaf v w = true) :
    dataLeaf v w = true ↔ v.isBool = w.isBool := by
  have hbool : ∀ a b : Bool, pyLeaf (.bool a) (.bool b) = true → a = b := by decide +kernel
  cases v with
  | bool a =>
    cases w with
    | bool b => exact iff_of_true (beq_iff_eq.mpr (hbool a b h)) rfl
    | _ => exact iff_of_false Bool.false_ne_true Bool.noConfusion
  | int i =>
    cases w with
    | bool b => exact iff_of_false Bool.false_ne_true Bool.noConfusion
    | _ => exact iff_of_true h rfl
  | float x =>
    cases w with
    | bool b =>
      refine iff_of_false (fun hdata => ?_) Bool.noConfusion
      simp [dataLeaf, sameNumber, worth] at hdata
    | _ => exact iff_of_true h rfl
  | null =>
    cases w with
    | null => exact iff_of_true rfl rfl
    | _ => cases h
  | str s =>
    cases w with
    | str t => exact iff_of_true h rfl
    | _ => cases h
  | arr xs => cases w <;> cases h
  | obj ms => cases w <;> cases h

/-- Items that are `==`, one by one, are read alike unless two of them are apart. -/
theorem forall₂_rejoin_iff {xs ys : List Json}
    (h : List.Forall₂ (fun v w => sameData v.rejoin w.rejoin = true ↔ ¬ ReadApart v w) xs ys) :
    List.Forall₂ (fun v w => sameData v.rejoin w.rejoin = true) xs ys ↔
      ∀ v w, (v, w) ∈ xs.zip ys → ¬ ReadApart v w := by
  induction h with
  | nil => simp
  | @cons v w xs ys hvw _ ih =>
    rw [List.forall₂_cons, ih, hvw]
    simp only [List.zip_cons_cons, List.mem_cons, Prod.mk.injEq]
    grind

/-- A value that is no list and no object is apart from another only by its kind. -/
theorem not_readApart_iff {v w : Json} (harr : ∀ xs, v ≠ .arr xs) (hobj : ∀ ms, v ≠ .obj ms) :
    ¬ ReadApart v w ↔ v.isBool = w.isBool := by
  constructor
  · intro h
    by_contra hne
    exact h (.kind hne)
  · intro hkind h
    cases h with
    | kind h => exact h hkind
    | item _ _ => exact harr _ rfl
    | member _ _ _ => exact hobj _ rfl
    | name _ _ _ _ => exact hobj _ rfl

theorem sameData_rejoin_leaf {v w : Json} (harr : ∀ xs, v ≠ .arr xs) (hobj : ∀ ms, v ≠ .obj ms)
    (h : v.pyEq w = true) : sameData v.rejoin w.rejoin = true ↔ ¬ ReadApart v w := by
  have hleaf : pyLeaf v w = true := by
    cases v with
    | arr xs => exact absurd rfl (harr xs)
    | obj ms => exact absurd rfl (hobj ms)
    | _ => exact h
  rw [not_readApart_iff harr hobj, ← dataLeaf_iff_of_pyLeaf hleaf]
  cases v with
  | arr xs => exact absurd rfl (harr xs)
  | obj ms => exact absurd rfl (hobj ms)
  | str s =>
    cases w with
    | str t =>
      cases beq_iff_eq.mp hleaf
      exact iff_of_true (beq_self_eq_true _) (beq_self_eq_true _)
    | _ => cases hleaf
  | _ => cases w <;> exact Iff.rfl

theorem mem_rejoinObj_iff {ms : Dict Json} {k : Str} {v : Json} :
    (k, v) ∈ rejoinObj ms ↔ ∃ p, lastJoined k ms = some p ∧ p.2.rejoin = v := by
  rw [rejoinObj, ← Dict.lookup_eq_some_iff (Dict.nodup_ofPairs _), ← rejoinObj, lookup_rejoinObj,
    Option.map_eq_some_iff]

/-- Values that are `==` are read as the same data exactly when they are nowhere apart. -/
theorem sameData_rejoin_iff {v w : Json} (hv : v.Wf) (hw : w.Wf) (h : v.pyEq w = true) :
    sameData v.rejoin w.rejoin = true ↔ ¬ ReadApart v w := by
  induction v using Json.inductValue generalizing w with
  | arr xs ih =>
    cases w with
    | arr ys =>
      have hitems : List.Forall₂ (fun v w => sameData v.rejoin w.rejoin = true ↔ ¬ ReadApart v w)
          xs ys := by
        refine List.forall₂_iff_zip.mpr ⟨(same_arr.mp h).length_eq, fun {v w} hmem => ?_⟩
        obtain ⟨hvm, hwm⟩ := List.of_mem_zip hmem
        exact ih v hvm (wf_arr.mp hv v hvm) (wf_arr.mp hw w hwm)
          ((List.forall₂_iff_zip.mp (same_arr.mp h)).2 hmem)
      rw [rejoin, rejoin, rejoinItems_eq_map, rejoinItems_eq_map, sameData, same_arr,
        List.forall₂_map_left_iff, List.forall₂_map_right_iff]
      refine (forall₂_rejoin_iff hitems).trans ⟨fun hno hapart => ?_, fun hno v w hmem hapart => ?_⟩
      · cases hapart with
        | kind h => exact h rfl
        | item hmem h => exact hno _ _ hmem h
      · exact hno (.item hmem hapart)
    | _ => cases h
  | obj ms ih =>
    cases w with
    | obj ns =>
      obtain ⟨hms, hvs⟩ := wf_obj.mp hv
      obtain ⟨hns, hws⟩ := wf_obj.mp hw
      have hkeys := keys_iff_of_pyEq hms h
      -- members of one name are `==`, so the induction hypothesis is about them
      have hmember : ∀ {name v w}, (name, v) ∈ ms → (name, w) ∈ ns →
          (sameData v.rejoin w.rejoin = true ↔ ¬ ReadApart v w) := by
        intro name v w hvm hwm
        obtain ⟨w', hlookup, hsame⟩ := (same_obj.mp h).2 _ hvm
        cases hlookup.symm.trans ((Dict.lookup_eq_some_iff hns).mpr hwm)
        exact ih _ hvm (hvs _ hvm) (hws _ hwm) hsame
      rw [rejoin_obj, rejoin_obj, sameData, same_obj]
      constructor
      · rintro ⟨-, hall⟩ hapart
        have hread : ∀ {k p q}, lastJoined k ms = some p → lastJoined k ns = some q →
            sameData p.2.rejoin q.2.rejoin = true := by
          intro k p q hp hq
          obtain ⟨w, hlookup, hsame⟩ := hall (k, p.2.rejoin) (mem_rejoinObj_iff.mpr ⟨p, hp, rfl⟩)
          rw [lookup_rejoinObj, hq] at hlookup
          cases hlookup
          exact hsame
        cases hapart with
        | kind h => exact h rfl
        | member hleft hright hapart =>
          exact (hmember (lastJoined_eq_some hleft).1 (lastJoined_eq_some hright).1).mp
            (hread hleft hright) hapart
        | name hleft hright _ hdiffer =>
          cases hdiffer.symm.trans (hread hleft hright)
      · intro hno
        refine ⟨length_rejoinObj hkeys, ?_⟩
        rintro ⟨k, u⟩ hmem
        obtain ⟨p, hp, rfl⟩ := mem_rejoinObj_iff.mp hmem
        obtain ⟨hpm, rfl⟩ := lastJoined_eq_some hp
        obtain ⟨r, hr, hname⟩ := List.mem_map.mp ((hkeys p.1).mp (List.mem_map_of_mem hpm))
        obtain ⟨q, hq⟩ := Option.isSome_iff_exists.mp (hname ▸ lastJoined_isSome hr)
        refine ⟨q.2.rejoin, by rw [lookup_rejoinObj, hq, Option.map_some], ?_⟩
        by_cases hsame : p.1 = q.1
        · obtain ⟨name, v⟩ := p
          obtain ⟨name', w⟩ := q
          obtain rfl : name = name' := hsame
          exact (hmember hpm (lastJoined_eq_some hq).1).mpr fun hapart =>
            hno (.member hp hq hapart)
        · by_contra hdiffer
          exact hno (.name hp hq hsame (Bool.eq_false_iff.mpr hdiffer))
    | _ => cases h
  | _ => exact sameData_rejoin_leaf (fun _ h => nomatch h) (fun _ h => nomatch h) h

end Json

end Axg.Python
