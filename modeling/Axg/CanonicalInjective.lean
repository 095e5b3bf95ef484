/-
# The canonical text is a normal form

Two values have one canonical text exactly when they are the same JSON data once every number
is a double.  The documents are compared as trees: numbers by the value their digits denote
(`floatTok_eq_iff`), integers as the doubles they convert to (`integerTok_eq`), and objects as
sorted lists of members, which are equal exactly when the members are.
-/
import Axg.Canonical

namespace Axg

open Python

/-! ## 1. Numbers -/

/-- The digits of a float denote its magnitude. -/
theorem floatTok_decimal (neg : Bool) (m : Mag) :
    roundDecimal (floatTok (.finite neg m)).decimal = some m := by
  simp only [floatTok]
  split
  · rename_i h
    have hm : m = Mag.zero := Mag.units_injective (h.trans rfl)
    rw [intTok_decimal, hm, roundDecimal_nat]
    exact magOfNat_of_units (by simp [Mag.zero, Mag.units])
  · rw [esLayout_decimal, roundDecimal_reprDecimal]

/-- Only a negative number has a sign: a negative zero has none. -/
theorem floatTok_neg (neg : Bool) (m : Mag) :
    (floatTok (.finite neg m)).neg = (neg && decide (m.units ≠ 0)) := by
  simp only [floatTok]
  split
  · rename_i h; simp [h, intTok]
  · rename_i h; simp [h, esLayout_neg]

/-- Two finite floats are written alike exactly when they are worth the same. -/
theorem floatTok_eq_iff (a b : Bool) (m n : Mag) :
    floatTok (.finite a m) = floatTok (.finite b n) ↔
      Json.sameNumber (.float (.finite a m)) (.float (.finite b n)) = true := by
  have hworth : Json.sameNumber (.float (.finite a m)) (.float (.finite b n)) = true ↔
      (if a then -(m.units : Int) else m.units) = if b then -(n.units : Int) else n.units := by
    simp [Json.sameNumber, Json.worth]
  rw [hworth]
  constructor
  · intro h
    have hd := floatTok_decimal a m
    rw [h, floatTok_decimal b n] at hd
    cases hd
    have hneg := floatTok_neg a m
    rw [h, floatTok_neg b m] at hneg
    -- zero is the one number that is written without its sign
    by_cases hz : m.units = 0
    · simp [hz]
    · simp only [hz, ne_eq, not_false_eq_true, decide_true, Bool.and_true] at hneg
      rw [hneg]
  · intro h
    have hu : m.units = n.units := by split at h <;> split at h <;> omega
    have hmn : m = n := Mag.units_injective hu
    subst hmn
    simp only [floatTok]
    split
    · rfl
    · rename_i hz
      have hab : a = b := by
        cases a <;> cases b <;> simp only [Bool.false_eq_true, ↓reduceIte] at h <;>
          first | rfl | omega
      rw [hab]

/-- An integer that a double holds is written like that double. -/
theorem integerTok_eq {i : Int} {x : F64} (h : floatOfInt i = some x) :
    integerTok i = floatTok x := by
  unfold integerTok
  split
  · rename_i hi
    obtain ⟨m, hm, hx⟩ := floatOfInt_isSome_of_safe hi
    rw [h] at hx
    cases hx
    have hlt : i.natAbs < 2 ^ 53 := by unfold maxSafeInteger at hi; omega
    rcases Nat.eq_zero_or_pos i.natAbs with h0 | h0
    · have hzero : m.units = 0 := by rw [hm, h0, Nat.zero_mul]
      have : i = 0 := by omega
      simp only [floatTok, hzero, ↓reduceIte, this]
    · obtain ⟨c, t, hc, ht⟩ := exists_coeff_zeros (n := i.natAbs) (by omega)
      have hunits : ¬ m.units = 0 := by
        rw [hm]
        exact Nat.mul_ne_zero (by omega) (Nat.pos_iff_ne_zero.mp one_pos)
      have hrepr : reprDecimal m = ⟨c, t⟩ := reprDecimal_natural hc (ht ▸ hlt) (ht ▸ hm)
      have hc0 : c ≠ 0 := by omega
      have hdigits : decDigits i.natAbs = decDigits c ++ List.replicate t 0 := by
        rw [ht, decDigits_mul_pow hc0]
      have hlen : (decDigits c).length + t ≤ 16 := by
        have := decDigits_length_le (n := i.natAbs) (k := 16) (by omega) (by decide)
        rwa [hdigits, List.length_append, List.length_replicate] at this
      have hwhole : ((decDigits c).length : Int) ≤ t + (decDigits c).length ∧
          (t : Int) + (decDigits c).length ≤ 21 := by omega
      have ht' : ((t : Int) + (decDigits c).length - (decDigits c).length).toNat = t := by omega
      simp only [floatTok, hunits, ↓reduceIte, hrepr, esLayout, hwhole, and_self, ht', wholeTok,
        intTok, hdigits]
  · rw [h]; rfl

/-! ## 2. Trees -/

/-- Members with distinct keys, sorted: the sorted list determines the members. -/
theorem sortedMembers_perm {α : Type} {ms ns : List (Str × α)}
    (h : sortedBy sortKey ms = sortedBy sortKey ns) : ms.Perm ns :=
  (sortedBy_perm sortKey ms).symm.trans (h ▸ sortedBy_perm sortKey ns)

/-- And the members determine the sorted list. -/
theorem sortedMembers_eq {α : Type} {ms ns : List (Str × α)} (h : ms.Perm ns)
    (hk : (Dict.keys ms).Nodup) (hs : ∀ p ∈ ms, IsScalar p.1) :
    sortedBy sortKey ms = sortedBy sortKey ns := by
  refine sortedBy_eq_of_perm h (fun p hp q hq he => ?_)
  have hkey : p.1 = q.1 := flatMap_utf16be_injective (hs p hp) (hs q hq) he
  exact List.inj_on_of_nodup_map hk hp hq hkey

/-- A canonical number is a finite double, and is written as one. -/
theorem canonDoc_int {i : Int} (h : isCanonical (.int i) = true) :
    ∃ a m, (Json.int i).toBinary64 = .float (.finite a m) ∧
      canonDoc (.int i) = .num (floatTok (.finite a m)) := by
  obtain ⟨x, hx⟩ := Option.isSome_iff_exists.mp h
  have hfin : ∃ m, x = .finite (i < 0) m := by
    unfold floatOfInt at hx
    obtain ⟨m, -, hm⟩ := Option.map_eq_some_iff.mp hx
    exact ⟨m, hm.symm⟩
  obtain ⟨m, rfl⟩ := hfin
  exact ⟨_, m, by rw [Json.toBinary64, hx]; rfl, by rw [canonDoc, integerTok_eq hx]⟩

theorem canonDoc_float {x : F64} (h : isCanonical (.float x) = true) :
    ∃ a m, (Json.float x).toBinary64 = .float (.finite a m) ∧
      canonDoc (.float x) = .num (floatTok (.finite a m)) := by
  cases x with
  | nan => cases h
  | inf neg => cases h
  | finite a m => exact ⟨a, m, rfl, rfl⟩

/-- A number against any value. -/
theorem canonDoc_number_iff {v w : Json} {a : Bool} {m : Mag}
    (hv : v.toBinary64 = .float (.finite a m)) (hd : canonDoc v = .num (floatTok (.finite a m)))
    (hw : isCanonical w = true) :
    canonDoc v = canonDoc w ↔ Json.sameData v.toBinary64 w.toBinary64 = true := by
  have hnum : ∀ {u : Json} {b : Bool} {n : Mag}, u.toBinary64 = .float (.finite b n) →
      canonDoc u = .num (floatTok (.finite b n)) →
      (canonDoc v = canonDoc u ↔ Json.sameData v.toBinary64 u.toBinary64 = true) := by
    intro u b n hu hud
    rw [hd, hud, hv, hu, Doc.num.injEq, floatTok_eq_iff]
    rfl
  cases w with
  | int i =>
    obtain ⟨b, n, hu, hud⟩ := canonDoc_int hw
    exact hnum hu hud
  | float x =>
    obtain ⟨b, n, hu, hud⟩ := canonDoc_float hw
    exact hnum hu hud
  | null => simp [hd, hv, canonDoc, Json.toBinary64, Json.sameData, Json.same, Json.dataLeaf,
      Json.sameNumber, Json.worth]
  | bool b => simp [hd, hv, canonDoc, Json.toBinary64, Json.sameData, Json.same, Json.dataLeaf,
      Json.sameNumber, Json.worth]
  | str s => simp [hd, hv, canonDoc, Json.toBinary64, Json.sameData, Json.same, Json.dataLeaf,
      Json.sameNumber, Json.worth]
  | arr xs => simp [hd, hv, canonDoc, Json.toBinary64, Json.sameData, Json.same, Json.dataLeaf,
      Json.sameNumber, Json.worth]
  | obj ms => simp [hd, hv, canonDoc, Json.toBinary64, Json.sameData, Json.same, Json.dataLeaf,
      Json.sameNumber, Json.worth]

/-- Lists item by item, given the items. -/
theorem canonDoc_items_iff {xs ys : List Json}
    (ih : ∀ v ∈ xs, ∀ w ∈ ys,
      (canonDoc v = canonDoc w ↔ Json.sameData v.toBinary64 w.toBinary64 = true)) :
    xs.map canonDoc = ys.map canonDoc ↔
      List.Forall₂ (fun v w => Json.sameData v w = true)
        (xs.map Json.toBinary64) (ys.map Json.toBinary64) := by
  induction xs generalizing ys with
  | nil => cases ys <;> simp
  | cons v vs ihs =>
    cases ys with
    | nil => simp
    | cons w ws =>
      have htail := @ihs ws (fun v' hv' w' hw' => ih v' (by simp [hv']) w' (by simp [hw']))
      simp only [List.map_cons, List.cons.injEq, List.forall₂_cons]
      rw [ih v (by simp) w (by simp), htail]

/-- Objects by their members, given the values of the members. -/
theorem canonDoc_members_iff {ms ns : List (Str × Json)}
    (hm : (Dict.keys ms).Nodup) (hn : (Dict.keys ns).Nodup) (hs : ∀ p ∈ ms, IsScalar p.1)
    (ih : ∀ p ∈ ms, ∀ q ∈ ns,
      (canonDoc p.2 = canonDoc q.2 ↔ Json.sameData p.2.toBinary64 q.2.toBinary64 = true)) :
    sortedBy sortKey (memberDocs ms) = sortedBy sortKey (memberDocs ns) ↔
      ms.length = ns.length ∧ ∀ p ∈ ms, ∃ w, ns.lookup p.1 = some w ∧
        Json.sameData p.2.toBinary64 w.toBinary64 = true := by
  rw [memberDocs_eq_map, memberDocs_eq_map]
  constructor
  · intro h
    have hp := sortedMembers_perm h
    refine ⟨by simpa using hp.length_eq, fun p hp' => ?_⟩
    have hmem := hp.mem_iff.mp (List.mem_map_of_mem hp')
    obtain ⟨q, hq, hqp⟩ := List.mem_map.mp hmem
    obtain ⟨hk, hd⟩ := Prod.mk.injEq .. ▸ hqp
    refine ⟨q.2, (Dict.lookup_eq_some_iff hn).mpr (hk ▸ hq), (ih p hp' q hq).mp hd.symm⟩
  · rintro ⟨hlen, hall⟩
    have hsub : ms.map (fun p => (p.1, canonDoc p.2)) ⊆ ns.map (fun p => (p.1, canonDoc p.2)) := by
      intro r hr
      obtain ⟨p, hp, rfl⟩ := List.mem_map.mp hr
      obtain ⟨w, hw, hsame⟩ := hall p hp
      have hq := Dict.lookup_mem hw
      exact List.mem_map.mpr ⟨_, hq, by rw [(ih p hp _ hq).mpr hsame]⟩
    have hm' : (Dict.keys (ms.map (fun p => (p.1, canonDoc p.2)))).Nodup :=
      Dict.keys_map canonDoc ms ▸ hm
    have hnodup : (ms.map (fun p => (p.1, canonDoc p.2))).Nodup := List.Nodup.of_map Prod.fst hm'
    refine sortedMembers_eq ((hnodup.subperm hsub).perm_of_length_le (by simp [hlen]))
      hm' (fun r hr => ?_)
    obtain ⟨p, hp, rfl⟩ := List.mem_map.mp hr
    exact hs p hp

/-- Two values have one canonical document exactly when they are the same data, read as
doubles. -/
theorem canonDoc_eq_iff {v w : Json} (hv : v.Wf) (hw : w.Wf) (hcv : isCanonical v = true)
    (hcw : isCanonical w = true) :
    canonDoc v = canonDoc w ↔ Json.sameData v.toBinary64 w.toBinary64 = true := by
  induction v using Json.inductValue generalizing w with
  | int i =>
    obtain ⟨a, m, hu, hd⟩ := canonDoc_int hcv
    exact canonDoc_number_iff hu hd hcw
  | float x =>
    obtain ⟨a, m, hu, hd⟩ := canonDoc_float hcv
    exact canonDoc_number_iff hu hd hcw
  | null => cases w <;> simp [canonDoc, Json.toBinary64, Json.sameData, Json.same, Json.dataLeaf,
      Json.sameNumber, Json.worth]
  | bool b => cases w <;> simp [canonDoc, Json.toBinary64, Json.sameData, Json.same,
      Json.dataLeaf, Json.sameNumber, Json.worth]
  | str s => cases w <;> simp [canonDoc, Json.toBinary64, Json.sameData, Json.same,
      Json.dataLeaf, Json.sameNumber, Json.worth]
  | arr xs ih =>
    cases w with
    | arr ys =>
      rw [Json.wf_arr] at hv hw
      rw [isCanonical, Json.every_arr] at hcv hcw
      rw [canonDoc, canonDoc, Doc.arr.injEq, itemDocs_eq_map, itemDocs_eq_map,
        canonDoc_items_iff (fun v h w h' => ih v h (hv v h) (hw w h') (hcv v h) (hcw w h')),
        Json.toBinary64, Json.toBinary64, Json.itemsToBinary64_eq_map,
        Json.itemsToBinary64_eq_map]
      exact Json.same_arr.symm
    | _ => simp [canonDoc, Json.toBinary64, Json.sameData, Json.same]
  | obj ms ih =>
    cases w with
    | obj ns =>
      rw [Json.wf_obj] at hv hw
      rw [isCanonical, Json.every_obj, decide_eq_true_iff] at hcv hcw
      rw [canonDoc, canonDoc, Doc.obj.injEq,
        canonDoc_members_iff hv.1 hw.1 (fun p hp => hcv.1 _ (List.mem_map_of_mem hp))
          (fun p hp q hq => ih p hp (hv.2 p hp) (hw.2 q hq) (hcv.2 p hp) (hcw.2 q hq)),
        Json.toBinary64, Json.toBinary64, Json.membersToBinary64_eq_map,
        Json.membersToBinary64_eq_map, Json.sameData, Json.same_obj, List.length_map,
        List.length_map]
      -- as many members, and each member of one found in the other: the order does not matter
      refine and_congr Iff.rfl ?_
      simp only [List.forall_mem_map, Dict.lookup_map, Option.map_eq_some_iff,
        exists_exists_and_eq_and, Json.sameData]
    | _ => simp [canonDoc, Json.toBinary64, Json.sameData, Json.same]

/-- What equals a finite double is a number with a finite double. -/
theorem isCanonical_of_sameNumber {w : Json} {a : Bool} {m : Mag}
    (h : Json.sameData (.float (.finite a m)) w.toBinary64 = true) : isCanonical w = true := by
  cases w with
  | int i =>
    cases hx : floatOfInt i with
    | none =>
      rw [Json.toBinary64, hx] at h
      simp [Json.sameData, Json.same, Json.dataLeaf, Json.sameNumber, Json.worth] at h
    | some x => simp [isCanonical, Json.every, hx]
  | float x =>
    cases x with
    | finite b n => rfl
    | inf neg =>
      simp [Json.toBinary64, Json.sameData, Json.same, Json.dataLeaf, Json.sameNumber,
        Json.worth] at h
    | nan =>
      simp [Json.toBinary64, Json.sameData, Json.same, Json.dataLeaf, Json.sameNumber,
        Json.worth] at h
  | _ =>
    simp [Json.toBinary64, Json.sameData, Json.same, Json.dataLeaf, Json.sameNumber,
      Json.worth] at h

/-- Objects with as many members, in which every key of one is a key of the other, have the same
keys. -/
theorem keys_subset_of_same {ms ns : Dict Json} (hm : ms.keys.Nodup) (hlen : ms.length = ns.length)
    (hall : ∀ p ∈ ms, ∃ w, ns.lookup p.1 = some w) : ns.keys ⊆ ms.keys := by
  have hsub : ms.keys ⊆ ns.keys := by
    intro k hk
    obtain ⟨p, hp, rfl⟩ := List.mem_map.mp hk
    obtain ⟨w, hw⟩ := hall p hp
    exact List.mem_map.mpr ⟨_, Dict.lookup_mem hw, rfl⟩
  have hperm := (hm.subperm hsub).perm_of_length_le (by simp [Dict.keys, hlen])
  exact hperm.symm.subset

theorem exists_of_forall₂ {α β : Type} {R : α → β → Prop} {xs : List α} {ys : List β}
    (h : List.Forall₂ R xs ys) {y : β} (hy : y ∈ ys) : ∃ x ∈ xs, R x y := by
  induction h with
  | nil => cases hy
  | @cons a b xs ys hab _ ih =>
    rcases List.mem_cons.mp hy with rfl | hy
    · exact ⟨a, List.mem_cons_self, hab⟩
    · obtain ⟨x, hx, hxy⟩ := ih hy
      exact ⟨x, List.mem_cons_of_mem a hx, hxy⟩

/-- The same data is canonical alike. -/
theorem isCanonical_of_sameData {v w : Json} (hv : v.Wf) (hw : w.Wf) (hcv : isCanonical v = true)
    (h : Json.sameData v.toBinary64 w.toBinary64 = true) : isCanonical w = true := by
  induction v using Json.inductValue generalizing w with
  | int i =>
    obtain ⟨a, m, hu, -⟩ := canonDoc_int hcv
    exact isCanonical_of_sameNumber (hu ▸ h)
  | float x =>
    obtain ⟨a, m, hu, -⟩ := canonDoc_float hcv
    exact isCanonical_of_sameNumber (hu ▸ h)
  | arr xs ih =>
    cases w with
    | arr ys =>
      rw [Json.wf_arr] at hv hw
      rw [isCanonical, Json.every_arr] at hcv
      rw [isCanonical, Json.every_arr]
      rw [Json.toBinary64, Json.toBinary64, Json.itemsToBinary64_eq_map,
        Json.itemsToBinary64_eq_map, Json.sameData, Json.same_arr, List.forall₂_map_left_iff,
        List.forall₂_map_right_iff] at h
      intro w hmem
      obtain ⟨v, hvmem, hsame⟩ := exists_of_forall₂ h hmem
      exact ih v hvmem (hv v hvmem) (hw w hmem) (hcv v hvmem) hsame
    | _ => simp [Json.toBinary64, Json.sameData, Json.same] at h
  | obj ms ih =>
    cases w with
    | obj ns =>
      rw [Json.wf_obj] at hv hw
      rw [isCanonical, Json.every_obj, decide_eq_true_iff] at hcv
      rw [isCanonical, Json.every_obj, decide_eq_true_iff]
      rw [Json.toBinary64, Json.toBinary64, Json.membersToBinary64_eq_map,
        Json.membersToBinary64_eq_map, Json.sameData, Json.same_obj, List.length_map,
        List.length_map] at h
      simp only [List.forall_mem_map, Dict.lookup_map, Option.map_eq_some_iff,
        exists_exists_and_eq_and] at h
      obtain ⟨hlen, hall⟩ := h
      have hkeys := keys_subset_of_same hv.1 hlen
        (fun p hp => (hall p hp).imp (fun w hw => hw.1))
      refine ⟨fun k hk => hcv.1 k (hkeys hk), fun q hq => ?_⟩
      obtain ⟨p, hp, hpq⟩ := List.mem_map.mp (hkeys (List.mem_map_of_mem hq))
      obtain ⟨w, hlookup, hsame⟩ := hall p hp
      rw [hpq, (Dict.lookup_eq_some_iff hw.1).mpr hq] at hlookup
      cases hlookup
      exact ih p hp (hv.2 p hp) (hw.2 q hq) (hcv.2 p hp) hsame
    | _ => simp [Json.toBinary64, Json.sameData, Json.same] at h
  | _ =>
    cases w <;> first | rfl | simp [Json.toBinary64, Json.sameData, Json.same, Json.dataLeaf,
      Json.sameNumber, Json.worth] at h

/-- The same data has the same canonical text. -/
theorem canonicalJson_of_sameData {v w : Json} (hv : v.Wf) (hw : w.Wf) {s : Str}
    (hs : canonicalJson v = .ok s) (h : Json.sameData v.toBinary64 w.toBinary64 = true) :
    canonicalJson w = .ok s := by
  have hcv := isCanonical_of_eq_ok hs
  have hcw := isCanonical_of_sameData hv hw hcv h
  rw [canonicalJson_eq_render hcv] at hs
  rw [canonicalJson_eq_render hcw, ← (canonDoc_eq_iff hv hw hcv hcw).mpr h, hs]

/-! ## 3. JSON data -/

/-- Values built from null, booleans, Unicode strings without lone surrogates, integers that
convert to finite doubles, finite doubles, lists and string-keyed objects. -/
structure JsonData where
  value : Json
  wf : value.Wf
  isText : value.isText = true
  hasDoubles : value.hasDoubles = true

theorem JsonData.isCanonical (v : JsonData) : isCanonical v.value = true := by
  refine Json.every_of_and (fun u ht hd => ?_) (fun _ hk _ => hk) v.isText v.hasDoubles
  cases u with
  | int i => exact hd
  | float x =>
    cases x with
    | nan => cases ht
    | inf neg => cases ht
    | finite neg m => rfl
  | _ => rfl

/-- `canonical_json` is defined on JSON data, and two values have one text exactly when they are
equal as trees, every number read as a double and the order of members ignored.  The text is
scanned back to its document, so no two documents share one; what the documents forget of the
values is the kind of a number and the order of members. -/
theorem canonicalJson_eq_iff (v w : JsonData) :
    ∃ s t, canonicalJson v.value = .ok s ∧ canonicalJson w.value = .ok t ∧
      (s = t ↔ Json.sameData v.value.toBinary64 w.value.toBinary64 = true) := by
  have hv := canonicalJson_eq_render v.isCanonical
  have hw := canonicalJson_eq_render w.isCanonical
  refine ⟨_, _, hv, hw, ?_⟩
  rw [← canonDoc_eq_iff v.wf w.wf v.isCanonical w.isCanonical]
  constructor
  · intro h
    exact canonDoc_eq_of_canonicalJson hv (h ▸ hw)
  · intro h
    rw [h]

end Axg
