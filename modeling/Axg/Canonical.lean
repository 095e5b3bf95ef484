/-
# Canonical JSON (`axg/canonical.py`)

`canonicalJson` writes a value the way RFC 8785 does, and the payload hash, the approval
ticket and the audit chain are hashes of what it writes.  The definitions of section 1 follow
the source, text by text and error by error.

For the proofs the same text is taken apart again: `canonDoc` is the document that the writer
spells, and `canonicalJson_eq_render` says that the writer's text is that document set without
spaces.  A text determines its document (`render_injective`), so two values with one canonical
text have one canonical document, and what is left is to compare trees (`canonDoc_eq_iff`).
-/
import Axg.Python.NumberLayout
import Axg.Sha256

namespace Axg

open Python

/-! ## 1. The writer -/

/-- `_MAX_SAFE_INTEGER` -/
def maxSafeInteger : Nat := 2 ^ 53 - 1

/-- The digits of a positive number, with the decimal point where `exponent` puts it. -/
def esBody (digits : Str) (exponent : Int) : Str :=
  let k : Int := digits.length
  let n := exponent + k
  if k ≤ n ∧ n ≤ 21 then digits ++ List.replicate (n - k).toNat 0x30
  else if 0 < n ∧ n ≤ 21 then digits.take n.toNat ++ 0x2E :: digits.drop n.toNat
  else if -6 < n ∧ n ≤ 0 then 0x30 :: 0x2E :: (List.replicate (-n).toNat 0x30 ++ digits)
  else
    let e := n - 1
    let mantissa := if k = 1 then digits else digits.take 1 ++ 0x2E :: digits.drop 1
    mantissa ++ 0x65 :: (if 0 ≤ e then 0x2B else 0x2D) :: strNat e.natAbs

/-- `_es_number`.  `reprDecimal` is `Decimal(repr(abs(value))).normalize()`. -/
def esNumber : F64 → Except PyError Str
  | .nan => .error .valueError
  | .inf _ => .error .valueError
  | .finite neg m =>
    if m.units = 0 then .ok [0x30]
    else .ok ((if neg then [0x2D] else []) ++
      esBody (digitsText (decDigits (reprDecimal m).coeff)) (reprDecimal m).exp)

/-- `_es_number(float(value))`, for an integer that a double may not hold. -/
def esInteger (x : Option F64) : Except PyError Str :=
  match x with
  | some x => esNumber x
  | none => .error .overflowError

/-- `sorted(..., key=lambda item: item[0].encode("utf-16-be"))` -/
def sortItems {α : Type} (ms : List (Str × α)) : Except PyError (List (Str × α)) := do
  let keyed ← ms.mapM (fun p => do return (← encodeUtf16be p.1, p))
  return (sortedBy Prod.fst keyed).map Prod.snd

/-- One member: the key, a colon, and the text of the value. -/
def memberText (p : Str × Except PyError Str) : Except PyError Str := do
  return quote p.1 ++ 0x3A :: (← p.2)

mutual

/-- `canonical_json` -/
def canonicalJson : Json → Except PyError Str
  | .null => .ok (lit "null")
  | .bool true => .ok (lit "true")
  | .bool false => .ok (lit "false")
  | .str s => .ok (quote s)
  | .int i => if i.natAbs ≤ maxSafeInteger then .ok (strInt i) else esInteger (floatOfInt i)
  | .float x => esNumber x
  | .obj ms => do
    let items ← sortItems (memberTexts ms)
    let parts ← items.mapM memberText
    return 0x7B :: ([0x2C].intercalate parts ++ [0x7D])
  | .arr xs => do
    let parts ← (itemTexts xs).mapM id
    return 0x5B :: ([0x2C].intercalate parts ++ [0x5D])

def itemTexts : List Json → List (Except PyError Str)
  | [] => []
  | v :: vs => canonicalJson v :: itemTexts vs

def memberTexts : List (Str × Json) → List (Str × Except PyError Str)
  | [] => []
  | (k, v) :: ms => (k, canonicalJson v) :: memberTexts ms

end

/-- `canonical_hash` -/
def canonicalHash (sha : Sha256) (v : Json) : Except PyError Str := do
  return sha.hexdigest (← encodeUtf8 (← canonicalJson v))

/-- No two canonical encodings have one hash. -/
def CollisionFree (sha : Sha256) : Prop :=
  ∀ ⦃v w : Json⦄ ⦃s t : Str⦄, canonicalJson v = .ok s → canonicalJson w = .ok t →
    sha.hexdigest s = sha.hexdigest t → s = t

theorem CollisionFree.of_injective {sha : Sha256} (h : Function.Injective sha.hexdigest) :
    CollisionFree sha := fun _ _ _ _ _ _ he => h he

theorem itemTexts_eq_map (xs : List Json) : itemTexts xs = xs.map canonicalJson := by
  induction xs with
  | nil => rfl
  | cons v vs ih => rw [itemTexts, ih]; rfl

theorem memberTexts_eq_map (ms : List (Str × Json)) :
    memberTexts ms = ms.map (fun p => (p.1, canonicalJson p.2)) := by
  induction ms with
  | nil => rfl
  | cons p ms ih => obtain ⟨k, v⟩ := p; rw [memberTexts, ih]; rfl

/-! ## 2. The document that is written -/

/-- The four layouts of `_es_number`. -/
def esLayout (neg : Bool) (d : Decimal) : NumTok :=
  let digits := decDigits d.coeff
  let k : Int := digits.length
  let n := d.exp + k
  if k ≤ n ∧ n ≤ 21 then wholeTok neg digits (n - k).toNat
  else if 0 < n ∧ n ≤ 21 then pointTok neg digits n.toNat
  else if -6 < n ∧ n ≤ 0 then fracTok neg (-n).toNat digits
  else sciTok neg digits (n - 1) 1

/-- The number that stands for a float; one that is not finite has none. -/
def floatTok : F64 → NumTok
  | .finite neg m => if m.units = 0 then intTok 0 else esLayout neg (reprDecimal m)
  | _ => intTok 0

/-- The number that stands for an integer. -/
def integerTok (i : Int) : NumTok :=
  if i.natAbs ≤ maxSafeInteger then intTok i else floatTok ((floatOfInt i).getD .nan)

/-- The key that members are sorted by. -/
def sortKey {α : Type} (p : Str × α) : List Nat := p.1.flatMap utf16beBytes

theorem sortedBy_members {α β : Type} (f : α → β) (ms : List (Str × α)) :
    sortedBy sortKey (ms.map (fun p => (p.1, f p.2)))
      = (sortedBy sortKey ms).map (fun p => (p.1, f p.2)) := sortedBy_map (fun _ => rfl) ms

mutual

/-- The document whose text `canonicalJson` writes. -/
def canonDoc : Json → Doc
  | .null => .null
  | .bool b => .bool b
  | .int i => .num (integerTok i)
  | .float x => .num (floatTok x)
  | .str s => .str s
  | .arr xs => .arr (itemDocs xs)
  | .obj ms => .obj (sortedBy sortKey (memberDocs ms))

def itemDocs : List Json → List Doc
  | [] => []
  | v :: vs => canonDoc v :: itemDocs vs

def memberDocs : List (Str × Json) → List (Str × Doc)
  | [] => []
  | (k, v) :: ms => (k, canonDoc v) :: memberDocs ms

end

theorem itemDocs_eq_map (xs : List Json) : itemDocs xs = xs.map canonDoc := by
  induction xs with
  | nil => rfl
  | cons v vs ih => rw [itemDocs, ih]; rfl

theorem memberDocs_eq_map (ms : List (Str × Json)) :
    memberDocs ms = ms.map (fun p => (p.1, canonDoc p.2)) := by
  induction ms with
  | nil => rfl
  | cons p ms ih => obtain ⟨k, v⟩ := p; rw [memberDocs, ih]; rfl

theorem esLayout_ok {d : Decimal} (hc : d.coeff ≠ 0) (neg : Bool) : (esLayout neg d).Ok := by
  simp only [esLayout]
  split
  · exact wholeTok_ok hc neg _
  · split
    · exact pointTok_ok hc neg (by omega)
    · split
      · exact fracTok_ok neg d.coeff _
      · exact sciTok_ok hc neg _ 1

/-- The layout denotes the number it was made from. -/
theorem esLayout_decimal (neg : Bool) (d : Decimal) :
    roundDecimal (esLayout neg d).decimal = roundDecimal d := by
  obtain ⟨c, e⟩ := d
  have hk := decDigits_length_pos c
  simp only [esLayout]
  split
  · rw [wholeTok_decimal]
    congr 2; omega
  · split
    · rw [pointTok_decimal]
      congr 2; omega
    · split
      · rw [fracTok_decimal]
        congr 2; omega
      · rw [sciTok_decimal]
        congr 2; omega

theorem esLayout_neg (neg : Bool) (d : Decimal) : (esLayout neg d).neg = neg := by
  simp only [esLayout]
  split
  · rfl
  · split
    · rfl
    · split <;> rfl

/-- No layout has more than twenty-one digits in front of the point. -/
theorem esLayout_int_length (neg : Bool) (d : Decimal) : (esLayout neg d).int.length ≤ 21 := by
  have hk := decDigits_length_pos d.coeff
  simp only [esLayout]
  split
  · simp only [wholeTok, List.length_append, List.length_replicate]; omega
  · split
    · simp only [pointTok, List.length_take]; omega
    · split
      · simp [fracTok]
      · simp only [sciTok, List.length_take]; omega

theorem coeff_ne_zero_of_units {m : Mag} (h : m.units ≠ 0) : (reprDecimal m).coeff ≠ 0 :=
  reprDecimal_coeff_ne_zero (fun e => h (by rw [e]; rfl))

theorem floatTok_ok (x : F64) : (floatTok x).Ok ∧ (floatTok x).int.length ≤ 4300 := by
  have hzero : (intTok 0).int.length ≤ 4300 := by decide
  cases x with
  | nan => exact ⟨intTok_ok 0, hzero⟩
  | inf neg => exact ⟨intTok_ok 0, hzero⟩
  | finite neg m =>
    simp only [floatTok]
    split
    · exact ⟨intTok_ok 0, hzero⟩
    · rename_i h
      exact ⟨esLayout_ok (coeff_ne_zero_of_units h) neg,
        (esLayout_int_length neg _).trans (by decide)⟩

theorem integerTok_ok (i : Int) : (integerTok i).Ok ∧ (integerTok i).int.length ≤ 4300 := by
  unfold integerTok
  split
  · rename_i h
    refine ⟨intTok_ok i, ?_⟩
    have hlt : i.natAbs < 10 ^ 16 := by unfold maxSafeInteger at h; omega
    exact (decDigits_length_le hlt (by decide)).trans (by decide)
  · exact floatTok_ok _

/-- The writer's document is one that the scanner reads back. -/
theorem canonDoc_ok (v : Json) : (canonDoc v).Ok := by
  induction v using Json.inductValue with
  | null => trivial
  | bool b => trivial
  | int i => exact integerTok_ok i
  | float x => exact floatTok_ok x
  | str s => trivial
  | arr xs ih =>
    rw [canonDoc, itemDocs_eq_map, Doc.Ok, Doc.okItems_iff]
    intro d hd
    obtain ⟨v, hv, rfl⟩ := List.mem_map.mp hd
    exact ih v hv
  | obj ms ih =>
    rw [canonDoc, memberDocs_eq_map, Doc.Ok, Doc.okMembers_iff]
    intro p hp
    obtain ⟨q, hq, rfl⟩ := List.mem_map.mp (mem_sortedBy.mp hp)
    exact ih q hq

/-! ## 3. The text of the document -/

theorem digitsText_replicate (n : Nat) :
    digitsText (List.replicate n 0) = List.replicate n 0x30 := by
  rw [digitsText, List.map_replicate]; rfl

theorem fracText_cons {ds : List Nat} (h : ds ≠ []) :
    NumTok.fracText ds = 0x2E :: digitsText ds := by
  cases ds with
  | nil => exact absurd rfl h
  | cons d ds => rfl

theorem expSign (e : Int) :
    (if decide (e < 0) = true then (0x2D : CodePoint) else 0x2B)
      = if 0 ≤ e then 0x2B else 0x2D := by
  by_cases he : 0 ≤ e
  · rw [if_pos he, if_neg (by simpa using he)]
  · rw [if_neg he, if_pos (by simpa using he)]

/-- `_es_number` writes the layout it chose. -/
theorem esLayout_text (neg : Bool) (d : Decimal) :
    (esLayout neg d).text
      = (if neg then [0x2D] else []) ++ esBody (digitsText (decDigits d.coeff)) d.exp := by
  have hk := decDigits_length_pos d.coeff
  simp only [esLayout, esBody, digitsText_length]
  split
  · simp [wholeTok, NumTok.text, NumTok.fracText, NumTok.expText, digitsText_append,
      digitsText_replicate]
  · split
    · rename_i h1 h2
      have hne : (decDigits d.coeff).drop (d.exp + (decDigits d.coeff).length).toNat ≠ [] := by
        rw [ne_eq, List.drop_eq_nil_iff]; omega
      simp only [pointTok, NumTok.text, fracText_cons hne, NumTok.expText, List.append_nil]
      cases neg <;> simp [digitsText]
    · split
      · rename_i h1 h2 h3
        have hne : List.replicate (-(d.exp + (decDigits d.coeff).length)).toNat 0
            ++ decDigits d.coeff ≠ [] := by simp [decDigits_ne_nil]
        simp only [fracTok, NumTok.text, fracText_cons hne, NumTok.expText, List.append_nil,
          digitsText_append, digitsText_replicate]
        rfl
      · have hlen := decDigits_length_pos
          (d.exp + (decDigits d.coeff).length - 1).natAbs
        have hz : 1 - (decDigits (d.exp + (decDigits d.coeff).length - 1).natAbs).length = 0 := by
          omega
        simp only [sciTok, NumTok.text, NumTok.expText, hz, List.replicate_zero, List.nil_append,
          expSign, strNat]
        by_cases h1 : (decDigits d.coeff).length = 1
        · have ht : (decDigits d.coeff).take 1 = decDigits d.coeff :=
            List.take_of_length_le (by omega)
          have hd : (decDigits d.coeff).drop 1 = [] := List.drop_eq_nil_iff.mpr (by omega)
          simp [h1, ht, hd, NumTok.fracText]
        · have hne : (decDigits d.coeff).drop 1 ≠ [] := by
            rw [ne_eq, List.drop_eq_nil_iff]; omega
          have h1' : ¬ ((decDigits d.coeff).length : Int) = 1 := by omega
          rw [fracText_cons hne]
          simp [h1', digitsText]

theorem esNumber_finite (neg : Bool) (m : Mag) :
    esNumber (.finite neg m) = .ok (floatTok (.finite neg m)).text := by
  simp only [esNumber, floatTok]
  split
  · rfl
  · rw [esLayout_text]

/-- A joined list, its separators counted to the items after the first. -/
theorem intercalate_cons (x : Str) (xs : List Str) :
    [0x2C].intercalate (x :: xs) = x ++ xs.flatMap (fun y => 0x2C :: y) := by
  induction xs generalizing x with
  | nil => simp [List.intercalate]
  | cons y xs ih =>
    have := ih y
    simp only [List.intercalate, List.intersperse, List.flatten_cons] at this ⊢
    rw [this]
    simp

theorem renderItems_eq (ds : List Doc) :
    Doc.renderItems .plain [] ds = ds.flatMap (fun d => 0x2C :: d.render .plain []) ++ [0x5D] := by
  induction ds with
  | nil => rfl
  | cons d ds ih => simp [Doc.renderItems, ih]

theorem renderMembers_eq (ms : List (Str × Doc)) :
    Doc.renderMembers .plain [] ms
      = ms.flatMap (fun p => 0x2C :: (quote p.1 ++ 0x3A :: p.2.render .plain [])) ++ [0x7D] := by
  induction ms with
  | nil => rfl
  | cons p ms ih => obtain ⟨k, d⟩ := p; simp [Doc.renderMembers, Quoting.text_plain, ih]

theorem render_arr (ds : List Doc) :
    (Doc.arr ds).render .plain [] =
      0x5B :: ([0x2C].intercalate (ds.map (Doc.render .plain [])) ++ [0x5D]) := by
  cases ds with
  | nil => rfl
  | cons d ds =>
    rw [List.map_cons, intercalate_cons, Doc.render, renderItems_eq, List.flatMap_map,
      List.append_assoc]

theorem render_obj (ms : List (Str × Doc)) :
    (Doc.obj ms).render .plain []
      = 0x7B :: ([0x2C].intercalate (ms.map (fun p => quote p.1 ++ 0x3A :: p.2.render .plain []))
        ++ [0x7D]) := by
  rcases ms with _ | ⟨⟨k, d⟩, ms⟩
  · rfl
  · rw [List.map_cons, intercalate_cons, Doc.render, renderMembers_eq, List.flatMap_map]
    simp [Quoting.text_plain]

/-- What `canonical_json` takes: finite numbers, integers that have a double, and keys that
have a UTF-16 encoding. -/
def isCanonical : Json → Bool :=
  Json.every
    (fun
      | .int i => (floatOfInt i).isSome
      | .float (.finite _ _) => true
      | .float _ => false
      | _ => true)
    (fun ks => decide (∀ k ∈ ks, IsScalar k))

theorem sortItems_of_isScalar {α : Type} {ms : List (Str × α)} (h : ∀ p ∈ ms, IsScalar p.1) :
    sortItems ms = .ok (sortedBy sortKey ms) := by
  have hkeys : ms.mapM (fun p => do return (← encodeUtf16be p.1, p))
      = (.ok (ms.map (fun p => (sortKey p, p))) : Except PyError _) := by
    refine mapM_ok (fun p hp => ?_)
    rw [encodeUtf16be_of_isScalar (h p hp)]
    rfl
  have hsort : sortedBy Prod.fst (ms.map (fun p => (sortKey p, p)))
      = (sortedBy sortKey ms).map (fun p => (sortKey p, p)) := sortedBy_map (fun _ => rfl) ms
  unfold sortItems
  rw [hkeys]
  simp only [ok_bind, hsort, List.map_map]
  exact congrArg Except.ok (List.map_id _)

theorem isScalar_of_sortItems {α : Type} {ms ns : List (Str × α)} (h : sortItems ms = .ok ns) :
    (∀ p ∈ ms, IsScalar p.1) ∧ ns = sortedBy sortKey ms := by
  have hs : ∀ p ∈ ms, IsScalar p.1 := by
    intro p hp
    unfold sortItems at h
    obtain ⟨keyed, hm, -⟩ := bind_eq_ok h
    obtain ⟨b, -, hb⟩ := exists_of_mapM_eq_ok hm hp
    obtain ⟨bytes, he, -⟩ := bind_eq_ok hb
    exact (encodeUtf16be_eq_ok he).1
  rw [sortItems_of_isScalar hs] at h
  cases h
  exact ⟨hs, rfl⟩

theorem floatOfInt_isSome_of_safe {i : Int} (h : i.natAbs ≤ maxSafeInteger) :
    ∃ m : Mag, m.units = i.natAbs * one ∧ floatOfInt i = some (.finite (i < 0) m) := by
  obtain ⟨m, hm⟩ := exists_mag_of_lt (n := i.natAbs) (by unfold maxSafeInteger at h; omega)
  exact ⟨m, hm, by rw [floatOfInt, magOfNat_of_units hm]; rfl⟩

theorem esInteger_some {x : F64} {i : Int} (h : floatOfInt i = some x) :
    esInteger (some x) = .ok (floatTok x).text := by
  unfold floatOfInt at h
  cases hm : magOfNat i.natAbs with
  | none => rw [hm] at h; cases h
  | some m =>
    rw [hm] at h
    cases h
    exact esNumber_finite _ _

/-- The writer's text is its document, set without spaces. -/
theorem canonicalJson_eq_render {v : Json} (h : isCanonical v = true) :
    canonicalJson v = .ok ((canonDoc v).render .plain []) := by
  induction v using Json.inductValue with
  | null => rfl
  | bool b => cases b <;> rfl
  | str s => rfl
  | int i =>
    obtain ⟨x, hx⟩ := Option.isSome_iff_exists.mp h
    rw [canonicalJson, canonDoc, Doc.render, integerTok, hx]
    split
    · rw [intTok_text]
    · exact esInteger_some hx
  | float x =>
    cases x with
    | nan => cases h
    | inf neg => cases h
    | finite neg m => exact esNumber_finite neg m
  | arr xs ih =>
    rw [isCanonical, Json.every_arr] at h
    have hparts : (itemTexts xs).mapM id
        = .ok ((xs.map canonDoc).map (Doc.render .plain [])) := by
      rw [itemTexts_eq_map, List.mapM_map, List.map_map]
      exact mapM_ok (fun v hv => ih v hv (h v hv))
    rw [canonicalJson, hparts, canonDoc, itemDocs_eq_map, render_arr]
    rfl
  | obj ms ih =>
    rw [isCanonical, Json.every_obj, decide_eq_true_iff] at h
    -- members are sorted before their values are written: both sides sort pairs by the key alone
    have hsorted : sortItems (memberTexts ms)
        = .ok ((sortedBy sortKey ms).map (fun p => (p.1, canonicalJson p.2))) := by
      rw [memberTexts_eq_map, sortItems_of_isScalar, sortedBy_members]
      intro p hp
      obtain ⟨q, hq, rfl⟩ := List.mem_map.mp hp
      exact h.1 q.1 (List.mem_map_of_mem hq)
    have hdocs : sortedBy sortKey (memberDocs ms)
        = (sortedBy sortKey ms).map (fun p => (p.1, canonDoc p.2)) := by
      rw [memberDocs_eq_map, sortedBy_members]
    have hparts : ((sortedBy sortKey ms).map (fun p => (p.1, canonicalJson p.2))).mapM memberText
        = .ok (((sortedBy sortKey ms).map (fun p => (p.1, canonDoc p.2))).map
          (fun p => quote p.1 ++ 0x3A :: p.2.render .plain [])) := by
      rw [List.mapM_map, List.map_map]
      refine mapM_ok (fun p hp => ?_)
      have hp := mem_sortedBy.mp hp
      simp only [Function.comp, memberText, ih p hp (h.2 p hp)]
      rfl
    rw [canonicalJson, hsorted]
    simp only [ok_bind, hparts]
    rw [canonDoc, hdocs, render_obj]
    rfl

/-- Nothing else is written: `canonical_json` raises on every other value. -/
theorem isCanonical_of_eq_ok {v : Json} {s : Str} (h : canonicalJson v = .ok s) :
    isCanonical v = true := by
  induction v using Json.inductValue generalizing s with
  | null => rfl
  | bool b => rfl
  | str t => rfl
  | int i =>
    rw [canonicalJson] at h
    split at h
    -- an integer within 2^53 is written without `float`, and has a double all the same
    · rename_i hi
      obtain ⟨m, -, hm⟩ := floatOfInt_isSome_of_safe hi
      exact Option.isSome_iff_exists.mpr ⟨_, hm⟩
    · cases hx : floatOfInt i with
      | none => rw [hx] at h; cases h
      | some x => exact Option.isSome_iff_exists.mpr ⟨x, hx⟩
  | float x =>
    cases x with
    | nan => cases h
    | inf neg => cases h
    | finite neg m => rfl
  | arr xs ih =>
    obtain ⟨parts, hparts, -⟩ := bind_eq_ok h
    rw [isCanonical, Json.every_arr]
    intro v hv
    obtain ⟨t, -, ht⟩ := exists_of_mapM_eq_ok hparts
      (itemTexts_eq_map xs ▸ List.mem_map_of_mem hv)
    exact ih v hv ht
  | obj ms ih =>
    obtain ⟨items, hitems, hrest⟩ := bind_eq_ok h
    obtain ⟨parts, hparts, -⟩ := bind_eq_ok hrest
    obtain ⟨hkeys, rfl⟩ := isScalar_of_sortItems hitems
    rw [memberTexts_eq_map] at hkeys hparts
    rw [isCanonical, Json.every_obj, decide_eq_true_iff]
    refine ⟨fun k hk => ?_, fun p hp => ?_⟩
    · obtain ⟨p, hp, rfl⟩ := List.mem_map.mp hk
      exact hkeys _ (List.mem_map_of_mem hp)
    · obtain ⟨t, -, ht⟩ := exists_of_mapM_eq_ok hparts
        (mem_sortedBy.mpr (List.mem_map_of_mem hp))
      obtain ⟨u, hu, -⟩ := bind_eq_ok ht
      exact ih p hp hu

theorem mem_strings_canonDoc {v : Json} {s : Str} : s ∈ (canonDoc v).strings ↔ s ∈ v.strings := by
  induction v using Json.inductValue with
  | null => rfl
  | bool b => rfl
  | int i => rfl
  | float x => rfl
  | str t => rfl
  | arr xs ih =>
    rw [canonDoc, itemDocs_eq_map, Doc.mem_strings_arr, Json.mem_strings_arr]
    simp only [List.mem_map, exists_exists_and_eq_and]
    exact exists_congr (fun v => and_congr_right (fun hv => ih v hv))
  | obj ms ih =>
    rw [canonDoc, memberDocs_eq_map, Doc.mem_strings_obj, Json.mem_strings_obj]
    simp only [mem_sortedBy, List.mem_map, exists_exists_and_eq_and]
    exact exists_congr (fun p => and_congr_right (fun hp => or_congr Iff.rfl (ih p hp)))

theorem charTest_surrogate : CharTest (fun c => !isSurrogate c) (fun c => !isSurrogate c) where
  ascii c h1 h2 := by
    simp only [isSurrogate, Bool.not_eq_true', Bool.and_eq_false_iff, decide_eq_false_iff_not]
    omega
  plain c h := rfl
  control c h := by
    simp only [isSurrogate, Bool.not_eq_true', Bool.and_eq_false_iff, decide_eq_false_iff_not]
    omega

theorem isScalar_iff_allChars {s : Str} : IsScalar s ↔ AllChars (fun c => !isSurrogate c) s := by
  simp [IsScalar, AllChars]

/-- The canonical text is Unicode exactly when the strings of the value are. -/
theorem isScalar_render_iff (v : Json) :
    IsScalar ((canonDoc v).render .plain []) ↔ ∀ s ∈ v.strings, IsScalar s := by
  simp only [isScalar_iff_allChars]
  rw [allChars_render charTest_surrogate allChars_nil _ (canonDoc_ok v)]
  exact forall_congr' (fun s => imp_congr mem_strings_canonDoc Iff.rfl)

/-- Unicode text, finite floats, and integers with a double: what has a canonical text in
Unicode. -/
theorem isText_and_hasDoubles_iff {v : Json} : v.isText = true ∧ v.hasDoubles = true ↔
    isCanonical v = true ∧ ∀ s ∈ v.strings, IsScalar s := by
  induction v using Json.inductValue with
  | null => simp [Json.isText, Json.hasDoubles, isCanonical, Json.every, Json.strings]
  | bool b => simp [Json.isText, Json.hasDoubles, isCanonical, Json.every, Json.strings]
  | int i => simp [Json.isText, Json.hasDoubles, isCanonical, Json.every, Json.strings]
  | float x =>
    cases x <;> simp [Json.isText, Json.hasDoubles, isCanonical, Json.every, Json.strings]
  | str s => simp [Json.isText, Json.hasDoubles, isCanonical, Json.every, Json.strings]
  | arr xs ih =>
    rw [Json.isText, Json.hasDoubles, isCanonical, Json.every_arr, Json.every_arr,
      Json.every_arr]
    simp only [Json.mem_strings_arr, forall_exists_index, and_imp]
    constructor
    · rintro ⟨ht, hd⟩
      have hall := fun v hv => (ih v hv).mp ⟨ht v hv, hd v hv⟩
      exact ⟨fun v hv => (hall v hv).1, fun s v hv hs => (hall v hv).2 s hs⟩
    · rintro ⟨hc, hs⟩
      have hall := fun v hv => (ih v hv).mpr ⟨hc v hv, fun s h => hs s v hv h⟩
      exact ⟨fun v hv => (hall v hv).1, fun v hv => (hall v hv).2⟩
  | obj ms ih =>
    rw [Json.isText, Json.hasDoubles, isCanonical, Json.every_obj, Json.every_obj,
      Json.every_obj, decide_eq_true_iff]
    simp only [Json.mem_strings_obj, forall_exists_index, and_imp, true_and]
    constructor
    · rintro ⟨⟨hk, ht⟩, hd⟩
      have hall := fun p hp => (ih p hp).mp ⟨ht p hp, hd p hp⟩
      refine ⟨⟨hk, fun p hp => (hall p hp).1⟩, fun s p hp hs => ?_⟩
      rcases hs with rfl | hs
      · exact hk _ (List.mem_map_of_mem hp)
      · exact (hall p hp).2 s hs
    · rintro ⟨⟨hk, hc⟩, hs⟩
      have hall := fun p hp => (ih p hp).mpr ⟨hc p hp, fun s h => hs s p hp (Or.inr h)⟩
      exact ⟨⟨hk, fun p hp => (hall p hp).1⟩, fun p hp => (hall p hp).2⟩

section Hash

variable {sha : Sha256}

theorem canonicalHash_eq_ok {v : Json} {h : Str} (hv : canonicalHash sha v = .ok h) :
    ∃ s, canonicalJson v = .ok s ∧ IsScalar s ∧ h = sha.hexdigest s := by
  obtain ⟨s, hs, h1⟩ := bind_eq_ok hv
  obtain ⟨t, ht, h2⟩ := bind_eq_ok h1
  obtain ⟨hscalar, rfl⟩ := encodeUtf8_eq_ok ht
  cases h2
  exact ⟨t, hs, hscalar, rfl⟩

theorem canonicalHash_of_isScalar {v : Json} {s : Str} (hv : canonicalJson v = .ok s)
    (hs : IsScalar s) : canonicalHash sha v = .ok (sha.hexdigest s) := by
  rw [canonicalHash, hv]
  simp only [ok_bind, encodeUtf8_of_isScalar hs]
  rfl

/-- What has a canonical hash. -/
theorem canonicalHash_isOk_iff {v : Json} :
    (∃ h, canonicalHash sha v = .ok h) ↔ v.isText = true ∧ v.hasDoubles = true := by
  rw [isText_and_hasDoubles_iff, ← isScalar_render_iff]
  constructor
  · rintro ⟨h, hv⟩
    obtain ⟨s, hs, hscalar, -⟩ := canonicalHash_eq_ok hv
    have hc := isCanonical_of_eq_ok hs
    rw [canonicalJson_eq_render hc] at hs
    cases hs
    exact ⟨hc, hscalar⟩
  · rintro ⟨hc, hscalar⟩
    exact ⟨_, canonicalHash_of_isScalar (canonicalJson_eq_render hc) hscalar⟩

end Hash

/-- Values with one canonical text have one canonical document. -/
theorem canonDoc_eq_of_canonicalJson {v w : Json} {s : Str} (hv : canonicalJson v = .ok s)
    (hw : canonicalJson w = .ok s) : canonDoc v = canonDoc w := by
  have hv' := canonicalJson_eq_render (isCanonical_of_eq_ok hv)
  have hw' := canonicalJson_eq_render (isCanonical_of_eq_ok hw)
  rw [hv] at hv'
  rw [hw] at hw'
  have hpad : ∀ c ∈ ([] : Str), isJsonSpace c = true := by simp
  refine render_injective hpad (canonDoc_ok v) (canonDoc_ok w) ?_
  exact Except.ok.inj (hv'.symm.trans hw')

end Axg
