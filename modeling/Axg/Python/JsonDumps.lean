/-
# `json.dumps` with sorted keys

The writer of `json.dumps(v, sort_keys=True, ensure_ascii=False)`: members in the order of
their keys' code points, a space after each comma and colon, floats as `repr` prints them, and
no escapes but the ones JSON asks for.

Reading the text back gives the value with its members sorted (`loads_dumps`).  A line boundary
in the text is one that a string of the value holds, and one that no escape covers
(`oneLine_dumps_iff`).
-/
import Axg.Python.NumberLayout

namespace Axg.Python

/-! ## 1. Floats -/

/-- `repr` of a finite float: plain digits while the point is near them, else an exponent with
at least two digits. -/
def reprTok (neg : Bool) (m : Mag) : NumTok :=
  if m.units = 0 then ⟨neg, [0], [0], none⟩
  else
    let digits := decDigits (reprDecimal m).coeff
    let k : Int := digits.length
    let n := (reprDecimal m).exp + k
    if -4 < n ∧ n ≤ 16 then
      if n ≤ 0 then fracTok neg (-n).toNat digits
      else if n < k then pointTok neg digits n.toNat
      else { wholeTok neg digits (n - k).toNat with frac := [0] }
    else sciTok neg digits (n - 1) 2

theorem reprTok_ok (neg : Bool) (m : Mag) : (reprTok neg m).Ok := by
  simp only [reprTok]
  split
  · exact ⟨by simp, Or.inl rfl, by simp, by simp⟩
  · rename_i h
    have hc : (reprDecimal m).coeff ≠ 0 := reprDecimal_coeff_ne_zero (fun e => h (by rw [e]; rfl))
    split
    · split
      · exact fracTok_ok neg _ _
      · split
        · exact pointTok_ok hc neg (by omega)
        · have hw := wholeTok_ok hc neg ((reprDecimal m).exp
            + (decDigits (reprDecimal m).coeff).length
            - (decDigits (reprDecimal m).coeff).length).toNat
          exact ⟨hw.int_lt, hw.int_head, by simp, hw.exp_ok⟩
    · exact sciTok_ok hc neg _ 2

/-- A zero after the point changes nothing. -/
theorem wholeTok_point_decimal (neg : Bool) (c zeros : Nat) :
    roundDecimal { wholeTok neg (decDigits c) zeros with frac := [0] }.decimal
      = roundDecimal ⟨c, zeros⟩ := by
  have h : ({ wholeTok neg (decDigits c) zeros with frac := [0] } : NumTok).decimal
      = ⟨c * 10 ^ (zeros + 1), -1⟩ := by
    simp only [wholeTok, NumTok.decimal, NumTok.coeff, NumTok.written, List.append_assoc,
      ofDecDigits_append, ofDecDigits_decDigits, List.length_append, List.length_replicate,
      List.length_singleton, ofDecDigits_replicate_zero, Int.zero_sub, Decimal.mk.injEq]
    exact ⟨by simp [ofDecDigits], rfl⟩
  rw [h, roundDecimal_shift]
  congr 2; omega

/-- The scanner reads back the float. -/
theorem reprTok_toFloat (neg : Bool) (m : Mag) :
    (reprTok neg m).isInt = false ∧ (reprTok neg m).toFloat = .finite neg m := by
  have hfloat : ∀ t : NumTok, t.neg = neg → roundDecimal t.decimal = some m →
      t.toFloat = .finite neg m := by
    intro t hneg hround
    rw [NumTok.toFloat, hround, hneg]
  have hrepr := roundDecimal_reprDecimal m
  have hk := decDigits_length_pos (reprDecimal m).coeff
  simp only [reprTok]
  split
  · rename_i h
    have hm : m = Mag.zero := Mag.units_injective (h.trans rfl)
    refine ⟨rfl, hfloat _ rfl ?_⟩
    have hdec : NumTok.decimal ⟨neg, [0], [0], none⟩ = ⟨0, -1⟩ := rfl
    rw [hdec, roundDecimal_zero, roundDecimal_nat, hm]
    exact magOfNat_of_units (by simp [Mag.zero, Mag.units])
  · generalize reprDecimal m = d at hrepr hk ⊢
    obtain ⟨c, e⟩ := d
    simp only at hk ⊢
    split
    · split
      · refine ⟨by simp [fracTok, NumTok.isInt, decDigits_ne_nil], hfloat _ rfl ?_⟩
        rw [fracTok_decimal, ← hrepr]
        congr 2; omega
      · split
        · refine ⟨?_, hfloat _ rfl ?_⟩
          · simp only [pointTok, NumTok.isInt, Bool.and_eq_false_iff, List.isEmpty_eq_false_iff,
              ne_eq, List.drop_eq_nil_iff]
            omega
          · rw [pointTok_decimal, ← hrepr]
            congr 2; omega
        · refine ⟨rfl, hfloat _ rfl ?_⟩
          rw [wholeTok_point_decimal, ← hrepr]
          congr 2; omega
    · refine ⟨by simp [sciTok, NumTok.isInt], hfloat _ rfl ?_⟩
      rw [sciTok_decimal, ← hrepr]
      congr 2; omega

/-- No number has more digits in front of the point than `repr` prints. -/
theorem reprTok_int_length (neg : Bool) (m : Mag) : (reprTok neg m).int.length ≤ 16 := by
  simp only [reprTok]
  split
  · simp
  · have hk := decDigits_length_pos (reprDecimal m).coeff
    split
    · split
      · simp [fracTok]
      · split
        · simp only [pointTok, List.length_take]; omega
        · simp only [wholeTok, List.length_append, List.length_replicate]; omega
    · simp only [sciTok, List.length_take]; omega

/-! ## 2. Values -/

/-- Integers within the interpreter's limit on the digits it prints. -/
def Json.hasShortInts : Json → Bool :=
  Json.every
    (fun
      | .int i => decide ((decDigits i.natAbs).length ≤ 4300)
      | _ => true)
    (fun _ => true)

namespace Json

mutual

/-- The document of a value: members in their order. -/
def doc : Json → Doc
  | .null => .null
  | .bool b => .bool b
  | .int i => .num (intTok i)
  | .float (.finite neg m) => .num (reprTok neg m)
  | .float (.inf neg) => .inf neg
  | .float .nan => .nan
  | .str s => .str s
  | .arr xs => .arr (docItems xs)
  | .obj ms => .obj (docMembers ms)

def docItems : List Json → List Doc
  | [] => []
  | v :: vs => doc v :: docItems vs

def docMembers : List (Str × Json) → List (Str × Doc)
  | [] => []
  | (k, v) :: ms => (k, doc v) :: docMembers ms

end

mutual

theorem doc_ok : ∀ {v : Json}, v.hasShortInts = true → v.doc.Ok
  | .null, _ => trivial
  | .bool _, _ => trivial
  | .int i, h => ⟨intTok_ok i, of_decide_eq_true h⟩
  | .float .nan, _ => trivial
  | .float (.inf _), _ => trivial
  | .float (.finite neg m), _ => ⟨reprTok_ok neg m, (reprTok_int_length neg m).trans (by decide)⟩
  | .str _, _ => trivial
  | .arr xs, h => docItems_ok (every_arr.mp h)
  | .obj ms, h => docMembers_ok (every_obj.mp h).2

theorem docItems_ok : ∀ {xs : List Json}, (∀ v ∈ xs, v.hasShortInts = true) →
    Doc.OkItems (docItems xs)
  | [], _ => trivial
  | v :: vs, h => ⟨doc_ok (h v (by simp)), docItems_ok (fun w hw => h w (by simp [hw]))⟩

theorem docMembers_ok : ∀ {ms : List (Str × Json)}, (∀ p ∈ ms, p.2.hasShortInts = true) →
    Doc.OkMembers (docMembers ms)
  | [], _ => trivial
  | (k, v) :: ms, h =>
    ⟨doc_ok (h (k, v) (by simp)), docMembers_ok (fun p hp => h p (by simp [hp]))⟩

end

theorem docItems_eq_map (xs : List Json) : docItems xs = xs.map doc := by
  induction xs with
  | nil => rfl
  | cons v vs ih => rw [docItems, ih]; rfl

theorem docMembers_eq_map (ms : List (Str × Json)) :
    docMembers ms = ms.map (fun p => (p.1, p.2.doc)) := by
  induction ms with
  | nil => rfl
  | cons p ms ih => rw [docMembers, ih]; rfl

theorem mem_strings_doc {v : Json} {s : Str} : s ∈ v.doc.strings ↔ s ∈ v.strings := by
  induction v using Json.inductValue with
  | null => rfl
  | bool b => rfl
  | int i => rfl
  | float x => cases x <;> rfl
  | str t => rfl
  | arr xs ih =>
    rw [doc, docItems_eq_map, Doc.mem_strings_arr, mem_strings_arr]
    simp only [List.mem_map, exists_exists_and_eq_and]
    exact exists_congr (fun v => and_congr_right (fun hv => ih v hv))
  | obj ms ih =>
    rw [doc, docMembers_eq_map, Doc.mem_strings_obj, mem_strings_obj]
    simp only [List.mem_map, exists_exists_and_eq_and]
    exact exists_congr (fun p => and_congr_right (fun hp => or_congr Iff.rfl (ih p hp)))

/-- The document of a value stands for the value. -/
theorem doc_value {v : Json} (hwf : v.Wf) : v.doc.value = v := by
  induction v using Json.inductValue with
  | null => rfl
  | bool b => rfl
  | int i => simp only [doc, Doc.value, intTok_isInt, ↓reduceIte, intTok_toInt]
  | float x =>
    cases x with
    | nan => rfl
    | inf neg => rfl
    | finite neg m =>
      obtain ⟨hint, hfloat⟩ := reprTok_toFloat neg m
      simp only [doc, Doc.value, hint, Bool.false_eq_true, ↓reduceIte, hfloat]
  | str s => rfl
  | arr xs ih =>
    rw [doc, Doc.value, docItems_eq_map, Doc.itemsValue_eq_map, List.map_map]
    exact congrArg arr ((List.map_congr_left fun x hx => ih x hx (wf_arr.mp hwf x hx)).trans
      (List.map_id xs))
  | obj ms ih =>
    rw [doc, Doc.value, docMembers_eq_map, Doc.membersValue_eq_map, List.map_map]
    have hms : ms.map ((fun p => (p.1, p.2.value)) ∘ fun p => (p.1, p.2.doc)) = ms.map id :=
      List.map_congr_left fun p hp => Prod.ext rfl (ih p hp ((wf_obj.mp hwf).2 p hp))
    rw [hms, List.map_id, Dict.ofPairs_of_nodup (wf_obj.mp hwf).1]

end Json

mutual

/-- The value with the members of every object in the order of their keys. -/
def Json.sortKeys : Json → Json
  | .arr xs => .arr (sortKeysItems xs)
  | .obj ms => .obj (sortedBy Prod.fst (sortKeysMembers ms))
  | .null => .null
  | .bool b => .bool b
  | .int i => .int i
  | .float x => .float x
  | .str s => .str s

def Json.sortKeysItems : List Json → List Json
  | [] => []
  | v :: vs => v.sortKeys :: sortKeysItems vs

def Json.sortKeysMembers : List (Str × Json) → List (Str × Json)
  | [] => []
  | (k, v) :: ms => (k, v.sortKeys) :: sortKeysMembers ms

end

theorem Json.sortKeysItems_eq_map (xs : List Json) : sortKeysItems xs = xs.map sortKeys := by
  induction xs with
  | nil => rfl
  | cons v vs ih => rw [sortKeysItems, ih]; rfl

theorem Json.sortKeysMembers_eq_map (ms : List (Str × Json)) :
    sortKeysMembers ms = ms.map (fun p => (p.1, p.2.sortKeys)) := by
  induction ms with
  | nil => rfl
  | cons p ms ih => obtain ⟨k, v⟩ := p; rw [sortKeysMembers, ih]; rfl

/-- Sorting keys leaves the leaves as they are. -/
theorem Json.hasShortInts_sortKeys (v : Json) : v.sortKeys.hasShortInts = v.hasShortInts := by
  rw [Bool.eq_iff_iff]
  induction v using Json.inductValue with
  | null => rfl
  | bool b => rfl
  | int i => rfl
  | float x => rfl
  | str s => rfl
  | arr xs ih =>
    simp only [hasShortInts, sortKeys, every_arr, sortKeysItems_eq_map, List.forall_mem_map] at ih ⊢
    exact forall₂_congr ih
  | obj ms ih =>
    simp only [hasShortInts, sortKeys, every_obj, sortKeysMembers_eq_map, true_and, mem_sortedBy,
      List.forall_mem_map] at ih ⊢
    exact forall₂_congr ih

/-- A sorted dictionary still holds each key once. -/
theorem nodup_sortedBy_fst {α : Type} {ms : List (Str × α)} (h : (Dict.keys ms).Nodup) :
    (Dict.keys (sortedBy Prod.fst ms)).Nodup :=
  ((sortedBy_perm Prod.fst ms).map Prod.fst).nodup_iff.mpr h

theorem Json.wf_sortKeys {v : Json} (h : v.Wf) : v.sortKeys.Wf := by
  induction v using Json.inductValue with
  | null => exact h
  | bool b => exact h
  | int i => exact h
  | float x => exact h
  | str s => exact h
  | arr xs ih =>
    rw [wf_arr] at h
    rw [sortKeys, sortKeysItems_eq_map, wf_arr, List.forall_mem_map]
    exact fun v hv => ih v hv (h v hv)
  | obj ms ih =>
    rw [wf_obj] at h
    rw [sortKeys, sortKeysMembers_eq_map, wf_obj]
    refine ⟨nodup_sortedBy_fst (Dict.keys_map sortKeys ms ▸ h.1), fun p hp => ?_⟩
    obtain ⟨q, hq, rfl⟩ := List.mem_map.mp (mem_sortedBy.mp hp)
    exact ih q hq (h.2 q hq)

theorem Json.mem_strings_sortKeys {v : Json} {s : Str} :
    s ∈ v.sortKeys.strings ↔ s ∈ v.strings := by
  induction v using Json.inductValue with
  | null => rfl
  | bool b => rfl
  | int i => rfl
  | float x => rfl
  | str t => rfl
  | arr xs ih =>
    rw [sortKeys, sortKeysItems_eq_map, mem_strings_arr, mem_strings_arr]
    simp only [List.mem_map, exists_exists_and_eq_and]
    exact exists_congr (fun v => and_congr_right (fun hv => ih v hv))
  | obj ms ih =>
    rw [sortKeys, sortKeysMembers_eq_map, mem_strings_obj, mem_strings_obj]
    simp only [mem_sortedBy, List.mem_map, exists_exists_and_eq_and]
    exact exists_congr (fun p => and_congr_right (fun hp => or_congr Iff.rfl (ih p hp)))

/-- The document that `json.dumps` writes with `sort_keys=True`. -/
def dumpsDoc (v : Json) : Doc := v.sortKeys.doc

/-- `json.dumps(v, sort_keys=True, ensure_ascii=False)` -/
def dumps (v : Json) : Except PyError Str :=
  if v.hasShortInts then .ok ((dumpsDoc v).render .plain [0x20]) else .error .valueError

theorem dumpsDoc_ok {v : Json} (h : v.hasShortInts = true) : (dumpsDoc v).Ok :=
  Json.doc_ok (v.hasShortInts_sortKeys.trans h)

theorem dumpsDoc_value {v : Json} (h : v.Wf) : (dumpsDoc v).value = v.sortKeys :=
  Json.doc_value (Json.wf_sortKeys h)

/-- Writing a value neither adds a string nor drops one. -/
theorem mem_strings_dumpsDoc {v : Json} {s : Str} : s ∈ (dumpsDoc v).strings ↔ s ∈ v.strings :=
  Json.mem_strings_doc.trans Json.mem_strings_sortKeys

/-- The document of an object is one of an object. -/
theorem dumpsDoc_obj (ms : Dict Json) :
    dumpsDoc (.obj ms) = .obj (Json.docMembers (sortedBy Prod.fst (Json.sortKeysMembers ms))) :=
  rfl

theorem padSpace : ∀ c ∈ ([0x20] : Str), isJsonSpace c = true := by simp [isJsonSpace]

/-- Reading the text of a value gives the value, its members sorted. -/
theorem loads_dumps {v : Json} {t : Str} (hv : v.Wf) (h : dumps v = .ok t) :
    loads t = .ok v.sortKeys := by
  unfold dumps at h
  split at h
  · rename_i hs
    cases h
    rw [loads_render_plain padSpace (dumpsDoc_ok hs), dumpsDoc_value hv]
  · cases h

/-! ## 3. Line boundaries -/

/-- No line boundary: the text is one line to `splitlines`. -/
def OneLine (s : Str) : Prop := AllChars (fun c => !isLineBreak c) s

instance (s : Str) : Decidable (OneLine s) := inferInstanceAs (Decidable (AllChars _ s))

/-- A text that is not one line, at its first boundary. -/
theorem exists_first_break {s : Str} (h : ¬ OneLine s) :
    ∃ p c x, s = p ++ c :: x ∧ OneLine p ∧ isLineBreak c = true := by
  induction s with
  | nil => exact absurd allChars_nil h
  | cons a s ih =>
    by_cases ha : isLineBreak a = true
    · exact ⟨[], a, s, rfl, allChars_nil, ha⟩
    · have ha : (!isLineBreak a) = true := by simpa using ha
      obtain ⟨p, c, x, rfl, hp, hc⟩ := ih (fun hs => h (allChars_cons.mpr ⟨ha, hs⟩))
      exact ⟨a :: p, c, x, rfl, allChars_cons.mpr ⟨ha, hp⟩, hc⟩

/-- And at its last. -/
theorem exists_last_break {s : Str} (h : ¬ OneLine s) :
    ∃ p c x, s = p ++ c :: x ∧ OneLine x ∧ isLineBreak c = true := by
  induction s with
  | nil => exact absurd allChars_nil h
  | cons a s ih =>
    by_cases hs : OneLine s
    · refine ⟨[], a, s, rfl, hs, ?_⟩
      by_contra ha
      exact h (allChars_cons.mpr ⟨by simpa using ha, hs⟩)
    · obtain ⟨p, c, x, rfl, hx, hc⟩ := ih hs
      exact ⟨a :: p, c, x, rfl, hx, hc⟩

/-- The line boundaries that no escape covers: NEXT LINE, LINE SEPARATOR and PARAGRAPH
SEPARATOR. -/
def isRawBreak (c : CodePoint) : Bool := c.val == 0x85 || c.val == 0x2028 || c.val == 0x2029

theorem charTest_lineBreak : CharTest (fun c => !isLineBreak c) (fun c => !isRawBreak c) where
  ascii c h1 h2 := by
    simp only [isLineBreak, Bool.not_eq_true', Bool.or_eq_false_iff, Bool.and_eq_false_iff,
      decide_eq_false_iff_not, beq_eq_false_iff_ne]
    omega
  plain c h := by
    have h1 : (0x0A ≤ c.val && c.val ≤ 0x0D) = false := by
      rw [Bool.and_eq_false_iff, decide_eq_false_iff_not, decide_eq_false_iff_not]; omega
    have h2 : (0x1C ≤ c.val && c.val ≤ 0x1E) = false := by
      rw [Bool.and_eq_false_iff, decide_eq_false_iff_not, decide_eq_false_iff_not]; omega
    simp only [isLineBreak, isRawBreak, h1, h2, Bool.false_or]
  control c h := by
    simp only [isRawBreak, Bool.not_eq_true', Bool.or_eq_false_iff, beq_eq_false_iff_ne]
    omega

/-- No string and no key of the value holds a line boundary that stays unescaped. -/
def Json.NoRawBreaks (v : Json) : Prop := ∀ s ∈ v.strings, AllChars (fun c => !isRawBreak c) s

instance (v : Json) : Decidable v.NoRawBreaks := List.decidableBAll _ v.strings

/-- The text of a value is one line exactly when its strings and keys are. -/
theorem oneLine_dumps_iff {v : Json} (h : v.hasShortInts = true) :
    OneLine ((dumpsDoc v).render .plain [0x20]) ↔ v.NoRawBreaks := by
  have hpad : AllChars (fun c => !isLineBreak c) [0x20] := by simp [AllChars, isLineBreak]
  rw [OneLine, allChars_render charTest_lineBreak hpad _ (dumpsDoc_ok h)]
  exact forall_congr' (fun s => imp_congr mem_strings_dumpsDoc Iff.rfl)

/-- Every line boundary of the text is an unescaped one: the control characters are escaped. -/
theorem isRawBreak_of_mem_dumps {v : Json} (h : v.hasShortInts = true) {c : CodePoint}
    (hc : c ∈ (dumpsDoc v).render .plain [0x20]) (hb : isLineBreak c = true) :
    isRawBreak c = true := by
  have ht : CharTest (fun c => !isLineBreak c || isRawBreak c) (fun _ => true) := by
    refine ⟨fun c h1 h2 => ?_, fun c h1 => ?_, fun _ _ => rfl⟩
    · rw [charTest_lineBreak.ascii c h1 h2, Bool.true_or]
    · rw [charTest_lineBreak.plain c h1]
      cases isRawBreak c <;> rfl
  have hpad : AllChars (fun c => !isLineBreak c || isRawBreak c) [0x20] := by
    simp [AllChars, isLineBreak]
  have := (allChars_render ht hpad _ (dumpsDoc_ok h)).mpr (fun _ _ _ _ => rfl) c hc
  simpa [hb] using this

end Axg.Python
