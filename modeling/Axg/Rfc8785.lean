/-
# RFC 8785

The JSON canonicalization scheme as its text states it, in terms of ECMAScript: numbers as
`Number::toString` prints their doubles, strings as `QuoteJSONString` quotes them, and the
members of every object by the UTF-16 code units of their keys.  None of the definitions of
sections 1 and 2 is taken from `axg/canonical.py`.

`canonicalJson_eq_ok_iff` says that `canonical_json` writes this and nothing else.
-/
import Axg.CanonicalInjective
import Axg.Python.Shortest

namespace Axg

open Python

/-! ## 1. ECMAScript -/

/-- `Number::toString` of a positive number whose digits are `s`, `k` of them, with the decimal
point after the first `n`. -/
def ecmaDigits (s : Nat) (k n : Int) : Str :=
  let digits := digitsText (decDigits s)
  if -5 ≤ n ∧ n ≤ 21 then
    if k ≤ n then digits ++ List.replicate (n - k).toNat 0x30
    else if 0 < n then digits.take n.toNat ++ 0x2E :: digits.drop n.toNat
    else 0x30 :: 0x2E :: (List.replicate (-n).toNat 0x30 ++ digits)
  else
    let exponent := (if n < 0 then 0x2D else 0x2B) :: digitsText (decDigits (n - 1).natAbs)
    if k = 1 then digits ++ 0x65 :: exponent
    else digits.take 1 ++ 0x2E :: (digits.drop 1 ++ 0x65 :: exponent)

/-- `Number::toString(x)`, for the numbers that JSON has. -/
def NumberToString : F64 → Str → Prop
  | .finite neg m, t =>
    (m.units = 0 ∧ t = lit "0") ∨
      (m.units ≠ 0 ∧ ∃ d : Decimal, IsShortest m d ∧
        t = (if neg then lit "-" else []) ++ ecmaDigits d.coeff d.length (d.exp + d.length))
  | _, _ => False

/-- `UnicodeEscape` of a code unit. -/
def unicodeEscape (u : Nat) : Str :=
  [0x5C, 0x75, hexChar (u / 0x1000 % 16), hexChar (u / 0x100 % 16), hexChar (u / 0x10 % 16),
    hexChar (u % 16)]

/-- What `QuoteJSONString` writes for a code point. -/
def quoteCodePoint (c : CodePoint) : Str :=
  if c.val = 0x08 then lit "\\b"
  else if c.val = 0x09 then lit "\\t"
  else if c.val = 0x0A then lit "\\n"
  else if c.val = 0x0C then lit "\\f"
  else if c.val = 0x0D then lit "\\r"
  else if c.val = 0x22 then lit "\\\""
  else if c.val = 0x5C then lit "\\\\"
  else if c.val < 0x20 ∨ isSurrogate c = true then unicodeEscape c.val
  else [c]

/-- `QuoteJSONString` -/
def quoteJsonString (s : Str) : Str := 0x22 :: (s.flatMap quoteCodePoint ++ [0x22])

/-- `UTF16EncodeCodePoint` -/
def utf16Units (c : CodePoint) : List Nat :=
  if c.val ≤ 0xFFFF then [c.val]
  else [(c.val - 0x10000) / 0x400 + 0xD800, (c.val - 0x10000) % 0x400 + 0xDC00]

/-- The code units of a string, which property names are sorted by. -/
def codeUnits (s : Str) : List Nat := s.flatMap utf16Units

/-! ## 2. The serialization -/

/-- One member of a serialized object. -/
def serializedMember (p : Str × Str) : Str := quoteJsonString p.1 ++ 0x3A :: p.2

mutual

/-- `t` is the serialization of a value: no whitespace, numbers as doubles, and the members of
an object sorted. -/
def Jcs : Json → Str → Prop
  | .null, t => t = lit "null"
  | .bool b, t => t = if b then lit "true" else lit "false"
  | .int i, t => ∃ x, floatOfInt i = some x ∧ NumberToString x t
  | .float x, t => NumberToString x t
  | .str s, t => t = quoteJsonString s
  | .arr xs, t => ∃ ts, JcsItems xs ts ∧ t = 0x5B :: ([0x2C].intercalate ts ++ [0x5D])
  | .obj ms, t => ∃ ts, JcsMembers ms ts ∧ ∃ sorted : List (Str × Str), sorted.Perm ts ∧
      sorted.Pairwise (fun p q => codeUnits p.1 < codeUnits q.1) ∧
      t = 0x7B :: ([0x2C].intercalate (sorted.map serializedMember) ++ [0x7D])

def JcsItems : List Json → List Str → Prop
  | [], ts => ts = []
  | v :: vs, ts => ∃ t us, Jcs v t ∧ JcsItems vs us ∧ ts = t :: us

def JcsMembers : List (Str × Json) → List (Str × Str) → Prop
  | [], ts => ts = []
  | (k, v) :: ms, ts => ∃ t us, Jcs v t ∧ JcsMembers ms us ∧ ts = (k, t) :: us

end

/-! ## 3. Numbers and strings -/

theorem esBody_eq_ecmaDigits (c : Nat) (e : Int) :
    esBody (digitsText (decDigits c)) e
      = ecmaDigits c (decDigits c).length (e + (decDigits c).length) := by
  have hlen : (digitsText (decDigits c)).length = (decDigits c).length := digitsText_length _
  have hk : 0 < (decDigits c).length := decDigits_length_pos c
  simp only [esBody, ecmaDigits, hlen, strNat]
  by_cases hn : -5 ≤ e + (decDigits c).length ∧ e + (decDigits c).length ≤ 21
  · rw [if_pos hn]
    by_cases h1 : ((decDigits c).length : Int) ≤ e + (decDigits c).length
    · rw [if_pos ⟨h1, hn.2⟩, if_pos h1]
    · rw [if_neg (fun h => h1 h.1), if_neg h1]
      by_cases h2 : 0 < e + (decDigits c).length
      · rw [if_pos ⟨h2, hn.2⟩, if_pos h2]
      · rw [if_neg (fun h => h2 h.1), if_neg h2, if_pos (by omega)]
  · rw [if_neg hn, if_neg (by omega), if_neg (by omega), if_neg (by omega)]
    by_cases h1 : ((decDigits c).length : Int) = 1
    · rw [if_pos h1, if_pos h1]
      by_cases h2 : 0 ≤ e + (decDigits c).length - 1
      · rw [if_pos h2, if_neg (by omega)]
      · rw [if_neg h2, if_pos (by omega)]
    · rw [if_neg h1, if_neg h1]
      by_cases h2 : 0 ≤ e + (decDigits c).length - 1
      · rw [if_pos h2, if_neg (by omega)]
        simp
      · rw [if_neg h2, if_pos (by omega)]
        simp

theorem mag_ne_zero {m : Mag} (h : m.units ≠ 0) : m ≠ Mag.zero := by
  rintro rfl
  exact h (by simp [Mag.units, Mag.zero])

/-- A double is printed as ECMAScript prints it. -/
theorem esNumber_eq_ok_iff {x : F64} {t : Str} : esNumber x = .ok t ↔ NumberToString x t := by
  cases x with
  | nan => exact iff_of_false (fun h => nomatch h) (fun h => h)
  | inf neg => exact iff_of_false (fun h => nomatch h) (fun h => h)
  | finite neg m =>
    rw [esNumber, NumberToString]
    by_cases h0 : m.units = 0
    · simp only [h0, ↓reduceIte, Except.ok.injEq, true_and, ne_eq, not_true_eq_false, false_and,
        or_false]
      exact eq_comm
    · have hx := mag_ne_zero h0
      simp only [h0, ↓reduceIte, Except.ok.injEq, false_and, ne_eq, not_false_eq_true, true_and,
        false_or, esBody_eq_ecmaDigits]
      constructor
      · rintro rfl
        exact ⟨_, isShortest_reprDecimal hx, rfl⟩
      · rintro ⟨d, hd, rfl⟩
        rw [(isShortest_reprDecimal hx).unique hx hd]
        rfl

theorem escapeChar_control : ∀ n : Fin 0x20,
    escapeChar (Fin.ofNat 0x110000 n.val) = quoteCodePoint (Fin.ofNat 0x110000 n.val) := by
  decide

/-- Both escape the same characters the same way. -/
theorem escapeChar_eq (c : CodePoint) (h : isSurrogate c = false) :
    escapeChar c = quoteCodePoint c := by
  by_cases hc : c.val < 0x20
  · have := escapeChar_control ⟨c.val, hc⟩
    rwa [Fin.ofNat_val_eq_self] at this
  · have hval : ∀ n : Nat, n < 0x110000 → (c = Fin.ofNat 0x110000 n ↔ c.val = n) := by
      intro n hn
      rw [Fin.ext_iff, Fin.val_ofNat, Nat.mod_eq_of_lt hn]
    have hctl : ∀ n : Nat, n < 0x20 → c.val ≠ n := fun n hn => by omega
    have h22 : c = 0x22 ↔ c.val = 0x22 := hval 0x22 (by decide)
    have h5C : c = 0x5C ↔ c.val = 0x5C := hval 0x5C (by decide)
    have h0A : c = 0x0A ↔ c.val = 0x0A := hval 0x0A (by decide)
    have h0D : c = 0x0D ↔ c.val = 0x0D := hval 0x0D (by decide)
    have h09 : c = 0x09 ↔ c.val = 0x09 := hval 0x09 (by decide)
    have h0C : c = 0x0C ↔ c.val = 0x0C := hval 0x0C (by decide)
    have h08 : c = 0x08 ↔ c.val = 0x08 := hval 0x08 (by decide)
    simp only [escapeChar, quoteCodePoint, h22, h5C, h0A, h0D, h09, h0C, h08,
      hctl 0x08 (by decide), hctl 0x09 (by decide), hctl 0x0A (by decide),
      hctl 0x0C (by decide), hctl 0x0D (by decide), hc, h, Bool.false_eq_true, or_self,
      ↓reduceIte]
    rfl

theorem quote_eq {s : Str} (h : IsScalar s) : quote s = quoteJsonString s := by
  rw [quote, quoteJsonString]
  congr 2
  exact List.flatMap_congr (fun c hc => escapeChar_eq c (h c hc))

/-! ## 4. Keys -/

/-- A code unit, high byte first. -/
def unitBytes (u : Nat) : List Nat := [u / 256, u % 256]

theorem utf16beBytes_eq (c : CodePoint) : utf16beBytes c = (utf16Units c).flatMap unitBytes := by
  have hc := c.isLt
  by_cases h : c.val < 0x10000
  · rw [utf16beBytes, utf16Units, if_pos h, if_pos (by omega)]
    rfl
  · rw [utf16beBytes, utf16Units, if_neg h, if_neg (by omega)]
    simp only [List.flatMap_cons, List.flatMap_nil, List.append_nil, unitBytes,
      List.cons_append, List.nil_append, Nat.add_comm]

/-- Comparing the bytes of code units is comparing the code units. -/
theorem flatMap_unitBytes_lt : ∀ us vs : List Nat,
    us.flatMap unitBytes < vs.flatMap unitBytes ↔ us < vs
  | [], [] => by simp
  | [], v :: vs => by simp [unitBytes]
  | u :: us, [] => by simp [unitBytes]
  | u :: us, v :: vs => by
    have ih := flatMap_unitBytes_lt us vs
    simp only [List.flatMap_cons, unitBytes, List.cons_append, List.nil_append,
      List.cons_lt_cons_iff] at ih ⊢
    rw [ih]
    have hu := Nat.div_add_mod u 256
    have hv := Nat.div_add_mod v 256
    have hu' := Nat.mod_lt u (by decide : 0 < 256)
    have hv' := Nat.mod_lt v (by decide : 0 < 256)
    constructor
    · rintro (h | ⟨h, h' | ⟨h', hrest⟩⟩)
      · exact Or.inl (by omega)
      · exact Or.inl (by omega)
      · exact Or.inr ⟨by omega, hrest⟩
    · rintro (h | ⟨rfl, hrest⟩)
      · omega
      · exact Or.inr ⟨rfl, Or.inr ⟨rfl, hrest⟩⟩

theorem codeUnits_lt_iff (s t : Str) :
    s.flatMap utf16beBytes < t.flatMap utf16beBytes ↔ codeUnits s < codeUnits t := by
  have h : ∀ r : Str, r.flatMap utf16beBytes = (codeUnits r).flatMap unitBytes := by
    intro r
    rw [codeUnits, List.flatMap_assoc]
    exact List.flatMap_congr (fun c _ => utf16beBytes_eq c)
  rw [h, h, flatMap_unitBytes_lt]

/-- The members in the order of RFC 8785, for any order they come in. -/
theorem sorted_iff {α : Type} {ms sorted : List (Str × α)} (hk : (Dict.keys ms).Nodup)
    (hs : ∀ p ∈ ms, IsScalar p.1) :
    (sorted.Perm ms ∧ sorted.Pairwise (fun p q => codeUnits p.1 < codeUnits q.1)) ↔
      sorted = sortedBy sortKey ms := by
  have hlt : (sortedBy sortKey ms).Pairwise (fun p q => codeUnits p.1 < codeUnits q.1) := by
    have hnodup : (sortedBy sortKey ms).Pairwise (fun p q => p.1 ≠ q.1) :=
      List.pairwise_map.mp (((sortedBy_perm sortKey ms).map Prod.fst).nodup_iff.mpr hk)
    refine ((sortedBy_pairwise sortKey ms).and hnodup).imp_of_mem ?_
    rintro p q hp hq ⟨hle, hne⟩
    rw [← codeUnits_lt_iff]
    refine lt_of_le_of_ne hle (fun he => hne ?_)
    exact flatMap_utf16be_injective (hs p (mem_sortedBy.mp hp)) (hs q (mem_sortedBy.mp hq)) he
  constructor
  · rintro ⟨hperm, hpair⟩
    refine List.Perm.eq_of_pairwise (fun a b _ _ h h' => ?_) hpair hlt
      (hperm.trans (sortedBy_perm sortKey ms).symm)
    exact absurd h' (lt_asymm h)
  · rintro rfl
    exact ⟨sortedBy_perm sortKey ms, hlt⟩

/-! ## 5. Values -/

theorem JcsItems_iff {xs : List Json} {f : Json → Str}
    (h : ∀ v ∈ xs, ∀ t, Jcs v t ↔ t = f v) {ts : List Str} : JcsItems xs ts ↔ ts = xs.map f := by
  induction xs generalizing ts with
  | nil => rw [JcsItems]; rfl
  | cons v vs ih =>
    have ih := @ih (fun w hw => h w (by simp [hw]))
    rw [JcsItems, List.map_cons]
    constructor
    · rintro ⟨t, us, ht, hus, rfl⟩
      rw [(h v (by simp) t).mp ht, ih.mp hus]
    · rintro rfl
      exact ⟨_, _, (h v (by simp) _).mpr rfl, ih.mpr rfl, rfl⟩

theorem JcsMembers_iff {ms : List (Str × Json)} {f : Json → Str}
    (h : ∀ p ∈ ms, ∀ t, Jcs p.2 t ↔ t = f p.2) {ts : List (Str × Str)} :
    JcsMembers ms ts ↔ ts = ms.map (fun p => (p.1, f p.2)) := by
  induction ms generalizing ts with
  | nil => rw [JcsMembers]; rfl
  | cons p ms ih =>
    obtain ⟨k, v⟩ := p
    have ih := @ih (fun w hw => h w (by simp [hw]))
    rw [JcsMembers, List.map_cons]
    constructor
    · rintro ⟨t, us, ht, hus, rfl⟩
      rw [(h (k, v) (by simp) t).mp ht, ih.mp hus]
    · rintro rfl
      exact ⟨_, _, (h (k, v) (by simp) _).mpr rfl, ih.mpr rfl, rfl⟩

/-- The text of a finite double. -/
theorem floatTok_text_iff (neg : Bool) (m : Mag) {t : Str} :
    NumberToString (.finite neg m) t ↔ t = (floatTok (.finite neg m)).text := by
  rw [← esNumber_eq_ok_iff, esNumber_finite, Except.ok.injEq, eq_comm]

/-- The document of a value, set without spaces, is its serialization. -/
theorem jcs_iff_render {v : Json} (hw : v.Wf) (hc : isCanonical v = true) (ht : v.isText = true)
    {t : Str} : Jcs v t ↔ t = (canonDoc v).render .plain [] := by
  induction v using Json.inductValue generalizing t with
  | null => exact Iff.rfl
  | bool b => cases b <;> exact Iff.rfl
  | str s =>
    rw [Jcs, canonDoc, Doc.render, Quoting.text_plain, ← quote_eq (of_decide_eq_true ht)]
  | int i =>
    obtain ⟨a, m, hu, hd⟩ := canonDoc_int hc
    obtain ⟨x, hx⟩ := Option.isSome_iff_exists.mp hc
    rw [Json.toBinary64, hx, Option.getD_some, Json.float.injEq] at hu
    subst hu
    rw [hd, Doc.render, ← floatTok_text_iff, Jcs, hx]
    simp
  | float x =>
    obtain ⟨a, m, hu, hd⟩ := canonDoc_float hc
    rw [Json.toBinary64, Json.float.injEq] at hu
    subst hu
    rw [hd, Doc.render, ← floatTok_text_iff, Jcs]
  | arr xs ih =>
    rw [Json.wf_arr] at hw
    rw [isCanonical, Json.every_arr] at hc
    rw [Json.isText, Json.every_arr] at ht
    have hitems := @JcsItems_iff xs (fun v => (canonDoc v).render .plain [])
      (fun v hv t => ih v hv (hw v hv) (hc v hv) (ht v hv))
    rw [Jcs, canonDoc, itemDocs_eq_map, render_arr, List.map_map]
    simp only [hitems, exists_eq_left]
    rfl
  | obj ms ih =>
    rw [Json.wf_obj] at hw
    rw [isCanonical, Json.every_obj, decide_eq_true_iff] at hc
    rw [Json.isText, Json.every_obj, decide_eq_true_iff] at ht
    have hmembers := @JcsMembers_iff ms (fun v => (canonDoc v).render .plain [])
      (fun p hp t => ih p hp (hw.2 p hp) (hc.2 p hp) (ht.2 p hp))
    have hkeys : (Dict.keys (ms.map (fun p => (p.1, (canonDoc p.2).render .plain [])))).Nodup := by
      rw [Dict.keys_map (fun v => (canonDoc v).render .plain []) ms]
      exact hw.1
    have hscalar : ∀ p ∈ ms.map (fun p => (p.1, (canonDoc p.2).render .plain [])),
        IsScalar p.1 := by
      intro p hp
      obtain ⟨q, hq, rfl⟩ := List.mem_map.mp hp
      exact hc.1 _ (List.mem_map_of_mem hq)
    -- both sides sort by the name itself, before it is quoted
    have htexts : (sortedBy sortKey (ms.map (fun p => (p.1, (canonDoc p.2).render .plain [])))).map
          serializedMember
        = (sortedBy sortKey (memberDocs ms)).map
          (fun p => quote p.1 ++ 0x3A :: p.2.render .plain []) := by
      rw [memberDocs_eq_map, sortedBy_members canonDoc,
        sortedBy_members (fun v => (canonDoc v).render .plain []), List.map_map, List.map_map]
      refine List.map_congr_left (fun p hp => ?_)
      have hk := hc.1 _ (List.mem_map_of_mem (mem_sortedBy.mp hp))
      simp only [Function.comp, serializedMember, quote_eq hk]
    rw [Jcs, canonDoc, render_obj, ← htexts]
    simp only [hmembers, exists_eq_left]
    constructor
    · rintro ⟨sorted, hperm, hpair, rfl⟩
      rw [(sorted_iff hkeys hscalar).mp ⟨hperm, hpair⟩]
    · rintro rfl
      obtain ⟨hperm, hpair⟩ := (sorted_iff hkeys hscalar).mpr rfl
      exact ⟨_, hperm, hpair, rfl⟩

/-- `canonical_json` writes the RFC 8785 serialization of every value that is JSON data, and
nothing else.  `Jcs` follows the RFC and ECMAScript's `Number::toString`, which asks for the
shortest digits that read back and the closest of these; that Python's `repr` gives these digits
is proved in `Axg.Python`, for every double. -/
theorem canonicalJson_eq_ok_iff (v : JsonData) (t : Str) :
    canonicalJson v.value = .ok t ↔ Jcs v.value t := by
  rw [canonicalJson_eq_render v.isCanonical, Except.ok.injEq,
    jcs_iff_render v.wf v.isCanonical v.isText]
  exact eq_comm

end Axg
