/-
# `json.dumps` with its defaults

The writer of `json.dumps(v)`: members in their own order, and every character that is not
printable ASCII as an escape of four hexadecimal digits, two of them for a character past
U+FFFF.

A reader joins a high surrogate's escape with a low one that follows.  A Python string can hold
the two as separate code points (`json.loads` decodes bytes with `surrogatepass`), and then the
text reads back as another string, with one character in their place: `loads_dumpsAscii` gives
the value up to `Json.rejoin`, which is the identity on values without such pairs.
-/
import Axg.Python.JsonDumps

namespace Axg.Python

/-! ## 1. Escapes -/

def isHighSurrogate (c : CodePoint) : Bool := 0xD800 ≤ c.val && c.val ≤ 0xDBFF

def isLowSurrogate (c : CodePoint) : Bool := 0xDC00 ≤ c.val && c.val ≤ 0xDFFF

/-- The escape of a code unit. -/
def escapeUnit (u : Nat) : Str :=
  [0x5C, 0x75, hexChar (u / 0x1000 % 16), hexChar (u / 0x100 % 16), hexChar (u / 0x10 % 16),
    hexChar (u % 16)]

/-- `json.encoder` with `ensure_ascii=True`. -/
def escapeAscii (c : CodePoint) : Str :=
  if c = 0x22 then [0x5C, 0x22]
  else if c = 0x5C then [0x5C, 0x5C]
  else if c = 0x0A then [0x5C, 0x6E]
  else if c = 0x0D then [0x5C, 0x72]
  else if c = 0x09 then [0x5C, 0x74]
  else if c = 0x0C then [0x5C, 0x66]
  else if c = 0x08 then [0x5C, 0x62]
  else if 0x20 ≤ c.val ∧ c.val < 0x7F then [c]
  else if c.val < 0x10000 then escapeUnit c.val
  else escapeUnit (0xD800 + (c.val - 0x10000) / 0x400) ++
    escapeUnit (0xDC00 + (c.val - 0x10000) % 0x400)

/-- The character of a surrogate pair. -/
def joinPair (high low : CodePoint) : CodePoint :=
  Fin.ofNat 0x110000 (0x10000 + (high.val - 0xD800) * 0x400 + (low.val - 0xDC00))

/-- A code point in front of a string, joined with it if the two are a pair. -/
def joinCons (c : CodePoint) : Str → Str
  | l :: s => if isHighSurrogate c && isLowSurrogate l then joinPair c l :: s else c :: l :: s
  | [] => [c]

/-- Every high surrogate joined with a low one that follows. -/
def joinSurrogates (s : Str) : Str := s.foldr joinCons []

theorem joinSurrogates_cons (c : CodePoint) (s : Str) :
    joinSurrogates (c :: s) = joinCons c (joinSurrogates s) := rfl

theorem joinCons_of_not_high {c : CodePoint} (h : isHighSurrogate c = false) (s : Str) :
    joinCons c s = c :: s := by
  cases s with
  | nil => rfl
  | cons l s => simp [joinCons, h]

theorem hex4_hexChar {u : Nat} (h : u < 0x10000) :
    hex4 (hexChar (u / 0x1000 % 16)) (hexChar (u / 0x100 % 16)) (hexChar (u / 0x10 % 16))
      (hexChar (u % 16)) = some u := by
  simp only [hex4, hexVal_hexChar _ (Nat.mod_lt _ (by decide : 16 > 0)), Option.some.injEq]
  omega

theorem scanString_escapeUnit {u : Nat} (h : u < 0x10000) (s : Str) :
    scanString (escapeUnit u ++ s) =
      if 0xD800 ≤ u ∧ u ≤ 0xDBFF then joinHigh u (escapedLow s) (scanString s)
      else consChar (Fin.ofNat 0x110000 u) (scanString s) := by
  simp only [escapeUnit, List.cons_append, List.nil_append]
  rw [scanString, hex4_hexChar h]

theorem escapedLow_escapeUnit {u : Nat} (h : u < 0x10000) (s : Str) :
    escapedLow (escapeUnit u ++ s) = (0xDC00 ≤ u && u ≤ 0xDFFF) := by
  simp only [escapeUnit, List.cons_append, List.nil_append]
  rw [escapedLow, hex4_hexChar h]

/-- A text escapes a low surrogate only where a backslash starts it, with the letter of a code
unit behind. -/
theorem escapedLow_of_ne {c : CodePoint} (h : c ≠ 0x5C) (s : Str) :
    escapedLow (c :: s) = false := by
  rw [escapedLow.eq_def]
  split
  · rename_i heq; cases heq; exact absurd rfl h
  · rfl

theorem escapedLow_of_ne_unit {c : CodePoint} (h : c ≠ 0x75) (s : Str) :
    escapedLow (0x5C :: c :: s) = false := by
  rw [escapedLow.eq_def]
  split
  · rename_i heq; cases heq; exact absurd rfl h
  · rfl

/-- The first code point of a string is a low surrogate. -/
def startsLow (s : Str) : Bool := s.head?.any isLowSurrogate

theorem startsLow_cons (c : CodePoint) (s : Str) : startsLow (c :: s) = isLowSurrogate c := rfl

/-! ## 2. The scanner reads the escapes -/

/-- What is read of a text is the string, and whether the text goes on with a low surrogate's
escape is whether the string starts with one. -/
structure Reads (text s r : Str) : Prop where
  scan : scanString text = .ok (s, r)
  low : escapedLow text = startsLow s

theorem Reads.plain {c : CodePoint} {text s r : Str} (h : Reads text s r)
    (hc : 0x20 ≤ c.val ∧ c.val < 0x7F) (h22 : c ≠ 0x22) (h5C : c ≠ 0x5C) :
    Reads (c :: text) (c :: s) r := by
  refine ⟨?_, ?_⟩
  · rw [scanString_plain h22 h5C (by omega), h.scan]; rfl
  · rw [escapedLow_of_ne h5C]
    have hlow : isLowSurrogate c = false := by
      simp only [isLowSurrogate, Bool.and_eq_false_iff, decide_eq_false_iff_not]; omega
    simp [startsLow, hlow]

theorem Reads.unescape {e c : CodePoint} {text s r : Str} (h : Reads text s r)
    (he : unescape e = some c) (hu : e ≠ 0x75) (hc : c.val < 0x7F) :
    Reads (0x5C :: e :: text) (c :: s) r := by
  refine ⟨?_, ?_⟩
  · rw [scanString_unescape hu he, h.scan]; rfl
  · rw [escapedLow_of_ne_unit hu]
    have hlow : isLowSurrogate c = false := by
      simp only [isLowSurrogate, Bool.and_eq_false_iff, decide_eq_false_iff_not]; omega
    simp [startsLow, hlow]

theorem ofNat_val (c : CodePoint) : Fin.ofNat 0x110000 c.val = c :=
  Fin.ext (Nat.mod_eq_of_lt c.isLt)

theorem ofNat_eq {n : Nat} {c : CodePoint} (h : n = c.val) : Fin.ofNat 0x110000 n = c := by
  rw [h, ofNat_val]

theorem isLowSurrogate_joinPair {c l : CodePoint} (hc : isHighSurrogate c = true)
    (hl : isLowSurrogate l = true) : isLowSurrogate (joinPair c l) = false := by
  simp only [isHighSurrogate, isLowSurrogate, Bool.and_eq_true, decide_eq_true_eq] at hc hl
  have hval : (joinPair c l).val
      = 0x10000 + (c.val - 0xD800) * 0x400 + (l.val - 0xDC00) := Nat.mod_eq_of_lt (by omega)
  rw [isLowSurrogate, hval, Bool.and_eq_false_iff, decide_eq_false_iff_not,
    decide_eq_false_iff_not]
  omega

/-- The scanner's joining is `joinCons`. -/
theorem joinHigh_ok {c : CodePoint} (hc : isHighSurrogate c = true) (s r : Str) :
    joinHigh c.val (startsLow s) (.ok (s, r)) = .ok (joinCons c s, r) := by
  cases s with
  | nil => rw [joinHigh, ofNat_val]; rfl
  | cons l s =>
    have hs : startsLow (l :: s) = isLowSurrogate l := rfl
    rw [hs, joinHigh, joinCons, hc, Bool.true_and, ofNat_val]
    cases isLowSurrogate l <;> rfl

theorem startsLow_joinCons_high {c : CodePoint} (hc : isHighSurrogate c = true) (s : Str) :
    startsLow (joinCons c s) = false := by
  have hnl : isLowSurrogate c = false := by
    simp only [isHighSurrogate, Bool.and_eq_true, decide_eq_true_eq] at hc
    simp only [isLowSurrogate, Bool.and_eq_false_iff, decide_eq_false_iff_not]
    omega
  cases s with
  | nil => exact hnl
  | cons l s =>
    rw [joinCons, hc, Bool.true_and]
    cases hl : isLowSurrogate l with
    | true => rw [if_pos rfl, startsLow_cons, isLowSurrogate_joinPair hc hl]
    | false => exact hnl

/-- A code unit's escape gives its code point, joined with a low surrogate that follows. -/
theorem Reads.unit {c : CodePoint} {text s r : Str} (h : Reads text s r)
    (hc : c.val < 0x10000) : Reads (escapeUnit c.val ++ text) (joinCons c s) r := by
  by_cases hhigh : 0xD800 ≤ c.val ∧ c.val ≤ 0xDBFF
  · have hh : isHighSurrogate c = true := by simpa [isHighSurrogate] using hhigh
    have hlow : (decide (0xDC00 ≤ c.val) && decide (c.val ≤ 0xDFFF)) = false := by
      rw [Bool.and_eq_false_iff, decide_eq_false_iff_not, decide_eq_false_iff_not]; omega
    refine ⟨?_, ?_⟩
    · rw [scanString_escapeUnit hc, if_pos hhigh, h.scan, h.low, joinHigh_ok hh]
    · rw [escapedLow_escapeUnit hc, hlow, startsLow_joinCons_high hh]
  · have hh : isHighSurrogate c = false := by
      simp only [isHighSurrogate, Bool.and_eq_false_iff, decide_eq_false_iff_not]; omega
    refine ⟨?_, ?_⟩
    · rw [scanString_escapeUnit hc, if_neg hhigh, h.scan, joinCons_of_not_high hh, ofNat_val]
      rfl
    · rw [escapedLow_escapeUnit hc, joinCons_of_not_high hh]
      rfl

/-- A character past U+FFFF is read back from its two code units. -/
theorem Reads.pair {c : CodePoint} {text s r : Str} (h : Reads text s r)
    (hc : 0x10000 ≤ c.val) :
    Reads (escapeUnit (0xD800 + (c.val - 0x10000) / 0x400) ++
      (escapeUnit (0xDC00 + (c.val - 0x10000) % 0x400) ++ text)) (c :: s) r := by
  have hlt := c.isLt
  have hlow : 0xDC00 + (c.val - 0x10000) % 0x400 < 0x10000 := by omega
  have hhigh : 0xD800 + (c.val - 0x10000) / 0x400 < 0x10000 := by omega
  have hl : (Fin.ofNat 0x110000 (0xDC00 + (c.val - 0x10000) % 0x400)).val
      = 0xDC00 + (c.val - 0x10000) % 0x400 := Nat.mod_eq_of_lt (by omega)
  have hrest := Reads.unit (c := Fin.ofNat 0x110000 (0xDC00 + (c.val - 0x10000) % 0x400)) h
    (by omega)
  rw [hl, joinCons_of_not_high (by
    simp only [isHighSurrogate, Bool.and_eq_false_iff, decide_eq_false_iff_not, hl]; omega)]
    at hrest
  refine ⟨?_, ?_⟩
  · have hlowText : escapedLow (escapeUnit (0xDC00 + (c.val - 0x10000) % 0x400) ++ text)
        = true := by
      rw [escapedLow_escapeUnit hlow, Bool.and_eq_true, decide_eq_true_eq, decide_eq_true_eq]
      omega
    rw [scanString_escapeUnit hhigh, if_pos (by omega), hrest.scan, hlowText]
    rw [joinHigh, if_pos rfl, hl, ofNat_eq]
    omega
  · rw [escapedLow_escapeUnit hhigh]
    have hnl : isLowSurrogate c = false := by
      simp only [isLowSurrogate, Bool.and_eq_false_iff, decide_eq_false_iff_not]; omega
    have hno : (decide (0xDC00 ≤ 0xD800 + (c.val - 0x10000) / 0x400)
        && decide (0xD800 + (c.val - 0x10000) / 0x400 ≤ 0xDFFF)) = false := by
      rw [Bool.and_eq_false_iff, decide_eq_false_iff_not, decide_eq_false_iff_not]; omega
    simp [startsLow, hnl, hno]

theorem Reads.escapeAscii (c : CodePoint) {text s r : Str} (h : Reads text s r) :
    Reads (Axg.Python.escapeAscii c ++ text) (joinCons c s) r := by
  have hj : c.val < 0x7F → joinCons c s = c :: s := fun hc => joinCons_of_not_high (by
    simp only [isHighSurrogate, Bool.and_eq_false_iff, decide_eq_false_iff_not]; omega) s
  unfold Axg.Python.escapeAscii
  by_cases h22 : c = 0x22
  · subst h22; rw [hj (by decide)]; exact h.unescape (by decide) (by decide) (by decide)
  by_cases h5C : c = 0x5C
  · subst h5C; rw [hj (by decide)]; exact h.unescape (by decide) (by decide) (by decide)
  by_cases h0A : c = 0x0A
  · subst h0A; rw [hj (by decide)]; exact h.unescape (by decide) (by decide) (by decide)
  by_cases h0D : c = 0x0D
  · subst h0D; rw [hj (by decide)]; exact h.unescape (by decide) (by decide) (by decide)
  by_cases h09 : c = 0x09
  · subst h09; rw [hj (by decide)]; exact h.unescape (by decide) (by decide) (by decide)
  by_cases h0C : c = 0x0C
  · subst h0C; rw [hj (by decide)]; exact h.unescape (by decide) (by decide) (by decide)
  by_cases h08 : c = 0x08
  · subst h08; rw [hj (by decide)]; exact h.unescape (by decide) (by decide) (by decide)
  simp only [h22, h5C, h0A, h0D, h09, h0C, h08, ↓reduceIte]
  split
  · rename_i hc
    rw [hj hc.2]
    exact h.plain hc h22 h5C
  · split
    · rename_i hc; exact h.unit hc
    · rename_i hc
      rw [joinCons_of_not_high (by
        simp only [isHighSurrogate, Bool.and_eq_false_iff, decide_eq_false_iff_not]; omega),
        List.append_assoc]
      exact h.pair (by omega)

/-- `ensure_ascii=True` -/
def Quoting.ascii : Quoting where
  body s := s.flatMap Axg.Python.escapeAscii
  read := joinSurrogates
  scan s r := by
    have h : Reads (s.flatMap Axg.Python.escapeAscii ++ 0x22 :: r) (joinSurrogates s) r := by
      induction s with
      | nil => exact ⟨rfl, escapedLow_of_ne (by decide) r⟩
      | cons c s ih =>
        rw [List.flatMap_cons, List.append_assoc, joinSurrogates_cons]
        exact Reads.escapeAscii c ih
    exact h.scan

/-! ## 3. Values -/

namespace Json

mutual

/-- The value with the surrogate pairs of its strings and keys joined.  Two keys that become
one keep the later value. -/
def rejoin : Json → Json
  | .str s => .str (joinSurrogates s)
  | .arr xs => .arr (rejoinItems xs)
  | .obj ms => .obj (Dict.ofPairs (rejoinMembers ms))
  | .null => .null
  | .bool b => .bool b
  | .int i => .int i
  | .float x => .float x

def rejoinItems : List Json → List Json
  | [] => []
  | v :: vs => rejoin v :: rejoinItems vs

def rejoinMembers : List (Str × Json) → List (Str × Json)
  | [] => []
  | (k, v) :: ms => (joinSurrogates k, rejoin v) :: rejoinMembers ms

end

mutual

/-- What the scanner makes of a value's document. -/
theorem doc_reread_value : ∀ v : Json, (v.doc.reread joinSurrogates).value = v.rejoin
  | .null => rfl
  | .bool _ => rfl
  | .int i => by
    simp only [doc, Doc.reread, Doc.value, intTok_isInt, ↓reduceIte, intTok_toInt, rejoin]
  | .float .nan => rfl
  | .float (.inf _) => rfl
  | .float (.finite neg m) => by
    obtain ⟨hint, hfloat⟩ := reprTok_toFloat neg m
    simp only [doc, Doc.reread, Doc.value, hint, Bool.false_eq_true, ↓reduceIte, hfloat, rejoin]
  | .str _ => rfl
  | .arr xs => congrArg Json.arr (docItems_reread_value xs)
  | .obj ms => congrArg (fun ms => Json.obj (Dict.ofPairs ms)) (docMembers_reread_value ms)

theorem docItems_reread_value : ∀ xs : List Json,
    Doc.itemsValue (Doc.rereadItems joinSurrogates (docItems xs)) = rejoinItems xs
  | [] => rfl
  | v :: vs => by
    rw [docItems, Doc.rereadItems, Doc.itemsValue, doc_reread_value v, docItems_reread_value vs,
      rejoinItems]

theorem docMembers_reread_value : ∀ ms : List (Str × Json),
    Doc.membersValue (Doc.rereadMembers joinSurrogates (docMembers ms)) = rejoinMembers ms
  | [] => rfl
  | (k, v) :: ms => by
    rw [docMembers, Doc.rereadMembers, Doc.membersValue, doc_reread_value v,
      docMembers_reread_value ms, rejoinMembers]

end

end Json

/-- `json.dumps(v)`, with `pad` after commas and colons. -/
def dumpsAscii (pad : Str) (v : Json) : Except PyError Str :=
  if v.hasShortInts then .ok (v.doc.render .ascii pad) else .error .valueError

/-- Reading the text back gives the value, its surrogate pairs joined. -/
theorem loads_dumpsAscii {pad : Str} (hpad : ∀ c ∈ pad, isJsonSpace c = true) {v : Json}
    {t : Str} (h : dumpsAscii pad v = .ok t) : loads t = .ok v.rejoin := by
  unfold dumpsAscii at h
  split at h
  · rename_i hs
    cases h
    rw [loads_render hpad .ascii (Json.doc_ok hs), ← Json.doc_reread_value]
    rfl
  · cases h

end Axg.Python
